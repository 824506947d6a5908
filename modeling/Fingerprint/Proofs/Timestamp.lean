import Fingerprint.Proofs.Chain
import Fingerprint.Proofs.Gregorian

/-!
# Timestamps sort like times

A timestamp is a row of columns: the year, the month, the day, the hour, the
minute, the second and the microseconds, each with a fixed number of digits,
and each followed by a mark. Rows of the same columns sort like the lists of
the numbers in them, as long as the numbers fit, and the numbers can be read
back from where they stand.

From 1970 to the end of the year 9999 all numbers fit. Later times have later
lists of numbers, since later days have later dates, and a list of numbers
tells its time.

* `Bytes.digits`, `Bytes.padZeros_ofNat`: numerals of a fixed width;
* `Columns`, `Columns.render`, `Columns.scan`: rows of columns, and how they are read;
* `Calendar.numbers`, `Calendar.timestamp_eq`: what a timestamp shows;
* `Calendar.timestamp_sorts`.
-/

namespace Fingerprint

/-! ## Numerals of a fixed width -/

namespace Bytes

/-- The last digits of a number. -/
def digits : (width : Nat) → Nat → Bytes
  | 0, _ => []
  | width + 1, n => digits width (n / 10) ++ [digit (n % 10)]

theorem digit_eq {d : Nat} (h : d < 10) : UInt8.ofNat (Nat.digitChar d).toNat = digit d := by
  have hall : ∀ d < 10, UInt8.ofNat (Nat.digitChar d).toNat = digit d := by decide
  exact hall d h

theorem toNat_digit {d : Nat} (h : d < 10) : (digit d).toNat = 48 + d := by
  rw [digit, UInt8.toNat_ofNat', Nat.mod_eq_of_lt (by omega)]

theorem ofNat_of_lt {n : Nat} (h : n < 10) : ofNat n = [digit n] := by
  rw [ofNat, Nat.toDigits_of_lt_base h, List.map_singleton, digit_eq h]

theorem ofNat_of_le {n : Nat} (h : 10 ≤ n) : ofNat n = ofNat (n / 10) ++ [digit (n % 10)] := by
  rw [ofNat, Nat.toDigits_of_base_le (by decide) h, List.map_append, List.map_singleton,
    digit_eq (Nat.mod_lt n (by decide))]
  rfl

theorem padZeros_concat (width : Nat) (s : Bytes) (b : UInt8) :
    padZeros (width + 1) (s ++ [b]) = padZeros width s ++ [b] := by
  rw [padZeros, padZeros, List.length_append, List.length_singleton, Nat.add_sub_add_right, List.append_assoc]

theorem digits_zero (width : Nat) : digits width 0 = List.replicate width 48 := by
  induction width with
  | zero => rfl
  | succ width ih =>
    rw [digits, Nat.zero_div, ih, List.replicate_succ']
    rfl

/-- A numeral is padded to the digits of the width, if it has no more. -/
theorem padZeros_ofNat {width n : Nat} (h : n < 10 ^ (width + 1)) :
    padZeros (width + 1) (ofNat n) = digits (width + 1) n := by
  induction width generalizing n with
  | zero =>
    have hn : n < 10 := h
    rw [ofNat_of_lt hn, digits, Nat.mod_eq_of_lt hn]
    rfl
  | succ width ih =>
    rw [digits]
    by_cases hn : n < 10
    · rw [ofNat_of_lt hn, Nat.mod_eq_of_lt hn, Nat.div_eq_of_lt hn, digits_zero]
      exact (padZeros_concat (width + 1) [] _).trans (by rw [padZeros, List.append_nil]; rfl)
    · rw [ofNat_of_le (Nat.le_of_not_lt hn), padZeros_concat, ih (Nat.div_lt_of_lt_mul (by omega))]

/-- A numeral that has as many digits as the width is not padded. -/
theorem ofNat_eq_digits {width n : Nat} (h : 10 ^ width ≤ n) (hlt : n < 10 ^ (width + 1)) :
    ofNat n = digits (width + 1) n := by
  induction width generalizing n with
  | zero =>
    have hn : n < 10 := hlt
    rw [ofNat_of_lt hn, digits, Nat.mod_eq_of_lt hn]
    rfl
  | succ width ih =>
    have hten : 10 ^ (width + 1) = 10 * 10 ^ width := Nat.pow_succ'
    have hpos : 0 < 10 ^ width := Nat.pow_pos (by decide)
    rw [digits, ofNat_of_le (by omega), ih (by omega) (Nat.div_lt_of_lt_mul (by omega))]

@[simp] theorem length_digits (width n : Nat) : (digits width n).length = width := by
  induction width generalizing n with
  | zero => rfl
  | succ width ih => rw [digits, List.length_append, ih, List.length_singleton]

theorem value_digits {width n : Nat} (h : n < 10 ^ width) : value (digits width n) = n := by
  induction width generalizing n with
  | zero =>
    obtain rfl := Nat.lt_one_iff.1 h
    rfl
  | succ width ih =>
    have hfront : value (digits width (n / 10)) = n / 10 := ih (Nat.div_lt_of_lt_mul (by omega))
    have hlast := toNat_digit (Nat.mod_lt n (by decide))
    rw [digits, value, List.foldl_append]
    change 10 * value (digits width (n / 10)) + ((digit (n % 10)).toNat - 48) = n
    omega

/-- What comes first decides, if there is as much of it. -/
theorem append_lt_append {s t : Bytes} (h : s < t) (hlength : s.length = t.length) (u v : Bytes) :
    s ++ u < t ++ v := by
  induction s generalizing t with
  | nil =>
    obtain rfl := List.length_eq_zero_iff.1 hlength.symm
    exact absurd h (List.lt_irrefl [])
  | cons b s ih =>
    cases t with
    | nil => cases hlength
    | cons c t =>
      rw [List.cons_append, List.cons_append, List.cons_lt_cons_iff]
      rcases List.cons_lt_cons_iff.1 h with hlt | ⟨rfl, hlt⟩
      · exact .inl hlt
      · exact .inr ⟨rfl, ih hlt (Nat.succ.inj hlength)⟩

theorem digits_lt_digits {width n m : Nat} (h : n < m) (hm : m < 10 ^ width) : digits width n < digits width m := by
  induction width generalizing n m with
  | zero => exact absurd h (by omega)
  | succ width ih =>
    rw [digits, digits]
    rcases Nat.lt_or_eq_of_le (Nat.div_le_div_right (Nat.le_of_lt h) : n / 10 ≤ m / 10) with hlt | heq
    · exact append_lt_append (ih hlt (Nat.div_lt_of_lt_mul (by omega))) (by simp) _ _
    · have hlast : digit (n % 10) < digit (m % 10) := by
        rw [UInt8.lt_iff_toNat_lt, toNat_digit (Nat.mod_lt n (by decide)), toNat_digit (Nat.mod_lt m (by decide))]
        omega
      rw [heq]
      exact List.append_left_lt (List.cons_lt_cons_iff.2 (.inl hlast))

end Bytes

/-! ## Rows of columns -/

/-- The widths of columns, each with the mark that follows it. -/
abbrev Columns := List (Nat × UInt8)

namespace Columns

/-- Each number has a column that it fits in. -/
abbrev Fits (columns : Columns) (numbers : List Nat) : Prop :=
  List.Forall₂ (fun column n => n < 10 ^ column.1) columns numbers

/-- The row of numbers. -/
def render : Columns → List Nat → Bytes
  | (width, mark) :: columns, n :: numbers => Bytes.digits width n ++ mark :: render columns numbers
  | _, _ => []

/-- Reads the numbers of a row from where they stand. -/
def scan : Columns → Bytes → List Nat
  | [], _ => []
  | (width, _) :: columns, row => Bytes.value (row.take width) :: scan columns (row.drop (width + 1))

variable {columns : Columns} {numbers others : List Nat}

theorem Fits.length_render (h : columns.Fits numbers) :
    (columns.render numbers).length = (columns.map (·.1 + 1)).sum := by
  induction h with
  | nil => rfl
  | cons _ _ ih =>
    rw [render, List.length_append, Bytes.length_digits, List.length_cons, ih, List.map_cons, List.sum_cons]
    omega

theorem Fits.scan_render (h : columns.Fits numbers) : columns.scan (columns.render numbers) = numbers := by
  induction h with
  | nil => rfl
  | @cons column n columns numbers hn _ ih =>
    obtain ⟨width, mark⟩ := column
    have htake (s : Bytes) : (Bytes.digits width n ++ s).take width = Bytes.digits width n :=
      List.take_left' (Bytes.length_digits width n)
    have hdrop (s : Bytes) : (Bytes.digits width n ++ mark :: s).drop (width + 1) = s := by
      rw [← List.drop_drop, List.drop_left' (Bytes.length_digits width n)]
      rfl
    rw [render, scan, htake, hdrop, ih, Bytes.value_digits hn]

/-- Rows sort like the numbers in them. -/
theorem Fits.render_lt (h : columns.Fits numbers) (hothers : columns.Fits others) (hlt : numbers < others) :
    columns.render numbers < columns.render others := by
  induction h generalizing others with
  | nil =>
    cases hothers
    exact absurd hlt (List.lt_irrefl [])
  | @cons column n columns numbers _ _ ih =>
    cases hothers with
    | @cons _ m _ others hm hrest =>
      rcases List.cons_lt_cons_iff.1 hlt with hfirst | ⟨rfl, hafter⟩
      · exact Bytes.append_lt_append (Bytes.digits_lt_digits hfirst hm) (by simp) _ _
      · exact List.append_left_lt (List.cons_lt_cons_iff.2 (.inr ⟨rfl, ih hrest hafter⟩))

end Columns

namespace Calendar

/-! ## What a timestamp shows -/

/-- The columns of a timestamp. -/
def columns : Columns := [(4, 0x2d), (2, 0x2d), (2, 0x54), (2, 0x3a), (2, 0x3a), (2, 0x2e), (6, 0x5a)]

/-- The time at which the year 9999 is over. -/
def endOfYears : Int := Date.toDays ⟨10000, 1, 1⟩ * 86400 * 1000000

/-- The numbers that a timestamp shows. -/
def numbers (micros : Int) : List Nat :=
  let date := Date.ofDays (micros / 1000000 / 86400)
  let secondOfDay := (micros / 1000000 % 86400).toNat
  [date.year.toNat, date.month, date.day, secondOfDay / 3600, secondOfDay / 60 % 60, secondOfDay % 60,
    (micros % 1000000).toNat]

/-- The time that numbers tell. -/
def timeOf : List Nat → Int
  | [year, month, day, hour, minute, second, micros] =>
    (((Date.toDays ⟨year, month, day⟩ * 24 + hour) * 60 + minute) * 60 + second) * 1000000 + micros
  | _ => 0

/-- Reads a timestamp. -/
def readTimestamp (text : Bytes) : Int := timeOf (columns.scan text)

variable {micros later : Int}

theorem year_bounds (h : 0 ≤ micros) (hend : micros < endOfYears) :
    1970 ≤ (Date.ofDays (micros / 1000000 / 86400)).year ∧ (Date.ofDays (micros / 1000000 / 86400)).year ≤ 9999 := by
  have hnumber := Date.toDays_ofDays (micros / 1000000 / 86400)
  have hvalid := Date.valid_ofDays (micros / 1000000 / 86400)
  generalize Date.ofDays (micros / 1000000 / 86400) = date at hnumber hvalid
  have hfirst := hvalid.yearStart_le_toDays
  have hlast := hvalid.toDays_lt_of_month_lt (Nat.lt_succ_of_le hvalid.month_le)
  rw [yearStart_add_daysBefore] at hlast
  have hzero : yearStart 1970 = 0 := by decide
  have hover : endOfYears = yearStart 10000 * 86400 * 1000000 := by decide
  constructor
  · refine Int.not_lt.1 fun hyear => ?_
    have hstart : yearStart (date.year + 1) ≤ yearStart 1970 := yearStart_le_yearStart hyear
    omega
  · refine Int.not_lt.1 fun hyear => ?_
    have hstart : yearStart 10000 ≤ yearStart date.year := yearStart_le_yearStart hyear
    omega

theorem fits_numbers (h : 0 ≤ micros) (hend : micros < endOfYears) : columns.Fits (numbers micros) := by
  obtain ⟨hyear, hyear'⟩ := year_bounds h hend
  have hvalid := Date.valid_ofDays (micros / 1000000 / 86400)
  have hmonth := hvalid.month_le
  have hday : (Date.ofDays (micros / 1000000 / 86400)).day ≤ 31 := by
    refine hvalid.day_le.trans ?_
    unfold daysInMonth
    split <;> (try split) <;> decide
  refine .cons ?_ (.cons ?_ (.cons ?_ (.cons ?_ (.cons ?_ (.cons ?_ (.cons ?_ .nil)))))) <;> dsimp only <;> omega

/-- What a timestamp shows are its numbers, each in its column. -/
theorem timestamp_eq (h : 0 ≤ micros) (hend : micros < endOfYears) :
    timestamp micros = columns.render (numbers micros) := by
  have hfits := fits_numbers h hend
  obtain ⟨hyear, -⟩ := year_bounds h hend
  have hseconds : seconds micros = micros / 1000000 := Int.tdiv_eq_ediv_of_nonneg h
  have hfraction : fraction micros = (micros % 1000000).toNat := by
    rw [fraction, Int.tmod_eq_emod_of_nonneg h]
    omega
  rw [timestamp, secondText, hseconds, hfraction]
  simp only [numbers] at hfits ⊢
  generalize Date.ofDays (micros / 1000000 / 86400) = date at hfits hyear ⊢
  obtain ⟨year, hnat⟩ := Int.eq_ofNat_of_zero_le (Int.le_trans (by decide) hyear)
  have hthousand : 10 ^ 3 ≤ year := by omega
  simp only [columns, List.forall₂_cons, hnat, Int.toNat_natCast] at hfits
  obtain ⟨hfour, hmonth, hday, hhour, hminute, hsecond, hmicros, -⟩ := hfits
  simp only [columns, Columns.render, hnat, Int.toNat_natCast, Bytes.ofInt,
    Bytes.ofNat_eq_digits hthousand hfour, Bytes.padZeros_ofNat hmonth, Bytes.padZeros_ofNat hday,
    Bytes.padZeros_ofNat hhour, Bytes.padZeros_ofNat hminute, Bytes.padZeros_ofNat hsecond,
    Bytes.padZeros_ofNat hmicros, List.append_assoc, List.cons_append]

theorem timeOf_numbers (h : 0 ≤ micros) (hend : micros < endOfYears) : timeOf (numbers micros) = micros := by
  have hnumber := Date.toDays_ofDays (micros / 1000000 / 86400)
  obtain ⟨hyear, -⟩ := year_bounds h hend
  simp only [numbers, timeOf, Int.toNat_of_nonneg (Int.le_trans (by decide) hyear), hnumber]
  omega

/-- Later times have later numbers. -/
theorem numbers_lt_numbers (h : 0 ≤ micros) (hlater : micros < later) (hend : later < endOfYears) :
    numbers micros < numbers later := by
  obtain ⟨hyear, -⟩ := year_bounds h (Int.lt_trans hlater hend)
  obtain ⟨hyear', -⟩ := year_bounds (Int.le_trans h (Int.le_of_lt hlater)) hend
  have hdays : micros / 1000000 / 86400 ≤ later / 1000000 / 86400 := by omega
  simp only [numbers, List.cons_lt_cons_iff]
  -- Either the day is later, or the seconds of one day and their fractions decide.
  rcases Int.lt_or_eq_of_le hdays with hlt | heq
  · have hbefore := Date.before_of_lt hlt
    unfold Date.Before at hbefore
    omega
  · rw [heq]
    omega

/-- From 1970 to the end of the year 9999, later times have later timestamps, all of one length, and each
    time can be read back from its timestamp, by the rules of the calendar. -/
theorem timestamp_sorts (h : 0 ≤ micros) (hlater : micros < later) (hend : later < endOfYears) :
    (timestamp micros).length = 27 ∧ (timestamp later).length = 27 ∧ timestamp micros < timestamp later ∧
      readTimestamp (timestamp micros) = micros ∧ readTimestamp (timestamp later) = later := by
  have hstart : 0 ≤ later := Int.le_trans h (Int.le_of_lt hlater)
  have hbefore : micros < endOfYears := Int.lt_trans hlater hend
  have hfits := fits_numbers h hbefore
  have hfits' := fits_numbers hstart hend
  rw [timestamp_eq h hbefore, timestamp_eq hstart hend]
  refine ⟨hfits.length_render, hfits'.length_render, hfits.render_lt hfits' (numbers_lt_numbers h hlater hend), ?_, ?_⟩
  · rw [readTimestamp, hfits.scan_render, timeOf_numbers h hbefore]
  · rw [readTimestamp, hfits'.scan_render, timeOf_numbers hstart hend]

/-- A leap day is over. -/
theorem timestamp_sorts_of_leap_day :
    timestamp 1709251199999999 = "2024-02-29T23:59:59.999999Z" ∧
      timestamp 1709251200000000 = "2024-03-01T00:00:00.000000Z" ∧
      timestamp 1709251199999999 < timestamp 1709251200000000 ∧
      readTimestamp (timestamp 1709251199999999) = 1709251199999999 := by
  obtain ⟨-, -, hlt, hread, -⟩ := @timestamp_sorts 1709251199999999 1709251200000000 (by decide) (by decide) (by decide)
  exact ⟨by decide, by decide, hlt, hread⟩

end Calendar

end Fingerprint
