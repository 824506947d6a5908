import Fingerprint.Fault
import Fingerprint.Numeral

/-!
# Configuration

The settings of the service, and how environment variables override them. A
variable that is set to the empty text counts as unset. The variables are
looked at in a fixed order, and the first that is not of its form is the one
that is reported.

* `Configuration.overlay`: the base configuration with the variables applied.
-/

namespace Fingerprint

/-- The values of environment variables by their names. -/
abbrev Environment := String → Option Bytes

namespace Environment

/-- The environment that sets the variables of a list. A value ends before its first
    zero byte. -/
def ofList (entries : List (String × Bytes)) : Environment := fun name =>
  (entries.lookup name).map Bytes.untilZero

/-- The value of a variable that is set to something. -/
def nonempty? (environment : Environment) (name : String) : Option Bytes :=
  (environment name).filter fun value => !value.isEmpty

end Environment

/-- The settings of the service. -/
structure Configuration where
  /-- The failed authentications that are still tolerated in a row. -/
  maxFailedAttempts : UInt32 := 5
  lockoutSeconds : Int := 30
  enrollTimeoutSeconds : Int := 60
  /-- Whether a start that the driver rejects ends its session. -/
  teardownOnReject : Bool := false
  /-- The directory below which templates are kept. -/
  dataRoot : Bytes := "."
  deriving DecidableEq, Repr

namespace Configuration

/-- The number in a variable, which has to lie from `low` to `high`. -/
def parseNumber (name : String) (low high : Nat) (text : Bytes) : Except CodedError Nat :=
  match Numeral.natural (UInt64.size - 1) text with
  | .error .malformed => .error (.invalidConfigValue name)
  | .error .outOfRange => .error (.configValueOutOfRange name)
  | .ok n => if n < low || high < n then .error (.configValueOutOfRange name) else .ok n

/-- The flag in a variable. -/
def parseFlag (name : String) (text : Bytes) : Except CodedError Bool :=
  if text = Bytes.ofString "1" || text = Bytes.ofString "true" then .ok true
  else if text = Bytes.ofString "0" || text = Bytes.ofString "false" then .ok false
  else .error (.invalidConfigValue name)

/-- Reads a variable that is set, and changes nothing where it is not. -/
def applyVariable {α : Type} (environment : Environment) (name : String)
    (parse : String → Bytes → Except CodedError α) (set : Configuration → α → Configuration)
    (base : Configuration) : Except CodedError Configuration :=
  match environment.nonempty? name with
  | none => .ok base
  | some text => (parse name text).map (set base)

/-- The configuration `base` with the variables of the environment applied. -/
def overlay (environment : Environment) (base : Configuration) : Except CodedError Configuration := do
  let base ← applyVariable environment "FPC_MAX_FAILED_ATTEMPTS" (parseNumber · 1 1000)
    (fun c n => { c with maxFailedAttempts := UInt32.ofNat n }) base
  let base ← applyVariable environment "FPC_LOCKOUT_SECONDS" (parseNumber · 1 86400)
    (fun c n => { c with lockoutSeconds := n }) base
  let base ← applyVariable environment "FPC_ENROLL_TIMEOUT_SECONDS" (parseNumber · 1 3600)
    (fun c n => { c with enrollTimeoutSeconds := n }) base
  let base ← applyVariable environment "FPC_TEARDOWN_ON_REJECT" parseFlag
    (fun c flag => { c with teardownOnReject := flag }) base
  applyVariable environment "FPC_DATA_ROOT" (fun _ text => .ok text)
    (fun c root => { c with dataRoot := root }) base

end Configuration

end Fingerprint
