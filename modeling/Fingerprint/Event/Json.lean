import Fingerprint.Digest.Crypto
import Fingerprint.Event

/-!
# Events as lines of JSON

An event is written as one JSON object: the time, severity and category,
the identifier and the message unless they are empty, and the fields in
order. A public value is written as it is, a redacted one as a marker, a
hashed one as a tag of sixteen hexadecimal digits. A public number is written
without quotes. Strings are escaped byte by byte, so that a line holds no
control character.

When hashing fails with a coded error, the tag is replaced by a marker and a
complaint is made on the console; any other fault ends the writing.

* `Event.Json.format`: the whole object;
* `Event.Json.escape`: the escaping of strings;
* `Field.shown`: what becomes of a value, by its privacy.
-/

namespace Fingerprint

/-- A line on the console about something the audit log could not do. -/
def complaint (what : Bytes) (code : Option Int) : Bytes :=
  ("\x7b\"event\":\"logger_error\",\"message\":\"" : Bytes) ++ what ++
    (match code with
      | some c => ("\",\"error_code\":" : Bytes) ++ Bytes.ofInt c
      | none => "\"") ++
    ("\x7d" : Bytes)

/-- The outcome of writing something down, behind the complaints made meanwhile. -/
structure Written where
  complaints : List Bytes := []
  outcome : Except Fault Bytes

namespace Written

/-- Goes on writing after what was written so far, unless that has failed. -/
def andThen (w : Written) (next : Bytes → Written) : Written :=
  match w.outcome with
  | .error fault => ⟨w.complaints, .error fault⟩
  | .ok s => ⟨w.complaints ++ (next s).complaints, (next s).outcome⟩

/-- Writes without failing. -/
def done (s : Bytes) : Written := ⟨[], .ok s⟩

end Written

namespace Event.Json

/-- How one byte stands in a string: quotes, backslashes and control characters are
    escaped, all other bytes stand for themselves. -/
def escapeByte (b : UInt8) : Bytes :=
  if b = 0x5c then [0x5c, 0x5c]
  else if b = 0x22 then [0x5c, 0x22]
  else if b = 0x08 then [0x5c, 0x62]
  else if b = 0x0c then [0x5c, 0x66]
  else if b = 0x0a then [0x5c, 0x6e]
  else if b = 0x0d then [0x5c, 0x72]
  else if b = 0x09 then [0x5c, 0x74]
  else if b < 0x20 then ("\\u00" : Bytes) ++ Bytes.hexByte b
  else [b]

/-- How a text stands in a string. -/
def escape (s : Bytes) : Bytes := s.flatMap escapeByte

/-- A text as a string with its quotes. -/
def quoted (s : Bytes) : Bytes := 0x22 :: (escape s ++ [0x22])

/-- The number of hexadecimal digits in the tag of a hashed value. -/
def tagLength : Nat := 16

/-- What stands for a redacted value. -/
def redacted : Bytes := "[REDACTED]"

/-- What stands for a value that could not be hashed. -/
def unhashed : Bytes := "[UNHASHED]"

/-- The tag under which a hashed value is shown. -/
def hashTag (crypto : Crypto) (value : Bytes) : Written :=
  match crypto.telemetryHash value with
  | .ok digest => .done (digest.take tagLength)
  | .error (.coded error) => ⟨[complaint "field hash failed" (some error.code)], .ok unhashed⟩
  | .error fault => ⟨[], .error fault⟩

end Event.Json

namespace Field

open Event.Json

/-- What is shown of the value of a field. -/
def shown (crypto : Crypto) (field : Field) : Written :=
  match field.privacy with
  | .clear => .done field.value
  | .redact => .done redacted
  | .hash => hashTag crypto field.value

/-- Whether a field is written without quotes: a public number. -/
def bare (field : Field) : Bool := field.numeric && field.privacy = .clear

/-- A field as a member of the object, with the comma before it. -/
def member (crypto : Crypto) (field : Field) : Written :=
  (field.shown crypto).andThen fun value =>
    .done (0x2c :: (quoted field.key ++ 0x3a :: (if field.bare then value else quoted value)))

end Field

namespace Event.Json

/-- Fields as members of the object, in order. -/
def members (crypto : Crypto) : List Field → Written
  | [] => .done []
  | field :: rest =>
    (field.member crypto).andThen fun first =>
      (members crypto rest).andThen fun others => .done (first ++ others)

/-- A member with a string value, with the comma before it; left out if it is empty. -/
def optional (key value : Bytes) : Bytes :=
  if value.isEmpty then [] else 0x2c :: (quoted key ++ 0x3a :: quoted value)

/-- The members that every event has. -/
def header (event : Event) (timestamp : Bytes) : Bytes :=
  quoted "ts" ++ 0x3a :: quoted timestamp ++
    0x2c :: quoted "severity" ++ 0x3a :: quoted event.severity.name ++
    0x2c :: quoted "category" ++ 0x3a :: quoted event.category.name ++
    optional "event_id" event.id ++ optional "message" event.message

/-- An event as a JSON object. -/
def format (crypto : Crypto) (event : Event) (timestamp : Bytes) : Written :=
  (members crypto event.fields).andThen fun fields =>
    .done (0x7b :: (header event timestamp ++ fields ++ [0x7d]))

end Event.Json

end Fingerprint
