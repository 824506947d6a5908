import Fingerprint.Bytes

/-!
# Events

What the system tells its observers: an identifier, a message and a list of
fields, with a category and a severity. A field says whether its value may be
shown as it is, only under its hash, or not at all, and whether it is a
number.
-/

namespace Fingerprint

/-- How grave an event is. -/
inductive Severity where
  | debug
  | info
  | warning
  | error
  | critical
  deriving DecidableEq, Repr

/-- What an event is about. -/
inductive Category where
  | telemetry
  | lifecycle
  | security
  | diagnostics
  deriving DecidableEq, Repr

/-- What may be shown of the value of a field. -/
inductive Privacy where
  /-- The value itself. -/
  | clear
  /-- Nothing. -/
  | redact
  /-- The value's hash. -/
  | hash
  deriving DecidableEq, Repr

namespace Severity

/-- The name of a severity in log lines. -/
def name : Severity → String
  | debug => "debug"
  | info => "info"
  | warning => "warning"
  | error => "error"
  | critical => "critical"

end Severity

namespace Category

/-- The name of a category in log lines. -/
def name : Category → String
  | telemetry => "telemetry"
  | lifecycle => "lifecycle"
  | security => "security"
  | diagnostics => "diagnostics"

end Category

/-- A named value of an event. -/
structure Field where
  key : Bytes
  value : Bytes
  privacy : Privacy := .clear
  /-- Whether the value is a numeral, to be written without quotes. -/
  numeric : Bool := false
  deriving DecidableEq, Repr

namespace Field

/-- A value that may be shown to anybody. -/
def text (key value : Bytes) : Field := ⟨key, value, .clear, false⟩

/-- A value that is shown under its hash only. -/
def hashed (key value : Bytes) : Field := ⟨key, value, .hash, false⟩

/-- A number that may be shown to anybody. -/
def number (key : Bytes) (value : Int) : Field := ⟨key, Bytes.ofInt value, .clear, true⟩

/-- The caller token, which is never shown. -/
def caller (token : UInt64) : Field := hashed "caller" (Bytes.ofNat token.toNat)

end Field

/-- One thing that happened. -/
structure Event where
  category : Category := .diagnostics
  severity : Severity := .info
  id : Bytes
  message : Bytes := []
  fields : List Field := []
  deriving DecidableEq, Repr

end Fingerprint
