import Fingerprint.Bytes

/-!
# Faults

What an operation or a collaborator ends with when it does not return. A
*coded error* belongs to a domain and carries a code from the domain's
reserved range, a message from the catalogue below, and possibly the code of
the layer beneath. Anything else is a *plain* fault, known only by its message.

* `ErrorDomain.base`: each domain reserves the codes from its base on;
* `Fault.message`: the message that either kind of fault is reported with.
-/

namespace Fingerprint

/-- The part of the system that an error belongs to. -/
inductive ErrorDomain where
  | security
  | config
  | driver
  | session
  | state
  | internal
  deriving DecidableEq, Repr

namespace ErrorDomain

/-- The number of a domain. -/
def number : ErrorDomain → Int
  | security => 0x01
  | config => 0x05
  | driver => 0x06
  | session => 0x07
  | state => 0x08
  | internal => 0x7F

/-- The first code reserved by a domain. -/
def base : ErrorDomain → Int
  | security => 0x0100
  | config => 0x0500
  | driver => 0x0600
  | session => 0x0700
  | state => 0x0800
  | internal => 0x7F00

/-- The code at an offset into the range of a domain. -/
def code (domain : ErrorDomain) (offset : Int) : Int := domain.base + offset

end ErrorDomain

/-- Whether trying again may help. -/
inductive Retryability where
  | fatal
  | transient
  | retryable
  deriving DecidableEq, Repr

/-- An error of a domain. -/
structure CodedError where
  domain : ErrorDomain
  code : Int
  message : Bytes
  /-- The code that the layer beneath gave, if any. -/
  native : Option Int := none
  retry : Retryability := .fatal
  context : List Bytes := []
  deriving DecidableEq, Repr

/-- What an operation ends with instead of a result. -/
inductive Fault where
  | coded (error : CodedError)
  | plain (message : Bytes)
  deriving DecidableEq, Repr

namespace Fault

/-- The message that a fault is reported with, which ends before its first zero byte. -/
def message : Fault → Bytes
  | coded error => error.message.untilZero
  | plain message => message.untilZero

/-- The code of a fault, if it has one. -/
def code? : Fault → Option Int
  | coded error => some error.code
  | plain _ => none

end Fault

/-! ## The catalogue -/

namespace Message

def permissionDenied : Bytes := "Caller lacks the required permission"
def sensorUseDenied : Bytes := "Caller is not allowed to use the fingerprint sensor"
def driverUnavailable : Bytes := "Fingerprint driver not available"
def driverDied : Bytes := "Fingerprint driver died"
def driverTransportFailed : Bytes := "Fingerprint driver call failed"
def driverRejected : Bytes := "Fingerprint driver rejected request"
def deathLinkFailed : Bytes := "Failed to register for driver death notification"
def sinkUnreachable : Bytes := "Failed to deliver result to caller"
def lockoutActive : Bytes := "In lockout mode; disallowing authentication"
def lockoutDeliveryFailed : Bytes := "Cannot send lockout message to client"
def lockoutReset : Bytes := "Reset fingerprint lockout"
def enumerateLengthMismatch : Bytes := "Template ids and subjects differ in length"
def storageDirectoryFailed : Bytes := "Cannot create template storage directory"
def invalidConfigValue : Bytes := "Invalid configuration value"
def configValueOutOfRange : Bytes := "Configuration value out of range"
def invalidCaller : Bytes := "Caller token must be non-zero"
def queueStopped : Bytes := "Serial queue is not accepting work"

end Message

namespace CodedError

/-- The caller may not do what it asks for. -/
def permissionDenied : CodedError where
  domain := .security
  code := ErrorDomain.security.code 0x01
  message := Message.permissionDenied

/-- The text of a configuration variable is not of its form. -/
def invalidConfigValue (variableName : Bytes) : CodedError where
  domain := .config
  code := ErrorDomain.config.code 0x01
  message := Message.invalidConfigValue
  context := [variableName]

/-- The number in a configuration variable is out of its range. -/
def configValueOutOfRange (variableName : Bytes) : CodedError where
  domain := .config
  code := ErrorDomain.config.code 0x02
  message := Message.configValueOutOfRange
  context := [variableName]

/-- The code that a driver call is reported with when it gave none itself. -/
def driverTransportCode : Int := ErrorDomain.driver.code 0x01

/-- Nobody is named by the caller token zero. -/
def invalidCaller : CodedError where
  domain := .session
  code := ErrorDomain.session.code 0x02
  message := Message.invalidCaller

/-- What somebody waits for has been dropped with the rest of a queue. -/
def queueStopped : CodedError where
  domain := .state
  code := ErrorDomain.state.code 0x01
  message := Message.queueStopped

end CodedError

end Fingerprint
