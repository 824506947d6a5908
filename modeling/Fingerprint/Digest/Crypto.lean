import Fingerprint.Digest.Hmac
import Fingerprint.Fault

/-!
# The crypto provider

What the rest of the library asks of cryptography: digests, keyed digests and
random bytes, each of which may fail. `Crypto.standard` computes the first two
and takes its random bytes from an entropy source.

* `Crypto.telemetryHash`: the hexadecimal digest under which a private value
  is shown; the empty value stays empty and is not hashed at all.
-/

namespace Fingerprint

/-- A provider of cryptographic functions, each of which may fail. -/
structure Crypto where
  sha256 : Bytes → Except Fault Bytes
  hmac : (key message : Bytes) → Except Fault Bytes
  /-- As many random bytes as asked for. -/
  random : Nat → Except Fault Bytes

namespace Crypto

/-- The largest number of random bytes that is handed out at once. -/
def randomLimit : Nat := 0x7fffffff

/-- More random bytes were asked for than are handed out at once. -/
def randomTooLarge : CodedError where
  domain := .internal
  code := 0
  message := "Random request too large"

/-- The provider that computes its digests, with random bytes from `entropy`. -/
def standard (entropy : Nat → Bytes) : Crypto where
  sha256 := fun message => .ok (Sha256.digest message)
  hmac := fun key message => .ok (Hmac.tag key message)
  random := fun n => if randomLimit < n then .error (.coded randomTooLarge) else .ok (entropy n)

/-- The first `n` bytes of a key repeated over and over; zeros for an empty key. -/
def cycle (key : Bytes) (n : Nat) : Bytes :=
  (List.range n).map fun i => key.getD (i % key.length) 0

/-- The hexadecimal digest of a value, and nothing for the empty value. -/
def telemetryHash (crypto : Crypto) (value : Bytes) : Except Fault Bytes :=
  if value.isEmpty then .ok [] else (crypto.sha256 value).map Bytes.hex

end Crypto

end Fingerprint
