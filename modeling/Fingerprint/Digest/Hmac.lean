import Fingerprint.Digest.Sha256

/-!
# HMAC-SHA-256

A keyed digest: the message is hashed behind the key, and the result once
more behind the key, the key being masked differently each time. A key longer
than a block is replaced by its digest.

* `Hmac.length_tag`: a tag has 32 bytes.
-/

namespace Fingerprint

namespace Hmac

/-- The key filled up with zeros to a block of 64 bytes. -/
def blockKey (key : Bytes) : Bytes :=
  let short := if 64 < key.length then Sha256.digest key else key
  short ++ List.replicate (64 - short.length) 0

/-- The HMAC-SHA-256 tag of a message under a key. -/
def tag (key message : Bytes) : Bytes :=
  let block := blockKey key
  Sha256.digest (block.map (· ^^^ 0x5c) ++ Sha256.digest (block.map (· ^^^ 0x36) ++ message))

/-- A tag has 32 bytes. -/
@[simp] theorem length_tag (key message : Bytes) : (tag key message).length = 32 := rfl

end Hmac

end Fingerprint
