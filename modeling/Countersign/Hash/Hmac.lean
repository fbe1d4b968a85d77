import Countersign.Hash.Sha256

/-!
HMAC over SHA-256: a keyed digest. Keys longer than a block are digested first, and shorter ones are
filled up with zeros.
-/

namespace Countersign.Hash

/-- The key as one block of 64 octets. -/
def hmacBlock (key : Bytes) : Bytes :=
  let short := if key.length ≤ 64 then key else Sha256.digest key
  short ++ List.replicate (64 - short.length) 0

/-- The HMAC of a message: 32 octets. -/
def hmac (key message : Bytes) : Bytes :=
  let block := hmacBlock key
  Sha256.digest (block.map (· ^^^ 0x5c) ++ Sha256.digest (block.map (· ^^^ 0x36) ++ message))

theorem length_hmac (key message : Bytes) : (hmac key message).length = 32 := Sha256.length_digest _

end Countersign.Hash
