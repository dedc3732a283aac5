import JobHerald.Crypto.Sha256

/-!
# Keyed digests

The keyed digest of a message hashes it twice, each time behind a block made
from the key.

## Main definitions

* `Hmac.digest` — the keyed digest with SHA-256.
-/

namespace JobHerald.Hmac

/-- The key as one block: a long key is replaced by its digest, a short one filled
up with zeros. -/
def keyBlock (key : List UInt8) : List UInt8 :=
  let key := if 64 < key.length then Sha256.digest key else key
  key ++ List.replicate (64 - key.length) 0

/-- The keyed digest of a message. -/
def digest (key message : List UInt8) : List UInt8 :=
  let block := keyBlock key
  let inner := Sha256.digest (block.map (· ^^^ 0x36) ++ message)
  Sha256.digest (block.map (· ^^^ 0x5c) ++ inner)

end JobHerald.Hmac
