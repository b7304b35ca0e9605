import SessionTokens.Digest.Sha256
import SessionTokens.Digest.Sha512

/-! # Keyed hashes

The HMAC of RFC 2104. A key acts only through its block: keys shorter than a block are filled up
with zero bytes, longer ones are hashed first.
-/

namespace SessionTokens

/-- The hash functions that tokens are signed with. -/
inductive HashFunction where
  | sha256
  | sha384
  | sha512
deriving DecidableEq, Repr

namespace HashFunction

/-- The hash of a message. -/
def hash : HashFunction → List UInt8 → List UInt8
  | .sha256 => Sha256.hash
  | .sha384 => Sha512.hash384
  | .sha512 => Sha512.hash512

/-- The length of a block in bytes. -/
def blockSize : HashFunction → Nat
  | .sha256 => 64
  | .sha384 | .sha512 => 128

end HashFunction

namespace Hmac

/-- The block that a key acts through. -/
def keyBlock (f : HashFunction) (key : List UInt8) : List UInt8 :=
  let short := if f.blockSize < key.length then f.hash key else key
  short ++ List.replicate (f.blockSize - short.length) 0

/-- The signature of a message under a key given by its block. -/
def signWithBlock (f : HashFunction) (block message : List UInt8) : List UInt8 :=
  f.hash (block.map (· ^^^ 0x5C) ++ f.hash (block.map (· ^^^ 0x36) ++ message))

/-- The signature of a message under a key. -/
def sign (f : HashFunction) (key message : List UInt8) : List UInt8 :=
  signWithBlock f (keyBlock f key) message

end Hmac

end SessionTokens
