/-
BearerTokens.Hash.Hmac — message authentication codes over SHA-1.

The key fills one block of 64 bytes; a longer key is replaced by its digest.
The code is the digest of the key block, masked one way, followed by the
digest of the key block, masked the other way, and the message.
-/
import BearerTokens.Hash.Sha1

namespace BearerTokens.Hash.Hmac

/-- The length of a block in bytes. -/
def blockLength : Nat := 64

/-- A key as one block. -/
def keyBlock (key : List UInt8) : List UInt8 :=
  let key := if blockLength < key.length then (Sha1.digest key).bytes else key
  key ++ List.replicate (blockLength - key.length) 0

/-- The authentication code of a message under a key. -/
def code (key message : List UInt8) : Sha1.Digest :=
  let block := keyBlock key
  let inner := Sha1.digest (block.map (· ^^^ 0x36) ++ message)
  Sha1.digest (block.map (· ^^^ 0x5C) ++ inner.bytes)

end BearerTokens.Hash.Hmac
