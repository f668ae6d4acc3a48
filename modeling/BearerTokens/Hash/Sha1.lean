/-
BearerTokens.Hash.Sha1 — the hash function SHA-1.

A message is padded to whole blocks of sixteen words. Each block is stretched
to a schedule of eighty words, one for each round, and the rounds stir five
words of state. The digest is the state as a `Digest`, a list of bytes whose
length of twenty is part of its type.
-/
import BearerTokens.Hash.Word

namespace BearerTokens.Hash.Sha1

/-! ## State -/

/-- The five words that the rounds stir. -/
structure State where
  a : UInt32
  b : UInt32
  c : UInt32
  d : UInt32
  e : UInt32

/-- The state before the first block. -/
def State.initial : State :=
  ⟨0x67452301, 0xEFCDAB89, 0x98BADCFE, 0x10325476, 0xC3D2E1F0⟩

/-- The sum of two states, word by word. -/
def State.add (s t : State) : State :=
  ⟨s.a + t.a, s.b + t.b, s.c + t.c, s.d + t.d, s.e + t.e⟩

/-- Rotate a word to the left. -/
def rotateLeft (w n : UInt32) : UInt32 :=
  w <<< n ||| w >>> (32 - n)

/-! ## Rounds -/

/-- The mixing function and the constant of a round. -/
def mix (round : Nat) (b c d : UInt32) : UInt32 :=
  if round < 20 then (b &&& c ||| ~~~b &&& d) + 0x5A827999
  else if round < 40 then (b ^^^ c ^^^ d) + 0x6ED9EBA1
  else if round < 60 then (b &&& c ||| b &&& d ||| c &&& d) + 0x8F1BBCDC
  else (b ^^^ c ^^^ d) + 0xCA62C1D6

/-- One round with its word of the schedule. -/
def round (s : State) (step : UInt32 × Nat) : State :=
  ⟨rotateLeft s.a 5 + mix step.2 s.b s.c s.d + s.e + step.1, s.a, rotateLeft s.b 30, s.c, s.d⟩

/-- Add `count` words to a schedule. -/
def stretch : Nat → Array UInt32 → Array UInt32
  | 0, w => w
  | count + 1, w =>
    let n := w.size
    let next := w.getD (n - 3) 0 ^^^ w.getD (n - 8) 0 ^^^ w.getD (n - 14) 0 ^^^ w.getD (n - 16) 0
    stretch count (w.push (rotateLeft next 1))

/-- The effect of a block of sixteen words. -/
def compress (s : State) (block : List UInt32) : State :=
  s.add ((stretch 64 block.toArray).toList.zipIdx.foldl round s)

/-- The effect of `count` blocks. -/
def compressAll : Nat → State → List UInt32 → State
  | 0, s, _ => s
  | count + 1, s, words => compressAll count (compress s (words.take 16)) (words.drop 16)

/-! ## Messages -/

/-- A message with a one bit, zeros, and its length in bits, to whole blocks. -/
def pad (message : List UInt8) : List UInt8 :=
  let bits := 8 * message.length
  let zeros := (119 - message.length % 64) % 64
  message ++ 0x80 :: List.replicate zeros 0
    ++ wordBytes (UInt32.ofNat (bits / Nat.pow 2 32)) ++ wordBytes (UInt32.ofNat bits)

/-- Twenty bytes. -/
structure Digest where
  bytes : List UInt8
  length_eq : bytes.length = 20

/-- Digests are equal when their bytes are. -/
theorem Digest.ext {d e : Digest} (h : d.bytes = e.bytes) : d = e := by
  cases d; cases e; simp_all

/-- The bytes of a state. -/
def State.digest (s : State) : Digest where
  bytes := wordBytes s.a ++ wordBytes s.b ++ wordBytes s.c ++ wordBytes s.d ++ wordBytes s.e
  length_eq := by simp

/-- The SHA-1 digest of a message. -/
def digest (message : List UInt8) : Digest :=
  let words := wordsOfBytes (pad message)
  (compressAll (words.length / 16) .initial words).digest

end BearerTokens.Hash.Sha1
