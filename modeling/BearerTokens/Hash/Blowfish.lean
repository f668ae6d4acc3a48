/-
BearerTokens.Hash.Blowfish — the block cipher Blowfish and its key schedule.

The cipher's tables are 18 round keys and four boxes of 256 words, held here
in one vector of 1042 words in the order in which the schedule fills them.
Before any key they hold the binary digits of the fraction of π. `expand` is
the schedule: it folds a key into the round keys and then replaces all words,
two at a time, by running the cipher on its own output; a salt may be folded
into that output. All indices are in range by the type of the vector.
-/
import BearerTokens.Hash.Pi

namespace BearerTokens.Hash.Blowfish

/-! ## Tables -/

/-- The round keys and the boxes. -/
abbrev Tables := Vector UInt32 1042

/-- The digits of π, 32 to a word. -/
def piTables : Tables :=
  let digits := Pi.fraction (32 * 1042)
  Vector.ofFn fun i => UInt32.ofNat (digits >>> (32 * (1041 - i.val)))

/-- A round key. -/
@[inline] def roundKey (t : Tables) (i : Fin 18) : UInt32 :=
  t.get ⟨i.val, by omega⟩

/-- The word of a box, the boxes counted from zero, at a byte. -/
@[inline] def boxWord (t : Tables) (box : Fin 4) (byte : UInt8) : UInt32 :=
  t.get ⟨18 + 256 * box.val + byte.toNat, by have := byte.toNat_lt; omega⟩

/-! ## The cipher -/

/-- Mix a word through the four boxes. -/
@[inline] def feistel (t : Tables) (x : UInt32) : UInt32 :=
  ((boxWord t 0 (x >>> 24).toUInt8 + boxWord t 1 (x >>> 16).toUInt8)
    ^^^ boxWord t 2 (x >>> 8).toUInt8) + boxWord t 3 x.toUInt8

/-- The last `count` of the sixteen rounds; the halves change places after each. -/
def rounds (t : Tables) : (count : Nat) → count ≤ 16 → UInt32 → UInt32 → UInt32 × UInt32
  | 0, _, l, r => (l, r)
  | count + 1, h, l, r =>
    let l := l ^^^ roundKey t ⟨15 - count, by omega⟩
    let r := r ^^^ feistel t l
    rounds t count (by omega) r l

/-- Encrypt the two halves of a block. -/
def encipher (t : Tables) (l r : UInt32) : UInt32 × UInt32 :=
  let (l, r) := rounds t 16 (by decide) l r
  (r ^^^ roundKey t 17, l ^^^ roundKey t 16)

/-! ## The key schedule -/

/-- Fold a key of eighteen words into the round keys. -/
def foldKey (t : Tables) (key : Vector UInt32 18) : Tables :=
  Vector.ofFn fun i => if h : i.val < 18 then t.get i ^^^ key.get ⟨i.val, h⟩ else t.get i

/-- Replace the last `count` pairs of words; `l` and `r` are the pair before. -/
def refill (salt : Vector UInt32 4) :
    (count : Nat) → count ≤ 521 → Tables → UInt32 → UInt32 → Tables
  | 0, _, t, _, _ => t
  | count + 1, h, t, l, r =>
    let i := 521 - (count + 1)
    let l := l ^^^ salt.get ⟨2 * i % 4, by omega⟩
    let r := r ^^^ salt.get ⟨(2 * i + 1) % 4, by omega⟩
    let (l, r) := encipher t l r
    let t := t.set (2 * i) l (by omega)
    let t := t.set (2 * i + 1) r (by omega)
    refill salt count (by omega) t l r

/-- The tables after a key and a salt. -/
def expand (salt : Vector UInt32 4) (key : Vector UInt32 18) (t : Tables) : Tables :=
  refill salt 521 (by decide) (foldKey t key) 0 0

/-- The word at place `i` of bytes that repeat without end. -/
def cyclicWord (bytes : Array UInt8) (i : Nat) : UInt32 :=
  let byte (j : Nat) : UInt32 := (bytes.getD ((4 * i + j) % bytes.size) 0).toUInt32
  byte 0 <<< 24 ||| byte 1 <<< 16 ||| byte 2 <<< 8 ||| byte 3

/-- The first `n` words of bytes that repeat without end. -/
def cyclicWords (n : Nat) (bytes : Array UInt8) : Vector UInt32 n :=
  Vector.ofFn fun i => cyclicWord bytes i.val

end BearerTokens.Hash.Blowfish
