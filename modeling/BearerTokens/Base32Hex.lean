/-
BearerTokens.Base32Hex — the base-32 alphabet in which keys are written.

The digits are `0` to `9` and `a` to `v`, so that their order is that of their
values. There are two writers. `ofNat` writes a number without leading zeros.
`ofBytes` writes bytes, five of them as eight digits; a last group of fewer
bytes takes as many digits as it needs and no padding. `toNat?` reads a number
back.
-/
namespace BearerTokens.Base32Hex

/-! ## Digits -/

/-- The thirty-two digits in the order of their values. -/
def alphabet : List Char :=
  ['0', '1', '2', '3', '4', '5', '6', '7', '8', '9', 'a', 'b', 'c', 'd', 'e', 'f',
    'g', 'h', 'i', 'j', 'k', 'l', 'm', 'n', 'o', 'p', 'q', 'r', 's', 't', 'u', 'v']

/-- The digit of a value below thirty-two. -/
def digit (n : Nat) : Char :=
  alphabet.getD (n % 32) '0'

/-- The value of a digit. -/
def digitValue? (c : Char) : Option Nat :=
  alphabet.idxOf? c

/-- Every value below thirty-two is that of its digit. -/
theorem digitValue?_digit {n : Nat} (h : n < 32) : digitValue? (digit n) = some n := by
  revert n
  decide

theorem digit_mem (n : Nat) : digit n ∈ alphabet := by
  have h : ∀ m, m < 32 → digit m ∈ alphabet := by decide
  have hm : digit n = digit (n % 32) := by simp [digit]
  rw [hm]
  exact h _ (Nat.mod_lt _ (by decide))

/-! ## Numbers -/

/-- The digits of a number, the most significant first; zero has one digit. -/
def digits (n : Nat) : List Char :=
  if n < 32 then [digit n] else digits (n / 32) ++ [digit n]
termination_by n

/-- A number without leading zeros. -/
def ofNat (n : Nat) : String :=
  String.ofList (digits n)

/-- The number that digits stand for. -/
def value? (cs : List Char) : Option Nat :=
  cs.foldlM (fun acc c => (digitValue? c).map (32 * acc + ·)) 0

/-- The number that a text of at least one digit stands for. -/
def toNat? (s : String) : Option Nat :=
  if s.isEmpty then none else value? s.toList

/-! ## Bytes -/

/-- The eight digits of five bytes. -/
def groupDigits (a b c d e : UInt8) : List Char :=
  [digit (a >>> 3).toNat,
    digit ((a &&& 7) <<< 2 ||| b >>> 6).toNat,
    digit (b >>> 1 &&& 31).toNat,
    digit ((b &&& 1) <<< 4 ||| c >>> 4).toNat,
    digit ((c &&& 15) <<< 1 ||| d >>> 7).toNat,
    digit (d >>> 2 &&& 31).toNat,
    digit ((d &&& 3) <<< 3 ||| e >>> 5).toNat,
    digit (e &&& 31).toNat]

/-- The digits of bytes, in groups of five. -/
def groups : List UInt8 → List Char
  | a :: b :: c :: d :: e :: rest => groupDigits a b c d e ++ groups rest
  | [a, b, c, d] => (groupDigits a b c d 0).take 7
  | [a, b, c] => (groupDigits a b c 0 0).take 5
  | [a, b] => (groupDigits a b 0 0 0).take 4
  | [a] => (groupDigits a 0 0 0 0).take 2
  | [] => []

/-- Bytes in groups of five, without padding. -/
def ofBytes (bytes : List UInt8) : String :=
  String.ofList (groups bytes)

end BearerTokens.Base32Hex
