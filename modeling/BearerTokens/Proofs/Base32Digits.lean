/-
BearerTokens.Proofs.Base32Digits — how many digits a text has, and which.

A number takes at most `k` digits exactly if it is below `32 ^ k`
(`length_digits_le_iff`), and whole groups of five bytes take eight digits each
(`length_groups`). Whatever is written, its characters are digits of the
alphabet and therefore ASCII. The window for the length of a key rests on these
facts and on nothing else about the two writers.
-/
import Mathlib.Algebra.Order.Ring.Nat
import BearerTokens.Base32Hex

namespace BearerTokens.Base32Hex

/-! ## Numbers -/

/-- A number below thirty-two is one digit. -/
theorem digits_of_lt {n : Nat} (h : n < 32) : digits n = [digit n] := by
  rw [digits, if_pos h]

/-- A larger number is the digits of its quotient, then one more. -/
theorem digits_of_ge {n : Nat} (h : 32 ≤ n) : digits n = digits (n / 32) ++ [digit n] := by
  rw [digits, if_neg (by omega)]

theorem length_digits_pos (n : Nat) : 0 < (digits n).length := by
  rcases Nat.lt_or_ge n 32 with h | h
  · simp [digits_of_lt h]
  · simp [digits_of_ge h]

/-- `k` digits hold the numbers below `32 ^ k` and no others. -/
theorem length_digits_le_iff {k : Nat} (hk : 0 < k) (n : Nat) :
    (digits n).length ≤ k ↔ n < 32 ^ k := by
  induction k generalizing n with
  | zero => omega
  | succ k ih =>
    rcases Nat.lt_or_ge n 32 with h | h
    · have hpow : 32 ≤ 32 ^ (k + 1) := Nat.le_self_pow (by omega) 32
      simp only [digits_of_lt h, List.length_singleton]
      omega
    · have hlen := length_digits_pos (n / 32)
      rw [digits_of_ge h, List.length_append, List.length_singleton, Nat.add_le_add_iff_right,
        Nat.pow_succ]
      rcases Nat.eq_zero_or_pos k with rfl | hpos
      · simp only [Nat.pow_zero]
        omega
      · rw [ih hpos, Nat.div_lt_iff_lt_mul (by omega)]

/-- The digits of a number are in the alphabet. -/
theorem mem_alphabet_of_mem_digits {n : Nat} {c : Char} (h : c ∈ digits n) : c ∈ alphabet := by
  induction n using digits.induct with
  | case1 n hlt =>
    rw [digits_of_lt hlt, List.mem_singleton] at h
    exact h ▸ digit_mem n
  | case2 n hge ih =>
    rw [digits_of_ge (by omega), List.mem_append, List.mem_singleton] at h
    rcases h with h | rfl
    · exact ih h
    · exact digit_mem n

/-! ## Bytes -/

/-- Bytes in whole groups of five take eight digits a group. -/
theorem length_groups {bytes : List UInt8} {k : Nat} (h : bytes.length = 5 * k) :
    (groups bytes).length = 8 * k := by
  induction k generalizing bytes with
  | zero =>
    rw [List.length_eq_zero_iff.1 h, groups]
    rfl
  | succ k ih =>
    match bytes, h with
    | a :: b :: c :: d :: e :: rest, h =>
      have hrest : rest.length = 5 * k := by simp only [List.length_cons] at h; omega
      rw [groups, List.length_append, ih hrest]
      simp only [groupDigits, List.length_cons, List.length_nil]
      omega

theorem mem_alphabet_of_mem_groupDigits {a b c d e : UInt8} {x : Char}
    (h : x ∈ groupDigits a b c d e) : x ∈ alphabet := by
  simp only [groupDigits, List.mem_cons, List.not_mem_nil, or_false] at h
  rcases h with rfl | rfl | rfl | rfl | rfl | rfl | rfl | rfl <;> exact digit_mem _

/-- The digits of bytes are in the alphabet; a last group that is cut short has
no others. -/
theorem mem_alphabet_of_mem_groups {bytes : List UInt8} {x : Char} (h : x ∈ groups bytes) :
    x ∈ alphabet := by
  induction bytes using groups.induct with
  | case1 a b c d e rest ih =>
    rw [groups, List.mem_append] at h
    rcases h with h | h
    · exact mem_alphabet_of_mem_groupDigits h
    · exact ih h
  | case2 | case3 | case4 | case5 =>
    rw [groups] at h
    exact mem_alphabet_of_mem_groupDigits (List.mem_of_mem_take h)
  | case6 => simp [groups] at h

/-! ## Characters -/

/-- The digits are ASCII. -/
theorem toNat_lt_of_mem_alphabet {c : Char} (h : c ∈ alphabet) : c.toNat < 128 := by
  have hall : alphabet.all (fun c => c.toNat < 128) = true := by decide
  exact of_decide_eq_true (List.all_eq_true.1 hall c h)

end BearerTokens.Base32Hex
