/-
BearerTokens.Proofs.Utf8RoundTrip — what is written as UTF-8 is read again.

The machine that reads takes one byte at a time, and a character is at most
four of them. There are two facts about a single byte, one for the first byte
of a character and one for a later one; `decodeFrom_encodeChar` puts them
together along the ranges of `encodeChar`. The bounds on the second byte are
where the ranges matter: below them a character would have had a shorter
form, above them it would be a surrogate or too large.
-/
import BearerTokens.Text.Utf8
import Mathlib.Tactic.IntervalCases

namespace BearerTokens.Text

theorem toNat_ofNat_of_lt {n : Nat} (h : n < 256) : (UInt8.ofNat n).toNat = n := by
  rw [UInt8.toNat_ofNat']
  exact Nat.mod_eq_of_lt h

/-! ## One byte -/

/-- A byte that may follow, and is the last one of its character. -/
theorem decodeFrom_last {code low high b : Nat} (surrogates : Bool) (hlow : low ≤ b)
    (hhigh : b ≤ high) (hb : b < 256) (rest : List UInt8) :
    decodeFrom surrogates (.next code low high 0) (UInt8.ofNat b :: rest)
      = some (code * 0x40 + (b - 0x80)) :: decodeFrom surrogates .first rest := by
  rw [decodeFrom, toNat_ofNat_of_lt hb]
  simp only [Awaiting.step, hlow, hhigh, decide_true, Bool.and_true, if_true]
  rfl

/-- A byte that may follow, and is not the last one of its character. -/
theorem decodeFrom_more {code low high left b : Nat} (surrogates : Bool) (hlow : low ≤ b)
    (hhigh : b ≤ high) (hb : b < 256) (rest : List UInt8) :
    decodeFrom surrogates (.next code low high (left + 1)) (UInt8.ofNat b :: rest)
      = decodeFrom surrogates (.next (code * 0x40 + (b - 0x80)) 0x80 0xBF left) rest := by
  rw [decodeFrom, toNat_ofNat_of_lt hb]
  simp only [Awaiting.step, hlow, hhigh, decide_true, Bool.and_true, if_true]
  rfl

/-- The first byte of a character. -/
theorem decodeFrom_first {b : Nat} (surrogates : Bool) (hb : b < 256) (rest : List UInt8) :
    decodeFrom surrogates .first (UInt8.ofNat b :: rest)
      = (startCode surrogates b).2 ++ decodeFrom surrogates (startCode surrogates b).1 rest := by
  rw [decodeFrom, toNat_ofNat_of_lt hb]
  rfl

/-! ## One character -/

/-- The first of two bytes. -/
theorem startCode_two {m : Nat} (hlow : 2 ≤ m) (hhigh : m < 32) :
    startCode false (0xC0 + m) = (.next m 0x80 0xBF 0, []) := by
  interval_cases m <;> rfl

/-- The first of three bytes. -/
theorem startCode_three {m : Nat} (hm : m < 16) :
    startCode false (0xE0 + m)
      = (.next m (if m = 0 then 0xA0 else 0x80) (if m = 13 then 0x9F else 0xBF) 1, []) := by
  interval_cases m <;> rfl

/-- The first of four bytes. -/
theorem startCode_four {m : Nat} (hm : m < 5) :
    startCode false (0xF0 + m)
      = (.next m (if m = 0 then 0x90 else 0x80) (if m = 4 then 0x8F else 0xBF) 2, []) := by
  interval_cases m <;> rfl

/-- **One character**: its bytes are read as its code point. -/
theorem decodeFrom_encodeChar (c : Char) (rest : List UInt8) :
    decodeFrom false .first (encodeChar c ++ rest)
      = some c.toNat :: decodeFrom false .first rest := by
  have hvalid : c.toNat < 0xD800 ∨ 0xDFFF < c.toNat ∧ c.toNat < 0x110000 := c.valid
  unfold encodeChar
  generalize c.toNat = n at hvalid ⊢
  dsimp only
  split
  · rename_i h1
    rw [List.singleton_append, decodeFrom_first false (by omega)]
    simp [startCode, h1]
  split
  · rename_i h1 h2
    rw [List.cons_append, decodeFrom_first false (by omega),
      startCode_two (by omega) (by omega), List.nil_append, List.singleton_append,
      decodeFrom_last false (by omega) (by omega) (by omega)]
    have hcode : n / 0x40 * 0x40 + (0x80 + n % 0x40 - 0x80) = n := by
      omega
    rw [hcode]
  split
  · rename_i h1 h2 h3
    have hlow : (if n / 0x1000 = 0 then 0xA0 else 0x80) ≤ 0x80 + n / 0x40 % 0x40 := by
      split <;> omega
    have hhigh : 0x80 + n / 0x40 % 0x40 ≤ (if n / 0x1000 = 13 then 0x9F else 0xBF) := by
      split <;> omega
    rw [List.cons_append, decodeFrom_first false (by omega), startCode_three (by omega),
      List.nil_append, List.cons_append, decodeFrom_more false hlow hhigh (by omega),
      List.singleton_append, decodeFrom_last false (by omega) (by omega) (by omega)]
    have hcode : (n / 0x1000 * 0x40 + (0x80 + n / 0x40 % 0x40 - 0x80)) * 0x40 + (0x80 + n % 0x40 - 0x80) = n := by
      omega
    rw [hcode]
  · rename_i h1 h2 h3
    have hlow : (if n / 0x40000 = 0 then 0x90 else 0x80) ≤ 0x80 + n / 0x1000 % 0x40 := by
      split <;> omega
    have hhigh : 0x80 + n / 0x1000 % 0x40 ≤ (if n / 0x40000 = 4 then 0x8F else 0xBF) := by
      split <;> omega
    rw [List.cons_append, decodeFrom_first false (by omega), startCode_four (by omega),
      List.nil_append, List.cons_append, decodeFrom_more false hlow hhigh (by omega),
      List.cons_append, decodeFrom_more false (by omega) (by omega) (by omega),
      List.singleton_append, decodeFrom_last false (by omega) (by omega) (by omega)]
    have hcode : ((n / 0x40000 * 0x40 + (0x80 + n / 0x1000 % 0x40 - 0x80)) * 0x40
        + (0x80 + n / 0x40 % 0x40 - 0x80)) * 0x40 + (0x80 + n % 0x40 - 0x80) = n := by
      omega
    rw [hcode]

/-! ## Texts -/

/-- Every text is read as its code points. -/
theorem decodeFrom_flatMap (cs : List Char) :
    decodeFrom false .first (cs.flatMap encodeChar) = cs.map fun c => some c.toNat := by
  induction cs with
  | nil => rfl
  | cons c cs ih => rw [List.flatMap_cons, decodeFrom_encodeChar, ih, List.map_cons]

/-- **Texts**: what is written is read again. -/
theorem decodeLossy_encode (s : String) : decodeLossy (encode s) = s := by
  rw [decodeLossy, encode, decodeFrom_flatMap, List.map_map]
  have hchar : (fun code => Char.ofNat (code.getD 0xFFFD)) ∘ (fun c : Char => some c.toNat) = id := by
    funext c
    exact Char.ofNat_toNat c
  rw [hchar, List.map_id, String.ofList_toList]

end BearerTokens.Text
