/-
BearerTokens.Proofs.PercentRoundTrip — what is percent-encoded is decoded again.

Decoding goes through the bytes from the left, so a text may stand before what
was encoded and another one after it; `percentDecodeBytes_percentEncode` says
what becomes of the rest, and is therefore an equation about an append.
-/
import BearerTokens.Text.Percent
import BearerTokens.Proofs.Utf8RoundTrip

namespace BearerTokens.Text

/-! ## Bytes -/

/-- A byte that is no `%` stands for itself. -/
theorem percentDecodeBytes_cons {b : UInt8} (h : b ≠ 0x25) (rest : List UInt8) :
    percentDecodeBytes (b :: rest) = b :: percentDecodeBytes rest := by
  match rest with
  | [] => rfl
  | [_] => rfl
  | x :: y :: more =>
    rw [percentDecodeBytes, if_neg]
    simpa using h

/-- A hexadecimal digit in upper case, as a byte. -/
def upperDigit (n : Nat) : UInt8 :=
  UInt8.ofNat (hexDigit n).toUpper.toNat

theorem encodeChar_hexDigit {n : Nat} (h : n < 16) :
    encodeChar (hexDigit n).toUpper = [upperDigit n] := by
  interval_cases n <;> rfl

theorem hexValue?_upperDigit {n : Nat} (h : n < 16) :
    hexValue? (Char.ofNat (upperDigit n).toNat) = some n := by
  interval_cases n <;> rfl

theorem toUpper_hexDigit_ne {n : Nat} (h : n < 16) : (hexDigit n).toUpper ≠ '?' := by
  interval_cases n <;> decide

theorem percentByte_eq (b : UInt8) :
    percentByte b
      = ['%', (hexDigit (b.toNat / 16)).toUpper, (hexDigit (b.toNat % 16)).toUpper] := by
  have hmod : hexDigit (b.toNat % 16) = hexDigit b.toNat := by
    rw [hexDigit, Nat.mod_mod, hexDigit]
  rw [hmod]
  rfl

theorem high_lt (b : UInt8) : b.toNat / 16 < 16 := by
  have hb := b.toNat_lt
  omega

theorem low_lt (b : UInt8) : b.toNat % 16 < 16 :=
  Nat.mod_lt _ (by decide)

/-- A byte is written as three. -/
theorem encode_percentByte (b : UInt8) :
    (percentByte b).flatMap encodeChar
      = [0x25, upperDigit (b.toNat / 16), upperDigit (b.toNat % 16)] := by
  have hpercent : encodeChar '%' = [0x25] := rfl
  simp only [percentByte_eq, List.flatMap_cons, List.flatMap_nil, hpercent,
    encodeChar_hexDigit (high_lt b), encodeChar_hexDigit (low_lt b)]
  rfl

/-- **One byte**: the three are read as it. -/
theorem percentDecodeBytes_percentByte (b : UInt8) (rest : List UInt8) :
    percentDecodeBytes ((percentByte b).flatMap encodeChar ++ rest)
      = b :: percentDecodeBytes rest := by
  have hbyte : UInt8.ofNat (16 * (b.toNat / 16) + b.toNat % 16) = b := by
    rw [Nat.div_add_mod, UInt8.ofNat_toNat]
  have hpair : hexPair? (upperDigit (b.toNat / 16)) (upperDigit (b.toNat % 16)) = some b := by
    rw [hexPair?, hexValue?_upperDigit (high_lt b), hexValue?_upperDigit (low_lt b)]
    exact congrArg some hbyte
  rw [encode_percentByte]
  simp [percentDecodeBytes, hpair]

theorem percentDecodeBytes_flatMap (bytes rest : List UInt8) :
    percentDecodeBytes ((bytes.flatMap percentByte).flatMap encodeChar ++ rest)
      = bytes ++ percentDecodeBytes rest := by
  induction bytes with
  | nil => rfl
  | cons b bytes ih =>
    rw [List.flatMap_cons, List.flatMap_append, List.append_assoc,
      percentDecodeBytes_percentByte, ih, List.cons_append]

/-! ## Characters -/

/-- An unreserved character is ASCII. -/
theorem toNat_lt_of_isUnreserved {c : Char} (h : isUnreserved c = true) : c.toNat < 0x80 := by
  have hle : ∀ d : Char, c ≤ d → c.toNat ≤ d.toNat := fun d hd => hd
  simp only [isUnreserved, isAlphanumeric, Bool.or_eq_true, Bool.and_eq_true, decide_eq_true_eq,
    beq_iff_eq] at h
  rcases h with ((((((⟨-, hz⟩ | ⟨-, hz⟩) | ⟨-, hz⟩) | rfl) | rfl) | rfl) | rfl)
  · exact Nat.lt_of_le_of_lt (hle 'z' hz) (by decide)
  · exact Nat.lt_of_le_of_lt (hle 'Z' hz) (by decide)
  · exact Nat.lt_of_le_of_lt (hle '9' hz) (by decide)
  · decide
  · decide
  · decide
  · decide

/-- A character that needs encoding does not stand for itself. -/
theorem ne_of_isUnreserved {c d : Char} (h : isUnreserved c = true) (hd : isUnreserved d = false) :
    c ≠ d := by
  rintro rfl
  rw [hd] at h
  exact absurd h (by decide)

/-- **One character**: what it is written as is read as its bytes. -/
theorem percentDecodeBytes_percentChar (c : Char) (rest : List UInt8) :
    percentDecodeBytes ((percentChar isUnreserved c).flatMap encodeChar ++ rest)
      = encodeChar c ++ percentDecodeBytes rest := by
  unfold percentChar
  split
  · rename_i hkeep
    have hascii := toNat_lt_of_isUnreserved hkeep
    have hne : UInt8.ofNat c.toNat ≠ 0x25 := by
      intro he
      have hcode : c.toNat = 0x25 := by
        rw [← toNat_ofNat_of_lt (Nat.lt_trans hascii (by decide)), he]
        rfl
      exact ne_of_isUnreserved hkeep (d := '%') (by decide) (Char.toNat_inj.1 hcode)
    rw [List.flatMap_singleton, encodeChar_ascii hascii, List.singleton_append,
      percentDecodeBytes_cons hne, List.singleton_append]
  · exact percentDecodeBytes_flatMap (encodeChar c) rest

/-! ## Texts -/

/-- **A text**: what it is written as is read as its bytes, whatever follows. -/
theorem percentDecodeBytes_percentEncode (s : String) (rest : List UInt8) :
    percentDecodeBytes (encode (percentEncode s) ++ rest) = encode s ++ percentDecodeBytes rest := by
  rw [percentEncode, percentEncodeKeeping, encode, String.toList_ofList, encode]
  induction s.toList with
  | nil => rfl
  | cons c cs ih =>
    rw [List.flatMap_cons, List.flatMap_append, List.append_assoc,
      percentDecodeBytes_percentChar, ih, List.flatMap_cons, List.append_assoc]

/-- What is encoded holds no question mark. -/
theorem mark_not_mem_percentEncode (s : String) : '?' ∉ (percentEncode s).toList := by
  rw [percentEncode, percentEncodeKeeping, String.toList_ofList]
  intro hmem
  obtain ⟨c, -, hc⟩ := List.mem_flatMap.1 hmem
  unfold percentChar at hc
  split at hc
  · rename_i hkeep
    exact ne_of_isUnreserved hkeep (by decide) (List.mem_singleton.1 hc).symm
  · obtain ⟨b, -, hb⟩ := List.mem_flatMap.1 hc
    rw [percentByte_eq] at hb
    simp only [List.mem_cons, List.not_mem_nil, or_false] at hb
    rcases hb with hb | hb | hb
    · exact absurd hb (by decide)
    · exact toUpper_hexDigit_ne (high_lt b) hb.symm
    · exact toUpper_hexDigit_ne (low_lt b) hb.symm

end BearerTokens.Text
