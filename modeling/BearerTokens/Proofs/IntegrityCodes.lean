/-
BearerTokens.Proofs.IntegrityCodes — a digest in digits.

The code of a secret is its digest, written five bytes at a time as eight
digits. A number of forty bits is both, so a group of bytes and its digits stand
for the same number (`value?_groupDigits`), and so do whole groups one after the
other (`value?_groups`). A number below `32 ^ 32`, written without leading zeros
and filled up with zeros, has as many digits and stands for the same number; two
such texts are the same, whatever way they were written.

`standard` is how bytes are usually written, with capital letters and with a sign
in place of each digit of the last group that no byte reaches. A digest is four
whole groups, so nothing is put in place of a digit there and nothing has to be
taken away again.
-/
import Mathlib.Data.List.TakeWhile
import BearerTokens.Proofs.CanonicalDigits
import BearerTokens.Proofs.KeyRoundTrip
import BearerTokens.Text.Lowercase
import BearerTokens.Text.Blank

namespace BearerTokens

/-! ## Texts in ASCII -/

namespace Text

/-- In ASCII each character has its lower case wherever it stands. -/
theorem lowerAfter_ascii {cs : List Char} (h : ∀ c ∈ cs, c.toNat < 0x80) (before : List Char) :
    lowerAfter before cs = cs.map Char.toLower := by
  induction cs generalizing before with
  | nil => rfl
  | cons c rest ih =>
    obtain ⟨hc, hrest⟩ := List.forall_mem_cons.1 h
    have hsigma : (c.toNat == 0x3A3) = false := beq_eq_false_iff_ne.2 (by omega)
    rw [lowerAfter, hsigma, lowerChar_ascii hc, ih hrest]
    rfl

/-- What was put at the end is dropped again, and nothing else. -/
theorem trimEndChars_append_replicate {p : Char → Bool} {cs : List Char} {x : Char}
    (hcs : ∀ c ∈ cs, p c = false) (hx : p x = true) (k : Nat) :
    trimEndChars p (cs ++ List.replicate k x) = cs := by
  have hreverse : (cs ++ List.replicate k x).reverse = List.replicate k x ++ cs.reverse := by
    rw [List.reverse_append, List.reverse_replicate]
  have hdropped : ∀ c ∈ List.replicate k x, p c = true :=
    fun c hc => List.eq_of_mem_replicate hc ▸ hx
  have hkept : cs.reverse.dropWhile p = cs.reverse :=
    List.dropWhile_eq_self_iff.2 fun hlength => by
      simp [hcs]
  rw [trimEndChars, hreverse, List.dropWhile_append_of_pos hdropped, hkept, List.reverse_reverse]

end Text

/-! ## Bytes as a number -/

namespace Hash

theorem bytesToNat_eq_ofDigits (bytes : List UInt8) :
    bytesToNat bytes = Nat.ofDigits 256 (bytes.map UInt8.toNat).reverse := by
  induction bytes using List.reverseRecOn with
  | nil => rfl
  | append_singleton bytes b ih =>
    rw [bytesToNat, List.foldl_append, ← bytesToNat, ih, List.map_append, List.reverse_append]
    simp [Nat.ofDigits_cons, Nat.add_comm]

theorem bytesToNat_append (front back : List UInt8) :
    bytesToNat (front ++ back) = bytesToNat front * 256 ^ back.length + bytesToNat back := by
  simp only [bytesToNat_eq_ofDigits, List.map_append, List.reverse_append, Nat.ofDigits_append,
    List.length_reverse, List.length_map]
  ring

theorem lt_of_mem_reverse_map_toNat {bytes : List UInt8} {v : Nat}
    (h : v ∈ (bytes.map UInt8.toNat).reverse) : v < 256 := by
  obtain ⟨b, -, rfl⟩ := List.mem_map.1 (List.mem_reverse.1 h)
  exact b.toNat_lt

theorem bytesToNat_lt (bytes : List UInt8) : bytesToNat bytes < 256 ^ bytes.length := by
  have hall : ∀ v ∈ (bytes.map UInt8.toNat).reverse, v < 256 :=
    fun _ => lt_of_mem_reverse_map_toNat
  have hlt := Nat.ofDigits_lt_base_pow_length (by decide) hall
  rwa [← bytesToNat_eq_ofDigits, List.length_reverse, List.length_map] at hlt

/-- So many bytes of a number, leading zeros included. -/
def bytesOfNat (length n : Nat) : List UInt8 :=
  ((Nat.digitsAppend 256 length n).map UInt8.ofNat).reverse

/-- **Recovery**: bytes are found again in their number, if it is known how many. -/
theorem bytesOfNat_bytesToNat (bytes : List UInt8) :
    bytesOfNat bytes.length (bytesToNat bytes) = bytes := by
  have hdigits : Nat.digitsAppend 256 bytes.length (bytesToNat bytes)
      = (bytes.map UInt8.toNat).reverse := by
    rw [bytesToNat_eq_ofDigits]
    refine (Nat.setInvOn_digitsAppend_ofDigits (by decide) bytes.length).1 ⟨by simp, ?_⟩
    exact fun _ => lt_of_mem_reverse_map_toNat
  rw [bytesOfNat, hdigits, List.map_reverse, List.reverse_reverse, List.map_map]
  simp [Function.comp_def]

/-- A digest is known by its number. -/
theorem Sha1.Digest.eq_iff {d e : Sha1.Digest} :
    d = e ↔ bytesToNat d.bytes = bytesToNat e.bytes := by
  constructor
  · rintro rfl
    rfl
  · intro h
    refine Sha1.Digest.ext ?_
    rw [← bytesOfNat_bytesToNat d.bytes, ← bytesOfNat_bytesToNat e.bytes, h, d.length_eq,
      e.length_eq]

end Hash

namespace Base32Hex

open Hash (bytesToNat bytesToNat_append)

/-! ## A group of five bytes -/

/-- A digit that takes its upper bits from the end of one byte and its lower
bits from the beginning of the next. -/
theorem toNat_straddle (a b mask up down : UInt8) (k : Nat) (hmask : mask.toNat = 2 ^ k - 1)
    (hup : up.toNat < 8) (hdown : down.toNat < 8) (hsum : up.toNat + down.toNat = 8)
    (hk : k + up.toNat ≤ 8) :
    ((a &&& mask) <<< up ||| b >>> down).toNat
      = a.toNat % 2 ^ k * 2 ^ up.toNat + b.toNat / 2 ^ down.toNat := by
  have hlow : b.toNat / 2 ^ down.toNat < 2 ^ up.toNat := by
    rw [Nat.div_lt_iff_lt_mul (by positivity), ← Nat.pow_add, hsum]
    exact b.toNat_lt
  have hhigh : a.toNat % 2 ^ k * 2 ^ up.toNat < 2 ^ 8 := by
    calc a.toNat % 2 ^ k * 2 ^ up.toNat
        < 2 ^ k * 2 ^ up.toNat :=
          Nat.mul_lt_mul_of_pos_right (Nat.mod_lt _ (by positivity)) (by positivity)
      _ = 2 ^ (k + up.toNat) := (Nat.pow_add ..).symm
      _ ≤ 2 ^ 8 := Nat.pow_le_pow_right (by decide) hk
  rw [UInt8.toNat_or, UInt8.toNat_shiftLeft, UInt8.toNat_shiftRight, UInt8.toNat_and, hmask,
    Nat.and_two_pow_sub_one_eq_mod, Nat.mod_eq_of_lt hup, Nat.mod_eq_of_lt hdown,
    Nat.shiftRight_eq_div_pow, Nat.shiftLeft_eq, Nat.mod_eq_of_lt hhigh, ← Nat.shiftLeft_eq,
    ← Nat.shiftLeft_add_eq_or_of_lt hlow]

/-- A digit that lies inside a byte. -/
theorem toNat_window (a down : UInt8) (hdown : down.toNat < 8) :
    (a >>> down &&& 31).toNat = a.toNat / 2 ^ down.toNat % 32 := by
  rw [UInt8.toNat_and, UInt8.toNat_shiftRight, Nat.mod_eq_of_lt hdown, Nat.shiftRight_eq_div_pow]
  exact Nat.and_two_pow_sub_one_eq_mod _ 5

/-- The values of the eight digits of five bytes. -/
def groupValues (a b c d e : UInt8) : List Nat :=
  [a.toNat / 8, a.toNat % 8 * 4 + b.toNat / 64, b.toNat / 2 % 32,
    b.toNat % 2 * 16 + c.toNat / 16, c.toNat % 16 * 2 + d.toNat / 128, d.toNat / 4 % 32,
    d.toNat % 4 * 8 + e.toNat / 32, e.toNat % 32]

theorem groupDigits_eq_map (a b c d e : UInt8) :
    groupDigits a b c d e = (groupValues a b c d e).map digit := by
  have h0 : (a >>> 3).toNat = a.toNat / 8 := by
    rw [UInt8.toNat_shiftRight, Nat.shiftRight_eq_div_pow]
    rfl
  have h1 := toNat_straddle a b 7 2 6 3 rfl (by decide) (by decide) rfl (by decide)
  have h2 := toNat_window b 1 (by decide)
  have h3 := toNat_straddle b c 1 4 4 1 rfl (by decide) (by decide) rfl (by decide)
  have h4 := toNat_straddle c d 15 1 7 4 rfl (by decide) (by decide) rfl (by decide)
  have h5 := toNat_window d 2 (by decide)
  have h6 := toNat_straddle d e 3 3 5 2 rfl (by decide) (by decide) rfl (by decide)
  have h7 : (e &&& 31).toNat = e.toNat % 32 := by
    rw [UInt8.toNat_and]
    exact Nat.and_two_pow_sub_one_eq_mod _ 5
  rw [groupDigits, h0, h1, h2, h3, h4, h5, h6, h7]
  rfl

theorem lt_of_mem_groupValues {a b c d e : UInt8} {v : Nat} (h : v ∈ groupValues a b c d e) :
    v < 32 := by
  have ha := a.toNat_lt
  have hb := b.toNat_lt
  have hc := c.toNat_lt
  have hd := d.toNat_lt
  have he := e.toNat_lt
  simp only [groupValues, List.mem_cons, List.not_mem_nil, or_false] at h
  omega

/-- **A group** of five bytes and its eight digits are one number of forty bits. -/
theorem value?_groupDigits (a b c d e : UInt8) :
    value? (groupDigits a b c d e) = some (bytesToNat [a, b, c, d, e]) := by
  rw [groupDigits_eq_map, value?_map_digit fun _ => lt_of_mem_groupValues]
  simp only [groupValues, bytesToNat, List.reverse_cons, List.reverse_nil, List.nil_append,
    List.cons_append, Nat.ofDigits_cons, Nat.ofDigits_nil, List.foldl_cons, List.foldl_nil,
    Option.some.injEq]
  omega

/-! ## Groups one after the other -/

/-- Digits that others follow are worth more by as many places. -/
theorem value?_append {cs ds : List Char} {m n : Nat} (hcs : ∀ c ∈ cs, c ∈ alphabet)
    (hds : ∀ d ∈ ds, d ∈ alphabet) (hm : value? cs = some m) (hn : value? ds = some n) :
    value? (cs ++ ds) = some (m * 32 ^ ds.length + n) := by
  obtain ⟨vs, hvs, rfl⟩ := exists_values hcs
  obtain ⟨ws, hws, rfl⟩ := exists_values hds
  rw [value?_map_digit hvs, Option.some.injEq] at hm
  rw [value?_map_digit hws, Option.some.injEq] at hn
  have hall : ∀ v ∈ vs ++ ws, v < 32 := by
    simpa only [List.forall_mem_append] using And.intro hvs hws
  rw [← List.map_append, value?_map_digit hall, List.reverse_append, Nat.ofDigits_append, hm, hn,
    List.length_reverse, List.length_map, Option.some.injEq]
  ring

/-- **Regrouping**: whole groups of bytes and their digits are one number. -/
theorem value?_groups {bytes : List UInt8} {k : Nat} (h : bytes.length = 5 * k) :
    value? (groups bytes) = some (bytesToNat bytes) := by
  induction bytes using groups.induct generalizing k with
  | case1 a b c d e rest ih =>
    have hrest : rest.length = 5 * (k - 1) := by
      simp only [List.length_cons] at h
      omega
    have hpow : (32 : Nat) ^ (8 * (k - 1)) = 256 ^ (5 * (k - 1)) := by
      rw [Nat.pow_mul, Nat.pow_mul]
    rw [groups, value?_append (fun _ => mem_alphabet_of_mem_groupDigits)
      (fun _ => mem_alphabet_of_mem_groups) (value?_groupDigits a b c d e) (ih hrest),
      length_groups hrest, hpow, ← hrest, ← bytesToNat_append]
    rfl
  | case2 | case3 | case4 | case5 =>
    simp only [List.length_cons, List.length_nil] at h
    omega
  | case6 => rfl

/-! ## Filling up with zeros -/

theorem value?_replicate_zero (k : Nat) : value? (List.replicate k '0') = some 0 := by
  induction k with
  | zero => rfl
  | succ k ih =>
    rw [List.replicate_succ', value?_concat, ih]
    rfl

/-- Zeros in front change neither the alphabet nor the number. -/
theorem mem_alphabet_of_mem_leftpad {width n : Nat} {c : Char}
    (h : c ∈ (digits n).leftpad width '0') : c ∈ alphabet := by
  rw [List.leftpad, List.mem_append] at h
  rcases h with h | h
  · rw [List.eq_of_mem_replicate h]
    decide
  · exact mem_alphabet_of_mem_digits h

theorem value?_leftpad (width n : Nat) : value? ((digits n).leftpad width '0') = some n := by
  have hzeros : ∀ c ∈ List.replicate (width - (digits n).length) '0', c ∈ alphabet := by
    intro c hc
    rw [List.eq_of_mem_replicate hc]
    decide
  rw [List.leftpad, value?_append hzeros (fun _ => mem_alphabet_of_mem_digits)
    (value?_replicate_zero _) (value?_digits n), Nat.zero_mul, Nat.zero_add]

/-- **Fixed width**: what is written in groups is what is written without leading
zeros, filled up with zeros. -/
theorem groups_eq_leftpad {bytes : List UInt8} {k : Nat} (h : bytes.length = 5 * k) (hk : 0 < k) :
    groups bytes = (digits (bytesToNat bytes)).leftpad (8 * k) '0' := by
  have hlt : bytesToNat bytes < 32 ^ (8 * k) := by
    have hbytes := Hash.bytesToNat_lt bytes
    have hpow : (32 : Nat) ^ (8 * k) = 256 ^ (5 * k) := by
      rw [Nat.pow_mul, Nat.pow_mul]
    rwa [h, ← hpow] at hbytes
  have hdigits := (length_digits_le_iff (k := 8 * k) (by omega) _).2 hlt
  refine eq_of_value?_eq (fun _ => mem_alphabet_of_mem_groups)
    (fun _ => mem_alphabet_of_mem_leftpad) ?_ ?_
  · rw [length_groups h, List.length_leftpad, Nat.max_eq_left hdigits]
  · rw [value?_groups h, value?_leftpad]

/-! ## The usual way to write bytes -/

/-- The digits with capital letters. -/
def capitals : List Char :=
  ['0', '1', '2', '3', '4', '5', '6', '7', '8', '9', 'A', 'B', 'C', 'D', 'E', 'F',
    'G', 'H', 'I', 'J', 'K', 'L', 'M', 'N', 'O', 'P', 'Q', 'R', 'S', 'T', 'U', 'V']

/-- The values of the eight digits of a number of forty bits, from the highest bits on. -/
def quantumValues (n : Nat) : List Nat :=
  [35, 30, 25, 20, 15, 10, 5, 0].map fun place => n / 2 ^ place % 32

/-- The eight digits of a number of forty bits. -/
def quantum (n : Nat) : List Char :=
  (quantumValues n).map fun v => capitals.getD v '0'

/-- Bytes in groups of five. Where the last group has fewer, zeros take the place
of the bytes, and a sign takes the place of each digit that is made of zeros only. -/
def standard : List UInt8 → List Char
  | a :: b :: c :: d :: e :: rest => quantum (bytesToNat [a, b, c, d, e]) ++ standard rest
  | [a, b, c, d] => (quantum (bytesToNat [a, b, c, d, 0])).take 7 ++ List.replicate 1 '='
  | [a, b, c] => (quantum (bytesToNat [a, b, c, 0, 0])).take 5 ++ List.replicate 3 '='
  | [a, b] => (quantum (bytesToNat [a, b, 0, 0, 0])).take 4 ++ List.replicate 4 '='
  | [a] => (quantum (bytesToNat [a, 0, 0, 0, 0])).take 2 ++ List.replicate 6 '='
  | [] => []

theorem toLower_capital {v : Nat} (h : v < 32) : (capitals.getD v '0').toLower = digit v := by
  revert v
  decide

theorem lt_of_mem_quantumValues {n v : Nat} (h : v ∈ quantumValues n) : v < 32 := by
  obtain ⟨place, -, rfl⟩ := List.mem_map.1 h
  exact Nat.mod_lt _ (by decide)

/-- Eight digits hold forty bits. -/
theorem ofDigits_quantumValues {n : Nat} (h : n < 256 ^ 5) :
    Nat.ofDigits 32 (quantumValues n).reverse = n := by
  simp only [quantumValues, List.map_cons, List.map_nil, List.reverse_cons, List.reverse_nil,
    List.nil_append, List.cons_append, Nat.ofDigits_cons, Nat.ofDigits_nil]
  omega

/-- In lower case, the digits of a number of forty bits are those of its bytes. -/
theorem map_toLower_quantum (a b c d e : UInt8) :
    (quantum (bytesToNat [a, b, c, d, e])).map Char.toLower = groupDigits a b c d e := by
  have hbound : bytesToNat [a, b, c, d, e] < 256 ^ 5 := Hash.bytesToNat_lt [a, b, c, d, e]
  have hlower : (quantum (bytesToNat [a, b, c, d, e])).map Char.toLower
      = (quantumValues (bytesToNat [a, b, c, d, e])).map digit := by
    rw [quantum, List.map_map]
    exact List.map_congr_left fun v hv => toLower_capital (lt_of_mem_quantumValues hv)
  rw [hlower]
  refine eq_of_value?_eq ?_ (fun _ => mem_alphabet_of_mem_groupDigits) rfl ?_
  · intro x hx
    obtain ⟨v, -, rfl⟩ := List.mem_map.1 hx
    exact digit_mem v
  · rw [value?_map_digit fun _ => lt_of_mem_quantumValues, ofDigits_quantumValues hbound,
      value?_groupDigits]

/-- So it is if the last digits give way to signs. -/
theorem map_toLower_partial (a b c d e : UInt8) (i k : Nat) :
    ((quantum (bytesToNat [a, b, c, d, e])).take i ++ List.replicate k '=').map Char.toLower
      = (groupDigits a b c d e).take i ++ List.replicate k '=' := by
  rw [List.map_append, List.map_take, map_toLower_quantum, List.map_replicate]
  rfl

/-- **The usual way**, in lower case, is the digits of the bytes and then signs. -/
theorem map_toLower_standard (bytes : List UInt8) :
    ∃ k, (standard bytes).map Char.toLower = groups bytes ++ List.replicate k '='
      ∧ (bytes.length % 5 = 0 → k = 0) := by
  induction bytes using groups.induct with
  | case1 a b c d e rest ih =>
    obtain ⟨k, hk, hwhole⟩ := ih
    refine ⟨k, ?_, fun h => hwhole ?_⟩
    · rw [standard, groups, List.map_append, map_toLower_quantum, hk, List.append_assoc]
    · simp only [List.length_cons] at h
      omega
  | case2 => exact ⟨1, by rw [standard, groups, map_toLower_partial], by simp⟩
  | case3 => exact ⟨3, by rw [standard, groups, map_toLower_partial], by simp⟩
  | case4 => exact ⟨4, by rw [standard, groups, map_toLower_partial], by simp⟩
  | case5 => exact ⟨6, by rw [standard, groups, map_toLower_partial], by simp⟩
  | case6 => exact ⟨0, rfl, fun _ => rfl⟩

theorem mem_capitals_of_mem_quantum {n : Nat} {x : Char} (h : x ∈ quantum n) : x ∈ capitals := by
  obtain ⟨v, hv, rfl⟩ := List.mem_map.1 h
  have hlt : v < capitals.length := lt_of_mem_quantumValues hv
  rw [List.getD_eq_getElem _ _ hlt]
  exact List.getElem_mem hlt

theorem mem_of_mem_standard {bytes : List UInt8} {x : Char} (h : x ∈ standard bytes) :
    x ∈ capitals ∨ x = '=' := by
  induction bytes using standard.induct with
  | case1 a b c d e rest ih =>
    rw [standard, List.mem_append] at h
    rcases h with h | h
    · exact Or.inl (mem_capitals_of_mem_quantum h)
    · exact ih h
  | case2 | case3 | case4 | case5 =>
    rw [standard, List.mem_append] at h
    rcases h with h | h
    · exact Or.inl (mem_capitals_of_mem_quantum (List.mem_of_mem_take h))
    · exact Or.inr (List.eq_of_mem_replicate h)
  | case6 => cases h

theorem toNat_lt_of_mem_standard {bytes : List UInt8} {x : Char} (h : x ∈ standard bytes) :
    x.toNat < 0x80 := by
  have hcapitals : capitals.all (fun c => c.toNat < 0x80) = true := by decide
  rcases mem_of_mem_standard h with h | rfl
  · exact of_decide_eq_true (List.all_eq_true.1 hcapitals x h)
  · decide

/-- **The two writers**: digits without signs are written the usual way, put in
lower case and stripped of the signs at the end. -/
theorem ofBytes_eq_trimEnd (bytes : List UInt8) :
    ofBytes bytes = String.ofList
      (Text.trimEndChars (· == '=') (Text.lower (String.ofList (standard bytes))).toList) := by
  obtain ⟨k, hk, -⟩ := map_toLower_standard bytes
  have hdigits : ∀ x ∈ groups bytes, (x == '=') = false := by
    intro x hx
    rw [beq_eq_false_iff_ne]
    rintro rfl
    exact absurd (mem_alphabet_of_mem_groups hx) (by decide)
  rw [Text.lower, String.toList_ofList, String.toList_ofList,
    Text.lowerAfter_ascii fun _ => toNat_lt_of_mem_standard, hk,
    Text.trimEndChars_append_replicate hdigits (by decide), ofBytes]

/-- Whole groups need no signs. -/
theorem ofBytes_eq_lower {bytes : List UInt8} (h : bytes.length % 5 = 0) :
    ofBytes bytes = Text.lower (String.ofList (standard bytes)) := by
  obtain ⟨k, hk, hwhole⟩ := map_toLower_standard bytes
  rw [hwhole h, List.replicate_zero, List.append_nil] at hk
  rw [Text.lower, String.toList_ofList, Text.lowerAfter_ascii fun _ => toNat_lt_of_mem_standard,
    hk, ofBytes]

end Base32Hex

/-! ## Codes -/

namespace Codec

open Hash (bytesToNat bytesOfNat bytesOfNat_bytesToNat)

/-- The code of a secret is the number of its digest, with the zeros in front. -/
theorem toList_integrityCode (c : Codec) (s : String) :
    (c.integrityCode s).toList
      = (Base32Hex.ofNat (bytesToNat (c.digest s).bytes)).toList.leftpad 32 '0' := by
  rw [integrityCode, Base32Hex.ofBytes, Base32Hex.ofNat, String.toList_ofList,
    String.toList_ofList]
  have hlength : (c.digest s).bytes.length = 5 * 4 := (c.digest s).length_eq
  exact Base32Hex.groups_eq_leftpad hlength (by decide)

theorem toNat?_integrityCode (c : Codec) (s : String) :
    Base32Hex.toNat? (c.integrityCode s) = some (bytesToNat (c.digest s).bytes) := by
  have hcode : c.integrityCode s = String.ofList
      ((Base32Hex.digits (bytesToNat (c.digest s).bytes)).leftpad 32 '0') := by
    rw [← String.toList_inj, toList_integrityCode, Base32Hex.ofNat, String.toList_ofList,
      String.toList_ofList]
  have hne : (Base32Hex.digits (bytesToNat (c.digest s).bytes)).leftpad 32 '0' ≠ [] := by
    refine List.ne_nil_of_length_pos ?_
    rw [List.length_leftpad]
    exact Nat.lt_of_lt_of_le (by decide) (Nat.le_max_left 32 _)
  rw [hcode, Base32Hex.toNat?_ofList hne, Base32Hex.value?_leftpad]

/-- A code is that of one digest only. -/
theorem integrityCode_inj_iff {c d : Codec} {s t : String} :
    c.integrityCode s = d.integrityCode t ↔ c.digest s = d.digest t := by
  constructor
  · intro h
    have hnumber := congrArg Base32Hex.toNat? h
    rw [toNat?_integrityCode, toNat?_integrityCode, Option.some.injEq] at hnumber
    exact Hash.Sha1.Digest.eq_iff.2 hnumber
  · intro h
    rw [integrityCode, integrityCode, h]

end Codec
end BearerTokens
