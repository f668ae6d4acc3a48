/-
BearerTokens.Proofs.KeyRoundTrip — a key that was handed out is recognised.

A key is a secret of variable length with a code of fixed length and nothing
between them. It is taken apart from the right, behind a check of its length
and of its characters. `check_keyOf` says that this gives back the hash of the
secret without a report, for every secret that can be drawn. `check_cases` says
what the check of any other text comes to.

`IsSecret` is all that is needed of a secret: the right length, and digits of
the alphabet. Numbers of more than 130 bits would have longer texts, therefore
the draws have to be bounded.
-/
import Mathlib.Data.List.GetD
import Mathlib.Tactic.IntervalCases
import Mathlib.Tactic.NormNum.Basic
import BearerTokens.Codec.Basic
import BearerTokens.Proofs.Base32Digits

namespace BearerTokens

/-! ## Draws -/

namespace Draws

/-- No number of more than 130 bits is drawn; the fresh ones never are. -/
def IsBounded (d : Draws) : Prop :=
  ∀ n ∈ d.scripted, n < 2 ^ 130

/-- The texts of twenty digits begin at `32 ^ 19`. -/
theorem isLong_iff (n : Nat) : isLong n = true ↔ 32 ^ 19 ≤ n := by
  have h := Base32Hex.length_digits_le_iff (k := 19) (by decide) n
  simp only [isLong, Secret.minLength, Base32Hex.ofNat, String.length_ofList, decide_eq_true_iff]
  omega

/-- The search for a long number ends at the first one among those to come,
at the latest at the first fresh one. -/
theorem exists_firstLong {fresh : Nat → Nat} (hfresh : ∀ i, 2 ^ 129 ≤ fresh i)
    (scripted : List Nat) (used : Nat) :
    ∃ i, (firstLong fresh scripted used).1 = scripted.getD i (fresh (used + i))
      ∧ isLong (scripted.getD i (fresh (used + i))) = true
      ∧ ∀ j < i, isLong (scripted.getD j (fresh (used + j))) = false := by
  induction scripted generalizing used with
  | nil =>
    refine ⟨0, rfl, ?_, by simp⟩
    rw [List.getD_nil, isLong_iff]
    exact Nat.le_trans (by decide) (hfresh used)
  | cons draw rest ih =>
    rw [firstLong]
    split
    · rename_i hlong
      exact ⟨0, rfl, hlong, by simp⟩
    · rename_i hshort
      obtain ⟨i, heq, hlong, hbefore⟩ := ih (used + 1)
      simp only [Nat.add_assoc, Nat.add_comm 1] at heq hlong hbefore
      refine ⟨i + 1, heq, hlong, ?_⟩
      intro j hj
      cases j with
      | zero => simpa using hshort
      | succ j => exact hbefore j (by omega)

/-- What is left of a list was in it. -/
theorem mem_of_mem_firstLong {fresh : Nat → Nat} {scripted : List Nat} {used n : Nat}
    (h : n ∈ (firstLong fresh scripted used).2.1) : n ∈ scripted := by
  induction scripted generalizing used with
  | nil => exact h
  | cons draw rest ih =>
    rw [firstLong] at h
    split at h
    · exact List.mem_cons_of_mem draw h
    · exact List.mem_cons_of_mem draw (ih h)

/-- What is accepted is the first number to come that is at least `2 ^ 95`. -/
theorem exists_get_accept (d : Draws) :
    ∃ i, d.accept.1 = d.get i ∧ 2 ^ 95 ≤ d.get i ∧ ∀ j < i, d.get j < 2 ^ 95 := by
  have hpow : 32 ^ 19 = 2 ^ 95 := by decide
  obtain ⟨i, heq, hlong, hbefore⟩ := exists_firstLong d.fresh_ge d.scripted d.used
  rw [isLong_iff, hpow] at hlong
  refine ⟨i, heq, hlong, ?_⟩
  intro j hj
  have hshort := hbefore j hj
  rw [Bool.eq_false_iff, ne_eq, isLong_iff, hpow] at hshort
  exact Nat.lt_of_not_le hshort

/-- The bound holds of all numbers to come. -/
theorem IsBounded.get_lt {d : Draws} (h : d.IsBounded) (i : Nat) : d.get i < 2 ^ 130 := by
  show d.scripted.getD i (d.fresh (d.used + i)) < 2 ^ 130
  by_cases hi : i < d.scripted.length
  · rw [List.getD_eq_getElem _ _ hi]
    exact h _ (List.getElem_mem hi)
  · rw [List.getD_eq_default _ _ (Nat.le_of_not_lt hi)]
    exact d.fresh_lt _

theorem drawSecret_fst (d : Draws) : d.drawSecret.1 = Base32Hex.ofNat d.accept.1 := rfl

/-- Drawing keeps the bound. -/
theorem IsBounded.drawSecret {d : Draws} (h : d.IsBounded) : d.drawSecret.2.IsBounded :=
  fun _ hn => h _ (mem_of_mem_firstLong hn)

end Draws

/-! ## Secrets -/

/-- A text that can be a secret. -/
structure IsSecret (s : String) : Prop where
  mem_alphabet : ∀ c ∈ s.toList, c ∈ Base32Hex.alphabet
  minLength_le : Secret.minLength ≤ s.length
  length_le : s.length ≤ Secret.maxLength

/-- Numbers in this range have texts of the right length. -/
theorem isSecret_ofNat {n : Nat} (hlong : 2 ^ 95 ≤ n) (hlt : n < 2 ^ 130) :
    IsSecret (Base32Hex.ofNat n) where
  mem_alphabet c hc := by
    rw [Base32Hex.ofNat, String.toList_ofList] at hc
    exact Base32Hex.mem_alphabet_of_mem_digits hc
  minLength_le := of_decide_eq_true ((Draws.isLong_iff n).2 hlong)
  length_le := by
    rw [Base32Hex.ofNat, String.length_ofList]
    exact (Base32Hex.length_digits_le_iff (by decide) _).2 hlt

/-- What is drawn is a secret. -/
theorem isSecret_drawSecret {d : Draws} (h : d.IsBounded) : IsSecret d.drawSecret.1 := by
  obtain ⟨i, heq, hlong, -⟩ := d.exists_get_accept
  rw [Draws.drawSecret_fst, heq]
  exact isSecret_ofNat hlong (h.get_lt i)

/-- ASCII characters take one byte each. -/
theorem length_encode_ascii {s : String} (h : ∀ c ∈ s.toList, Codec.isAscii c = true) :
    (Text.encode s).length = s.length := by
  have hone : ∀ c ∈ s.toList, (Text.encodeChar c).length = 1 := by
    intro c hc
    rw [Text.encodeChar_ascii (of_decide_eq_true (h c hc))]
    rfl
  rw [Text.encode, List.length_flatMap, List.map_congr_left hone, List.map_const',
    List.sum_replicate_nat, String.length_toList, Nat.mul_one]

/-- The characters of a secret are ASCII ones. -/
theorem IsSecret.isAscii {s : String} (h : IsSecret s) : ∀ c ∈ s.toList, Codec.isAscii c = true :=
  fun c hc => decide_eq_true (Base32Hex.toNat_lt_of_mem_alphabet (h.mem_alphabet c hc))

namespace Codec

/-! ## Hashes of secrets -/

/-- A text that is short enough is hashed if the setting can be used. -/
theorem storageHash_of_length_encode_le {c : Codec} (hc : c.IsUsable) {s : String}
    (hlength : (Text.encode s).length ≤ Hash.Bcrypt.maxLength) :
    c.storageHash s = .ok ⟨Hash.Bcrypt.hash c.setting (Text.encode s)⟩ := by
  simp only [storageHash, if_neg (Nat.not_lt.2 hlength), if_pos hc]

/-- If it cannot, the setting is what is wrong. -/
theorem storageHash_of_not_isUsable {c : Codec} (hc : ¬ c.IsUsable) {s : String}
    (hlength : (Text.encode s).length ≤ Hash.Bcrypt.maxLength) :
    c.storageHash s = .error .invalidSalt := by
  simp only [storageHash, if_neg (Nat.not_lt.2 hlength), if_neg hc]

/-- An ASCII text that is no longer than a secret is short enough. -/
theorem length_encode_le {s : String} (hascii : ∀ c ∈ s.toList, isAscii c = true)
    (hlength : s.length ≤ Secret.maxLength) :
    (Text.encode s).length ≤ Hash.Bcrypt.maxLength := by
  rw [length_encode_ascii hascii]
  exact Nat.le_trans hlength (by decide)

theorem storageHash_of_length_le {c : Codec} (hc : c.IsUsable) {s : String}
    (hascii : ∀ c ∈ s.toList, isAscii c = true) (hlength : s.length ≤ Secret.maxLength) :
    c.storageHash s = .ok ⟨Hash.Bcrypt.hash c.setting (Text.encode s)⟩ :=
  storageHash_of_length_encode_le hc (length_encode_le hascii hlength)

/-- A secret is, so only the setting matters. -/
theorem storageHash_of_isUsable {c : Codec} (hc : c.IsUsable) {s : String} (h : IsSecret s) :
    c.storageHash s = .ok ⟨Hash.Bcrypt.hash c.setting (Text.encode s)⟩ :=
  storageHash_of_length_le hc h.isAscii h.length_le

/-- Issuing draws one secret and hashes it. -/
theorem issue_eq (c : Codec) (d : Draws) :
    c.issue d = ((c.storageHash d.drawSecret.1).map fun hash => ⟨hash, c.keyOf d.drawSecret.1⟩,
      d.drawSecret.2) := rfl

/-! ## Codes -/

/-- The code of a secret has thirty-two characters. -/
theorem length_integrityCode (c : Codec) (s : String) :
    (c.integrityCode s).length = codeLength := by
  rw [integrityCode, Base32Hex.ofBytes, String.length_ofList,
    Base32Hex.length_groups (k := 4) (c.digest s).length_eq]
  rfl

theorem mem_alphabet_of_mem_integrityCode {c : Codec} {s : String} {x : Char}
    (h : x ∈ (c.integrityCode s).toList) : x ∈ Base32Hex.alphabet := by
  rw [integrityCode, Base32Hex.ofBytes, String.toList_ofList] at h
  exact Base32Hex.mem_alphabet_of_mem_groups h

/-- Behind the check of its characters, no text brings the comparison of the
codes to fail. -/
theorem sameText_splitKey (c : Codec) {key : String} (hascii : key.toList.all isAscii = true) :
    sameText (c.integrityCode (splitKey key).1) (splitKey key).2
      = .ok (c.integrityCode (splitKey key).1 == (splitKey key).2) := by
  have hcode : (c.integrityCode (splitKey key).1).toList.all isAscii = true := by
    refine List.all_eq_true.2 fun x hx => decide_eq_true ?_
    exact Base32Hex.toNat_lt_of_mem_alphabet (mem_alphabet_of_mem_integrityCode hx)
  have hpresented : (splitKey key).2.toList.all isAscii = true := by
    simp only [splitKey, String.toList_ofList]
    exact List.all_eq_true.2 fun x hx => List.all_eq_true.1 hascii x (List.mem_of_mem_drop hx)
  rw [sameText, hcode, hpresented]
  rfl

/-! ## Texts that are no keys, and texts that are -/

/-- The text has a length that no key has, or it is not ASCII. -/
def IsMalformed (key : String) : Prop :=
  key.length < 52 ∨ 58 < key.length ∨ ∃ x ∈ key.toList, isAscii x = false

theorem not_isMalformed_iff {key : String} : ¬ IsMalformed key
    ↔ 52 ≤ key.length ∧ key.length ≤ 58 ∧ ∀ x ∈ key.toList, isAscii x = true := by
  simp only [IsMalformed, not_or, not_exists, not_and, Bool.not_eq_false, Nat.not_lt]

/-- No codec takes such a text for a key, and all report the same of it. -/
theorem check_of_isMalformed {key : String} (h : IsMalformed key) :
    ∃ e, ∀ c : Codec, c.check key = ⟨.ok none, [e]⟩ := by
  cases hlen : (key.length < minKeyLength || maxKeyLength < key.length) with
  | true => exact ⟨.keyLength key.length, fun c => by rw [check, if_pos hlen]⟩
  | false =>
    have hascii : key.toList.all isAscii = false := by
      rw [Bool.or_eq_false_iff, decide_eq_false_iff_not, decide_eq_false_iff_not] at hlen
      rcases h with h | h | ⟨x, hx, hx'⟩
      · exact absurd h hlen.1
      · exact absurd h hlen.2
      · exact List.all_eq_false.2 ⟨x, hx, by rw [hx']; decide⟩
    exact ⟨.keyNotAscii, fun c => by simp [check, hlen, hascii]⟩

/-- The empty text is no key. -/
theorem isMalformed_empty : IsMalformed "" :=
  Or.inl (by decide)

/-- Does the text end in the code of what stands before it? -/
def HasCode (c : Codec) (key : String) : Prop :=
  c.integrityCode (splitKey key).1 = (splitKey key).2

/-- A text with another code is no key. -/
theorem hash?_of_not_hasCode {c : Codec} {key : String} (h : ¬ c.HasCode key) :
    (c.check key).hash? = .ok none := by
  have hcode : (c.integrityCode (splitKey key).1 == (splitKey key).2) = false :=
    beq_eq_false_iff_ne.2 h
  unfold check
  split
  · rfl
  · split
    · rfl
    · rename_i hascii
      rw [Bool.not_eq_true, Bool.not_eq_false'] at hascii
      simp [sameText_splitKey c hascii, hcode]

/-- Of all other texts the secret is hashed, and nothing is reported. -/
theorem check_of_hasCode {c : Codec} {key : String} (hkey : ¬ IsMalformed key)
    (hcode : c.HasCode key) : c.check key = ⟨(c.storageHash (splitKey key).1).map some, []⟩ := by
  obtain ⟨hmin, hmax, hascii⟩ := not_isMalformed_iff.1 hkey
  have hlen : (key.length < minKeyLength || maxKeyLength < key.length) = false := by
    rw [Bool.or_eq_false_iff, decide_eq_false_iff_not, decide_eq_false_iff_not]
    exact ⟨Nat.not_lt.2 hmin, Nat.not_lt.2 hmax⟩
  have hall : key.toList.all isAscii = true := List.all_eq_true.2 hascii
  have hcode' : (c.integrityCode (splitKey key).1 == (splitKey key).2) = true :=
    beq_iff_eq.2 hcode
  simp [check, hlen, hall, sameText_splitKey c hall, hcode']

/-- The secret of a text that is not malformed is short enough to be hashed. -/
theorem exists_storageHash_splitKey {c : Codec} (hc : c.IsUsable) {key : String}
    (hkey : ¬ IsMalformed key) : ∃ h, c.storageHash (splitKey key).1 = .ok h := by
  obtain ⟨-, hmax, hascii⟩ := not_isMalformed_iff.1 hkey
  refine ⟨_, storageHash_of_length_le hc ?_ ?_⟩
  · intro x hx
    simp only [splitKey, String.toList_ofList] at hx
    exact hascii x (List.mem_of_mem_take hx)
  · simp only [splitKey, String.length_ofList, List.length_take, String.length_toList,
      Secret.maxLength, codeLength]
    omega

/-- Of a text that leads to a hash nothing is reported. -/
theorem check_eq_of_hash? {c : Codec} {key : String} {h : StorageHash}
    (hhash : (c.check key).hash? = .ok (some h)) : c.check key = ⟨.ok (some h), []⟩ := by
  have hkey : ¬ IsMalformed key := by
    intro hmalformed
    obtain ⟨e, hcheck⟩ := check_of_isMalformed hmalformed
    simp [hcheck c] at hhash
  have hcode : c.HasCode key := by
    by_contra hother
    simp [hash?_of_not_hasCode hother] at hhash
  rw [check_of_hasCode hkey hcode] at hhash ⊢
  dsimp only at hhash
  rw [hhash]

/-- Where hashing works, every text is a key that leads to a hash, or it is
none, and then it is malformed or has another code. -/
theorem check_cases {c : Codec} (hc : c.IsUsable) (key : String) :
    (∃ h, c.check key = ⟨.ok (some h), []⟩)
      ∨ (c.check key).hash? = .ok none ∧ (IsMalformed key ∨ ¬ c.HasCode key) := by
  by_cases hkey : IsMalformed key
  · obtain ⟨e, hcheck⟩ := check_of_isMalformed hkey
    exact Or.inr ⟨by rw [hcheck c], Or.inl hkey⟩
  · by_cases hcode : c.HasCode key
    · obtain ⟨h, hhash⟩ := exists_storageHash_splitKey hc hkey
      exact Or.inl ⟨h, by rw [check_of_hasCode hkey hcode, hhash]; rfl⟩
    · exact Or.inr ⟨hash?_of_not_hasCode hcode, Or.inr hcode⟩

/-! ## Keys -/

theorem length_keyOf (c : Codec) (s : String) : (c.keyOf s).length = s.length + codeLength := by
  rw [keyOf, String.length_append, length_integrityCode]

/-- All characters of a key are digits. -/
theorem mem_alphabet_of_mem_keyOf {c : Codec} {s : String} (h : IsSecret s) {x : Char}
    (hx : x ∈ (c.keyOf s).toList) : x ∈ Base32Hex.alphabet := by
  rw [keyOf, String.toList_append, List.mem_append] at hx
  rcases hx with hx | hx
  · exact h.mem_alphabet x hx
  · exact mem_alphabet_of_mem_integrityCode hx

/-- A key is taken apart where it was put together. -/
theorem splitKey_append {s code : String} (h : code.length = codeLength) :
    splitKey (s ++ code) = (s, code) := by
  have hcut : (s ++ code).toList.length - codeLength = s.toList.length := by
    rw [String.toList_append, List.length_append, String.length_toList, String.length_toList, h,
      Nat.add_sub_cancel]
  rw [splitKey, hcut, String.toList_append, List.take_left, List.drop_left, String.ofList_toList,
    String.ofList_toList]

theorem splitKey_keyOf (c : Codec) (s : String) :
    splitKey (c.keyOf s) = (s, c.integrityCode s) :=
  splitKey_append (c.length_integrityCode s)

/-- A text of the length of a secret, if it is ASCII, has a key that passes the
checks of length and characters. -/
theorem not_isMalformed_keyOf (c : Codec) {s : String} (hascii : ∀ x ∈ s.toList, isAscii x = true)
    (hmin : Secret.minLength ≤ s.length) (hmax : s.length ≤ Secret.maxLength) :
    ¬ IsMalformed (c.keyOf s) := by
  simp only [Secret.minLength, Secret.maxLength] at hmin hmax
  rw [not_isMalformed_iff, length_keyOf, codeLength]
  refine ⟨by omega, by omega, fun x hx => ?_⟩
  rw [keyOf, String.toList_append, List.mem_append] at hx
  rcases hx with hx | hx
  · exact hascii x hx
  · exact decide_eq_true (Base32Hex.toNat_lt_of_mem_alphabet (mem_alphabet_of_mem_integrityCode hx))

/-- The key of any text has the code of the text. -/
theorem hasCode_keyOf (c : Codec) (s : String) : c.HasCode (c.keyOf s) := by
  rw [HasCode, splitKey_keyOf]

/-- **Round trip**: the key of a secret leads to the hash of the secret, and
nothing is reported. -/
theorem check_keyOf (c : Codec) {s : String} (h : IsSecret s) :
    c.check (c.keyOf s) = ⟨(c.storageHash s).map some, []⟩ := by
  have hkey : ¬ IsMalformed (c.keyOf s) :=
    c.not_isMalformed_keyOf h.isAscii h.minLength_le h.length_le
  rw [check_of_hasCode hkey (c.hasCode_keyOf s), splitKey_keyOf]

/-! ## Samples -/

/-- A configuration of the least cost. -/
def sampleConfig : Config where
  secret := "s"
  salt := "$2a$04$......................"
  parts := ⟨'a', '0', '4', List.replicate 22 '.'⟩
  secret_ne := by decide
  salt_parts := by decide

/-- A codec that can hash. -/
def sample : Codec :=
  ⟨sampleConfig, by decide, by decide⟩

theorem isUsable_sample : sample.IsUsable := by
  decide

/-- Another configuration, of another variant and cost. -/
def otherConfig : Config where
  secret := "t"
  salt := "$2b$05$abcdefghijklmnopqrstue"
  parts := ⟨'b', '0', '5', "abcdefghijklmnopqrstue".toList⟩
  secret_ne := by decide
  salt_parts := by decide

/-- A codec that shares nothing with the first one. -/
def otherSample : Codec :=
  ⟨otherConfig, by decide, by decide⟩

theorem isUsable_otherSample : otherSample.IsUsable := by
  decide

end Codec

/-- A draw that is too short, one that is not, and the least fresh ones. -/
def Draws.sample : Draws where
  scripted := [7, 2 ^ 129 + 1]
  used := 0
  fresh _ := 2 ^ 129
  fresh_ge _ := Nat.le_refl _
  fresh_lt _ := by decide

theorem Draws.isBounded_sample : Draws.sample.IsBounded := by
  show ∀ n ∈ [7, 2 ^ 129 + 1], n < 2 ^ 130
  decide

/-- Fresh draws only, the greatest ones. -/
def Draws.otherSample : Draws where
  scripted := []
  used := 3
  fresh _ := 2 ^ 130 - 1
  fresh_ge _ := by decide
  fresh_lt _ := by decide

theorem Draws.isBounded_otherSample : Draws.otherSample.IsBounded :=
  fun _ hn => absurd hn List.not_mem_nil

/-! ## Issued keys -/

namespace Codec

/-- If some secret can be hashed, the setting can be used. -/
theorem isUsable_of_storageHash {c : Codec} {s : String} {h : StorageHash}
    (hhash : c.storageHash s = .ok h) : c.IsUsable := by
  simp only [storageHash] at hhash
  split at hhash
  · cases hhash
  · split at hhash
    · assumption
    · cases hhash

/-- The secret of a key is what stands before the last thirty-two characters. -/
theorem take_keyOf (c : Codec) (s : String) :
    String.ofList ((c.keyOf s).toList.take ((c.keyOf s).length - codeLength)) = s := by
  rw [← String.length_toList]
  exact congrArg Prod.fst (c.splitKey_keyOf s)

/-- **An issued key is recognised**: if a number of at least `2 ^ 95` is among
the draws and none up to it is too long, a key is issued. It leads back to its
hash without a report, it has the length and the characters of a key, and the
hash is that of its secret. Nothing but the first number of at least `2 ^ 95`
matters, so that the draws stand for any stream that holds one. -/
theorem issued_key_is_recognised (c : Codec)
    (hhash : ∃ secret hash, c.storageHash secret = .ok hash) (d : Draws) (n : Nat)
    (hlong : 2 ^ 95 ≤ d.get n) (hbound : ∀ i ≤ n, d.get i < 2 ^ 130) :
    ∃ hash key, (c.issue d).1 = .ok ⟨hash, key⟩
      ∧ c.check key = ⟨.ok (some hash), []⟩
      ∧ 52 ≤ key.length ∧ key.length ≤ 58
      ∧ (∀ x ∈ key.toList, x ∈ Base32Hex.alphabet)
      ∧ c.storageHash (String.ofList (key.toList.take (key.length - 32))) = .ok hash
      ∧ ∃ i ≤ n, (∀ j < i, d.get j < 2 ^ 95) ∧ 2 ^ 95 ≤ d.get i
        ∧ key = c.keyOf (Base32Hex.ofNat (d.get i)) := by
  obtain ⟨secret₀, hash₀, hhash⟩ := hhash
  have husable : c.IsUsable := isUsable_of_storageHash hhash
  obtain ⟨i, haccept, hfirst, hbefore⟩ := d.exists_get_accept
  have hi : i ≤ n := by
    by_contra hlt
    have hshort := hbefore n (by omega)
    omega
  have hsecret : IsSecret (Base32Hex.ofNat (d.get i)) := isSecret_ofNat hfirst (hbound i hi)
  have hdrawn : d.drawSecret.1 = Base32Hex.ofNat (d.get i) := by
    rw [Draws.drawSecret_fst, haccept]
  have hstored := storageHash_of_isUsable husable hsecret
  generalize StorageHash.mk _ = hash at hstored
  have hlength := c.length_keyOf (Base32Hex.ofNat (d.get i))
  have hmin := hsecret.minLength_le
  have hmax := hsecret.length_le
  simp only [Secret.minLength, Secret.maxLength, codeLength] at hmin hmax hlength
  refine ⟨hash, c.keyOf (Base32Hex.ofNat (d.get i)), ?_, ?_, by omega, by omega, ?_, ?_, ?_⟩
  · simp [issue_eq, hdrawn, hstored, Except.map]
  · simp [check_keyOf c hsecret, hstored, Except.map]
  · intro x hx
    exact mem_alphabet_of_mem_keyOf hsecret hx
  · rw [← hstored]
    exact congrArg c.storageHash (c.take_keyOf _)
  · exact ⟨i, hi, hbefore, hfirst, rfl⟩

/-- Of the numbers on either side of the bound, the second one is taken. -/
theorem least_long_draw_is_taken :
    let d : Draws := { Draws.sample with scripted := [2 ^ 95 - 1, 2 ^ 95] }
    2 ^ 95 ≤ d.get 1 ∧ (∀ i ≤ 1, d.get i < 2 ^ 130)
      ∧ ∃ hash key, (sample.issue d).1 = .ok ⟨hash, key⟩
        ∧ sample.check key = ⟨.ok (some hash), []⟩
        ∧ key = sample.keyOf (Base32Hex.ofNat (d.get 1)) := by
  intro d
  have hfirst : d.get 0 = 2 ^ 95 - 1 := by simp [d, Supply.get]
  have hsecond : d.get 1 = 2 ^ 95 := by simp [d, Supply.get]
  have hlong : 2 ^ 95 ≤ d.get 1 := by simp [hsecond]
  have hbound : ∀ i ≤ 1, d.get i < 2 ^ 130 := by
    intro i hi
    interval_cases i
    · simp [hfirst]
    · simp [hsecond]
  have hhash : ∃ secret hash, sample.storageHash secret = .ok hash :=
    ⟨_, _, storageHash_of_isUsable isUsable_sample (isSecret_drawSecret Draws.isBounded_sample)⟩
  obtain ⟨hash, key, hissue, hcheck, -, -, -, -, i, hi, -, hreached, hkey⟩ :=
    issued_key_is_recognised sample hhash d 1 hlong hbound
  -- The first number is one too small.
  have hi : i = 1 := by
    interval_cases i
    · simp [hfirst] at hreached
    · rfl
  subst hi
  exact ⟨hlong, hbound, hash, key, hissue, hcheck, hkey⟩

end Codec

end BearerTokens
