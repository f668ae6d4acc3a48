/-
BearerTokens.Proofs.KeyAcceptance — which texts are keys.

A key is an ASCII text of twenty to twenty-six characters with its integrity
code behind it. The check does not look for such a text. It measures the whole,
looks at the characters, cuts thirty-two of them off the end and compares; that
this comes to the same is `isKeyOf_text_iff`. There is no second place to cut,
so what stands before the code is unique.

The order of the steps matters. The codes can be compared and the secret can be
hashed because both stand behind the two gates: `sameText_splitKey` needs the
ASCII characters and `exists_storageHash_splitKey` the length as well.

Whoever presents a key can present any code points. A surrogate is read as
U+FFFD, which is not ASCII either, so that no such text is a key.
-/
import BearerTokens.Proofs.KeyRoundTrip
import BearerTokens.Text.Wide

namespace BearerTokens

open Text (Wide)

/-! ## Texts with surrogates -/

namespace Codec

/-- Code points that are no text are read as a text that no codec takes for a key. -/
theorem isMalformed_lossy_broken {ps : List Text.Point} (h : Text.characters? ps = none) :
    IsMalformed (Wide.broken ps h).lossy := by
  obtain ⟨place, hplace⟩ := Text.exists_surrogate_of_characters? h
  refine Or.inr (Or.inr ⟨Char.ofNat 0xFFFD, ?_, by decide⟩)
  rw [Wide.lossy, String.toList_ofList]
  exact List.mem_map.2 ⟨_, hplace, rfl⟩

/-! ## Keys as they are put together -/

/-- The text is that of a secret with its code behind it. All that is asked of
the secret is that it is ASCII and neither shorter nor longer than a secret. -/
structure IsKeyOf (c : Codec) (key : Wide) (s : String) : Prop where
  ascii : ∀ x ∈ s.toList, isAscii x = true
  minLength_le : 20 ≤ s.length
  length_le : s.length ≤ 26
  eq : key = .text (s ++ c.integrityCode s)

theorem not_isKeyOf_broken {c : Codec} {ps : List Text.Point} {h : Text.characters? ps = none}
    {s : String} : ¬ c.IsKeyOf (.broken ps h) s := by
  intro hs
  cases hs.eq

/-- Cutting a text loses nothing. -/
theorem splitKey_fst_append_snd (key : String) : (splitKey key).1 ++ (splitKey key).2 = key := by
  rw [splitKey, ← String.ofList_append, List.take_append_drop, String.ofList_toList]

/-- **Put together and taken apart**: a text is the key of what stands before
its last thirty-two characters if it is well-formed and has the right code, and
it is the key of nothing else. -/
theorem isKeyOf_text_iff {c : Codec} {key s : String} :
    c.IsKeyOf (.text key) s ↔ ¬ IsMalformed key ∧ c.HasCode key ∧ (splitKey key).1 = s := by
  constructor
  · intro h
    obtain rfl : key = c.keyOf s := Wide.text.inj h.eq
    refine ⟨c.not_isMalformed_keyOf h.ascii h.minLength_le h.length_le, c.hasCode_keyOf s, ?_⟩
    rw [splitKey_keyOf]
  · rintro ⟨hkey, hcode, rfl⟩
    obtain ⟨hmin, hmax, hascii⟩ := not_isMalformed_iff.1 hkey
    have hlength : (splitKey key).1.length = key.length - 32 := by
      rw [splitKey, String.length_ofList, List.length_take, String.length_toList, codeLength]
      omega
    refine ⟨fun x hx => ?_, by omega, by omega, ?_⟩
    · rw [splitKey, String.toList_ofList] at hx
      exact hascii x (List.mem_of_mem_take hx)
    · rw [hcode, splitKey_fst_append_snd]

/-- A key is the key of one secret. -/
theorem IsKeyOf.unique {c : Codec} {key : Wide} {s s' : String} (h : c.IsKeyOf key s)
    (h' : c.IsKeyOf key s') : s' = s := by
  cases key with
  | text key => exact (isKeyOf_text_iff.1 h').2.2.symm.trans (isKeyOf_text_iff.1 h).2.2
  | broken ps hps => exact absurd h not_isKeyOf_broken

/-! ## What the check says of them -/

/-- A key leads to the hash of its secret, and nothing is reported. -/
theorem IsKeyOf.check_eq {c : Codec} {key : Wide} {s : String} (h : c.IsKeyOf key s) :
    c.check key.lossy = ⟨(c.storageHash s).map some, []⟩ := by
  cases key with
  | text key =>
    obtain ⟨hkey, hcode, rfl⟩ := isKeyOf_text_iff.1 h
    exact check_of_hasCode hkey hcode
  | broken ps hps => exact absurd h not_isKeyOf_broken

/-- The secret of a key is short enough to be hashed. -/
theorem IsKeyOf.exists_storageHash {c : Codec} (hc : c.IsUsable) {key : Wide} {s : String}
    (h : c.IsKeyOf key s) : ∃ hash, c.storageHash s = .ok hash :=
  ⟨_, storageHash_of_length_le hc h.ascii h.length_le⟩

/-- A text that is no key leads to no hash. -/
theorem hash?_of_not_isKeyOf {c : Codec} {key : Wide} (h : ∀ s, ¬ c.IsKeyOf key s) :
    (c.check key.lossy).hash? = .ok none := by
  have hnone : ∀ {key : String}, IsMalformed key → (c.check key).hash? = .ok none := by
    intro key hkey
    obtain ⟨e, hcheck⟩ := check_of_isMalformed hkey
    rw [hcheck]
  cases key with
  | broken ps hps => exact hnone (isMalformed_lossy_broken hps)
  | text key =>
    by_cases hkey : IsMalformed key
    · exact hnone hkey
    · refine hash?_of_not_hasCode fun hcode => ?_
      exact h _ (isKeyOf_text_iff.2 ⟨hkey, hcode, rfl⟩)

/-- Where no hash is found, one step of the check has reported it, at the level
of information. -/
theorem exists_report {c : Codec} {key : String} (h : (c.check key).hash? = .ok none) :
    ∃ e, e.level = .info ∧ c.check key = ⟨.ok none, [e]⟩ := by
  unfold check at h ⊢
  split
  · exact ⟨.keyLength key.length, rfl, rfl⟩
  · rename_i hlength
    rw [if_neg hlength] at h
    split
    · exact ⟨.keyNotAscii, rfl, rfl⟩
    · rename_i hascii
      rw [if_neg hascii] at h
      rw [Bool.not_eq_true, Bool.not_eq_false'] at hascii
      simp only [sameText_splitKey c hascii] at h ⊢
      cases hcode : c.integrityCode (splitKey key).1 == (splitKey key).2 with
      | false => exact ⟨.keyCodeMismatch, rfl, rfl⟩
      | true =>
        rw [hcode] at h
        cases hhash : c.storageHash (splitKey key).1 <;> simp [hhash, Except.map] at h

/-- **Exact acceptance**: with a codec that can hash, a text leads to a hash
exactly if it is the key of a secret, the secret is unique, the hash is that of
the secret, and nothing is reported. Of every other text there is one report at
the level of information and no hash. The check fails for no text at all. -/
theorem key_acceptance_is_exact (c : Codec)
    (hhash : ∃ secret hash, c.storageHash secret = .ok hash) (key : Wide) :
    (∀ h, (c.check key.lossy).hash? = .ok (some h)
        ↔ ∃ s, c.IsKeyOf key s ∧ c.storageHash s = .ok h)
      ∧ (∀ s, c.IsKeyOf key s → (∀ s', c.IsKeyOf key s' → s' = s)
        ∧ ∃ h, c.storageHash s = .ok h ∧ c.check key.lossy = ⟨.ok (some h), []⟩)
      ∧ ((¬ ∃ s, c.IsKeyOf key s) →
        ∃ e, e.level = .info ∧ c.check key.lossy = ⟨.ok none, [e]⟩)
      ∧ ∀ e, (c.check key.lossy).hash? ≠ .error e := by
  obtain ⟨secret₀, hash₀, hhash⟩ := hhash
  have husable : c.IsUsable := isUsable_of_storageHash hhash
  have haccepted : ∀ {s}, c.IsKeyOf key s →
      ∃ h, c.storageHash s = .ok h ∧ c.check key.lossy = ⟨.ok (some h), []⟩ := by
    intro s hs
    obtain ⟨h, hstored⟩ := hs.exists_storageHash husable
    exact ⟨h, hstored, by rw [hs.check_eq, hstored]; rfl⟩
  by_cases hkey : ∃ s, c.IsKeyOf key s
  · obtain ⟨s, hs⟩ := hkey
    obtain ⟨h, hstored, hcheck⟩ := haccepted hs
    refine ⟨fun h' => ?_, fun s' hs' => ⟨fun _ hs'' => hs'.unique hs'', haccepted hs'⟩,
      fun hnone => absurd ⟨s, hs⟩ hnone, by simp [hcheck]⟩
    constructor
    · intro hfound
      obtain rfl : h = h' := by simpa [hcheck] using hfound
      exact ⟨s, hs, hstored⟩
    · rintro ⟨s', hs', hstored'⟩
      rw [hs'.check_eq, hstored']
      rfl
  · have hnone := hash?_of_not_isKeyOf (not_exists.1 hkey)
    refine ⟨fun h => ?_, fun s hs => absurd ⟨s, hs⟩ hkey, fun _ => exists_report hnone,
      by simp [hnone]⟩
    rw [hnone]
    refine iff_of_false (by simp) ?_
    rintro ⟨s, hs, -⟩
    exact hkey ⟨s, hs⟩

/-- Twenty NUL characters have a key. Of fifty-two surrogates it is reported
that they are no key. -/
theorem key_of_nul_characters :
    let nul := String.ofList (List.replicate 20 (Char.ofNat 0))
    let surrogates : Wide := .broken (List.replicate 52 (.surrogate 0)) (by decide)
    (∃ h, sample.storageHash nul = .ok h
        ∧ sample.check (nul ++ sample.integrityCode nul) = ⟨.ok (some h), []⟩)
      ∧ ∃ e, e.level = .info ∧ sample.check surrogates.lossy = ⟨.ok none, [e]⟩ := by
  intro nul surrogates
  have hlength : nul.length = 20 := by decide
  have hhash : ∃ secret hash, sample.storageHash secret = .ok hash :=
    ⟨_, _, storageHash_of_isUsable isUsable_sample (isSecret_drawSecret Draws.isBounded_sample)⟩
  have hnul : sample.IsKeyOf (.text (nul ++ sample.integrityCode nul)) nul := by
    refine ⟨fun x hx => ?_, by omega, by omega, rfl⟩
    rw [String.toList_ofList] at hx
    obtain rfl := List.eq_of_mem_replicate hx
    decide
  have hsurrogates : ¬ ∃ s, sample.IsKeyOf surrogates s :=
    not_exists.2 fun _ => not_isKeyOf_broken
  exact ⟨((key_acceptance_is_exact sample hhash _).2.1 nul hnul).2,
    (key_acceptance_is_exact sample hhash surrogates).2.2.1 hsurrogates⟩

end Codec
end BearerTokens
