/-
BearerTokens.Proofs.SecretDraws — how many numbers a secret takes.

Drawing a secret is a loop without a bound of its own: a number is drawn and
written, and if its text is too short the next number is drawn. `EndsWith` says
this one draw at a time, and `endsWith_iff` that it comes to an end for all
draws, with the number and the draws that `accept` gives.

What decides is the length of a text, but a text is too short exactly if its
number is below `2 ^ 95`. So the loop ends at the first number that is not and
has used up the numbers before it and no others (`EndsWith.exists_get`). Since a
number is written in one way only, and since a key is cut where its secret ends,
neither a secret nor a key comes from two numbers.
-/
import BearerTokens.Proofs.CanonicalDigits
import BearerTokens.Proofs.KeyRoundTrip

namespace BearerTokens

namespace Draws

/-! ## One draw after another -/

/-- The draws after the next one. -/
def rest (d : Draws) : Draws where
  toSupply := d.next.2
  fresh_ge := by
    rw [Supply.fresh_next]
    exact d.fresh_ge
  fresh_lt := by
    rw [Supply.fresh_next]
    exact d.fresh_lt

/-- A number is drawn. If its text is long enough, that ends the search; if not,
the search goes on with the draws after it. -/
inductive EndsWith : Draws → Nat → Draws → Prop
  | accepted {d : Draws} (long : Secret.minLength ≤ (Base32Hex.ofNat d.next.1).length) :
      EndsWith d d.next.1 d.rest
  | redrawn {d last : Draws} {n : Nat}
      (short : (Base32Hex.ofNat d.next.1).length < Secret.minLength)
      (further : EndsWith d.rest n last) : EndsWith d n last

/-- The search ends in one way at most. -/
theorem EndsWith.unique {d last last' : Draws} {n n' : Nat} (h : d.EndsWith n last)
    (h' : d.EndsWith n' last') : n = n' ∧ last = last' := by
  induction h with
  | accepted long =>
    cases h' with
    | accepted => exact ⟨rfl, rfl⟩
    | redrawn short => exact absurd short (Nat.not_lt.2 long)
  | redrawn short _ ih =>
    cases h' with
    | accepted long => exact absurd short (Nat.not_lt.2 long)
    | redrawn _ further => exact ih further

/-! ## The search for a long number -/

/-- A long number is accepted. -/
theorem accept_of_long {d : Draws} (h : isLong d.next.1 = true) :
    d.accept = (d.next.1, d.rest) := by
  obtain ⟨⟨scripted, used, fresh⟩, fresh_ge, fresh_lt⟩ := d
  cases scripted with
  | nil => rfl
  | cons draw more =>
    have hlong : isLong draw = true := h
    simp only [accept, firstLong, if_pos hlong]
    rfl

/-- A short one is thrown away. It is in the list, as the fresh ones are long. -/
theorem accept_of_short {d : Draws} (h : isLong d.next.1 = false) : d.accept = d.rest.accept := by
  obtain ⟨⟨scripted, used, fresh⟩, fresh_ge, fresh_lt⟩ := d
  cases scripted with
  | nil =>
    have hlong : isLong (fresh used) = true :=
      (isLong_iff _).2 (Nat.le_trans (by decide) (fresh_ge used))
    exact absurd (hlong.symm.trans h) (by decide)
  | cons draw more =>
    have hshort : ¬ isLong draw = true := by
      rw [Bool.not_eq_true]
      exact h
    simp only [accept, firstLong, if_neg hshort]
    rfl

/-- The search ends after the list at the latest, with what is accepted. -/
theorem endsWith_accept (d : Draws) : d.EndsWith d.accept.1 d.accept.2 := by
  generalize hscripted : d.scripted = scripted
  induction scripted generalizing d with
  | nil =>
    have hlong : isLong d.next.1 = true := by
      rw [Supply.next, hscripted]
      exact (isLong_iff _).2 (Nat.le_trans (by decide) (d.fresh_ge d.used))
    rw [accept_of_long hlong]
    exact .accepted (of_decide_eq_true hlong)
  | cons draw more ih =>
    cases hlong : isLong d.next.1 with
    | true =>
      rw [accept_of_long hlong]
      exact .accepted (of_decide_eq_true hlong)
    | false =>
      have hmore : d.rest.scripted = more := by
        simp only [rest, Supply.next, hscripted]
      rw [accept_of_short hlong]
      exact .redrawn (Nat.lt_of_not_le (of_decide_eq_false hlong)) (ih d.rest hmore)

/-- **Termination**: the search always ends, with the number that is accepted
and the draws that are left. -/
theorem endsWith_iff {d last : Draws} {n : Nat} : d.EndsWith n last ↔ d.accept = (n, last) := by
  constructor
  · intro h
    obtain ⟨hn, hlast⟩ := d.endsWith_accept.unique h
    exact Prod.ext hn hlast
  · intro h
    have hends := d.endsWith_accept
    rw [h] at hends
    exact hends

/-! ## What is used up -/

theorem length_lt_minLength_iff (n : Nat) :
    (Base32Hex.ofNat n).length < Secret.minLength ↔ n < 2 ^ 95 := by
  have hpow : 32 ^ 19 = 2 ^ 95 := by decide
  have hlong := isLong_iff n
  rw [hpow, isLong, decide_eq_true_iff] at hlong
  omega

/-- **Consumption**: the search ends with the first number that is at least
`2 ^ 95`. The draws that are left are those after it, and no others are gone. -/
theorem EndsWith.exists_get {d last : Draws} {n : Nat} (h : d.EndsWith n last) :
    ∃ i, n = d.get i ∧ 2 ^ 95 ≤ d.get i ∧ (∀ j < i, d.get j < 2 ^ 95)
      ∧ last.used = d.used + (i + 1) ∧ ∀ j, last.get j = d.get (i + 1 + j) := by
  induction h with
  | @accepted d long =>
    refine ⟨0, (Supply.get_zero _).symm, ?_, by simp, Supply.used_next _, fun j => ?_⟩
    · rw [Supply.get_zero, ← Nat.not_lt, ← length_lt_minLength_iff]
      exact Nat.not_lt.2 long
    · rw [Nat.zero_add, Nat.add_comm]
      exact Supply.get_next _ j
  | @redrawn d last n short further ih =>
    obtain ⟨i, hn, hlong, hbefore, hused, hleft⟩ := ih
    have hget : ∀ j, d.rest.get j = d.get (j + 1) := Supply.get_next _
    have hrest : d.rest.used = d.used + 1 := Supply.used_next _
    refine ⟨i + 1, ?_, ?_, ?_, by omega, ?_⟩
    · rw [hn, hget]
    · rw [← hget]
      exact hlong
    · intro j hj
      cases j with
      | zero =>
        rw [Supply.get_zero, ← length_lt_minLength_iff]
        exact short
      | succ j =>
        rw [← hget]
        exact hbefore j (by omega)
    · intro j
      rw [hleft, hget]
      congr 1
      omega

/-- Draws lead to one secret only if they accept one number. -/
theorem drawSecret_inj_iff {d d' : Draws} :
    d.drawSecret.1 = d'.drawSecret.1 ↔ d.accept.1 = d'.accept.1 :=
  Base32Hex.ofNat_injective.eq_iff

end Draws

/-- A secret does not begin with a zero. -/
theorem head?_ofNat_ne_zero {n : Nat} (h : n ≠ 0) :
    (Base32Hex.ofNat n).toList.head? ≠ some '0' := by
  rw [Base32Hex.ofNat, String.toList_ofList]
  exact fun hzero => h (Base32Hex.eq_zero_of_head? hzero)

namespace Codec

/-- Different secrets have different keys. -/
theorem keyOf_injective (c : Codec) : Function.Injective c.keyOf := by
  intro s s' h
  have hsplit := congrArg splitKey h
  rw [splitKey_keyOf, splitKey_keyOf] at hsplit
  exact congrArg Prod.fst hsplit

/-- What is issued is the key of the secret that was drawn. -/
theorem key_of_issue {c : Codec} {d : Draws} {issued : IssuedKey}
    (h : (c.issue d).1 = .ok issued) : issued.key = c.keyOf d.drawSecret.1 := by
  rw [issue_eq] at h
  cases hhash : c.storageHash d.drawSecret.1 with
  | error e =>
    rw [hhash] at h
    cases h
  | ok hash =>
    rw [hhash] at h
    cases h
    rfl

/-- With a codec that can hash, every secret that is drawn is issued. -/
theorem exists_issue {c : Codec} (hc : c.IsUsable) {d : Draws} (hd : d.IsBounded) :
    ∃ issued, (c.issue d).1 = .ok issued := by
  rw [issue_eq, storageHash_of_isUsable hc (isSecret_drawSecret hd)]
  exact ⟨_, rfl⟩

end Codec

open Draws

/-- **Drawing secrets**: of any list of numbers below `2 ^ 130`, with numbers of
full length after it, the first one that is at least `2 ^ 95` is accepted. The
search ends there and nowhere else, having used up that number and those before
it. The secret is the number's text, of twenty to twenty-six digits and without a
zero in front. Other draws lead to the same secret only if they accept the same
number, and so do the keys that one codec issues. -/
theorem drawn_secret_is_exact (d : Draws) (hd : d.IsBounded) :
    (∃ i, (∀ j < i, d.get j < 2 ^ 95) ∧ 2 ^ 95 ≤ d.get i
        ∧ (∀ n last, d.EndsWith n last ↔ d.get i = n ∧ d.drawSecret.2 = last)
        ∧ d.accept.1 = d.get i ∧ d.drawSecret.1 = Base32Hex.ofNat (d.get i)
        ∧ d.drawSecret.2.used = d.used + (i + 1)
        ∧ ∀ j, d.drawSecret.2.get j = d.get (i + 1 + j))
      ∧ 20 ≤ d.drawSecret.1.length ∧ d.drawSecret.1.length ≤ 26
      ∧ (∀ x ∈ d.drawSecret.1.toList, x ∈ Base32Hex.alphabet)
      ∧ d.drawSecret.1.toList.head? ≠ some '0'
      ∧ ∀ d' : Draws, d'.IsBounded →
        (d.drawSecret.1 = d'.drawSecret.1 ↔ d.accept.1 = d'.accept.1)
          ∧ ∀ c : Codec, ((∃ secret hash, c.storageHash secret = .ok hash) →
              ∃ issued issued', (c.issue d).1 = .ok issued ∧ (c.issue d').1 = .ok issued')
            ∧ ∀ issued issued', (c.issue d).1 = .ok issued → (c.issue d').1 = .ok issued' →
              (issued.key = issued'.key ↔ d.accept.1 = d'.accept.1) := by
  have hends : d.EndsWith d.accept.1 d.drawSecret.2 := d.endsWith_accept
  obtain ⟨i, haccept, hlong, hbefore, hused, hleft⟩ := hends.exists_get
  have hsecret : IsSecret d.drawSecret.1 := isSecret_drawSecret hd
  have honly : ∀ n last, d.EndsWith n last ↔ d.get i = n ∧ d.drawSecret.2 = last := by
    intro n last
    rw [endsWith_iff, Prod.ext_iff, haccept]
    rfl
  refine ⟨⟨i, hbefore, hlong, honly, haccept, ?_, hused, hleft⟩, hsecret.minLength_le,
    hsecret.length_le, hsecret.mem_alphabet, ?_,
    fun d' hd' => ⟨drawSecret_inj_iff, fun c => ⟨?_, ?_⟩⟩⟩
  · rw [drawSecret_fst, haccept]
  · have hpos : d.accept.1 ≠ 0 := by
      rw [haccept]
      exact Nat.ne_of_gt (Nat.lt_of_lt_of_le (by decide) hlong)
    rw [drawSecret_fst]
    exact head?_ofNat_ne_zero hpos
  · rintro ⟨secret, hash, hhash⟩
    have husable : c.IsUsable := Codec.isUsable_of_storageHash hhash
    obtain ⟨issued, hissued⟩ := Codec.exists_issue husable hd
    obtain ⟨issued', hissued'⟩ := Codec.exists_issue husable hd'
    exact ⟨issued, issued', hissued, hissued'⟩
  · intro issued issued' hissued hissued'
    rw [Codec.key_of_issue hissued, Codec.key_of_issue hissued', c.keyOf_injective.eq_iff]
    exact drawSecret_inj_iff

/-- Two numbers are too short, the third one is the least that is not. It is
accepted, the fourth one is left, and drawing that one leads to another key. -/
theorem third_draw_is_taken :
    let d : Draws := { Draws.sample with scripted := [0, 2 ^ 95 - 1, 2 ^ 95, 2 ^ 95 + 1] }
    let d' : Draws := d.drawSecret.2
    d.IsBounded ∧ d'.IsBounded
      ∧ d.drawSecret.1 = Base32Hex.ofNat (2 ^ 95) ∧ d'.used = 3 ∧ d'.get 0 = 2 ^ 95 + 1
      ∧ ∃ issued issued', (Codec.sample.issue d).1 = .ok issued
        ∧ (Codec.sample.issue d').1 = .ok issued' ∧ issued.key ≠ issued'.key := by
  intro d d'
  have hd : d.IsBounded := by
    show ∀ n ∈ [0, 2 ^ 95 - 1, 2 ^ 95, 2 ^ 95 + 1], n < 2 ^ 130
    decide
  have hd' : d'.IsBounded := hd.drawSecret
  have h0 : d.get 0 = 0 := by simp [d, Supply.get]
  have h1 : d.get 1 = 2 ^ 95 - 1 := by simp [d, Supply.get]
  have h2 : d.get 2 = 2 ^ 95 := by simp [d, Supply.get]
  have h3 : d.get 3 = 2 ^ 95 + 1 := by simp [d, Supply.get]
  obtain ⟨⟨i, hbefore, hlong, -, haccept, hsecret, hused, hleft⟩, -, -, -, -, hpair⟩ :=
    drawn_secret_is_exact d hd
  have hi : i = 2 := by
    have hle : ¬ 2 < i := fun h => absurd (hbefore 2 h) (by simp [h2])
    interval_cases i
    · simp [h0] at hlong
    · simp [h1] at hlong
    · rfl
  subst hi
  have hnext : d'.get 0 = 2 ^ 95 + 1 := (hleft 0).trans h3
  have hother : d'.accept.1 = 2 ^ 95 + 1 := by
    have hfits : isLong d'.next.1 = true := by
      rw [← Supply.get_zero, hnext, isLong_iff]
      decide
    rw [accept_of_long hfits, ← Supply.get_zero, hnext]
  have hhash : ∃ secret hash, Codec.sample.storageHash secret = .ok hash :=
    ⟨_, _, Codec.storageHash_of_isUsable Codec.isUsable_sample (isSecret_drawSecret hd)⟩
  obtain ⟨hissue, hiff⟩ := (hpair d' hd').2 Codec.sample
  obtain ⟨issued, issued', hissued, hissued'⟩ := hissue hhash
  refine ⟨hd, hd', by rw [hsecret, h2], hused, hnext, issued, issued', hissued, hissued', ?_⟩
  rw [ne_eq, hiff issued issued' hissued hissued', haccept, h2, hother]
  decide

end BearerTokens
