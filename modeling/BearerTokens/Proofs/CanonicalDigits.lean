/-
BearerTokens.Proofs.CanonicalDigits — one text for each number.

A number is divided by thirty-two until nothing is left, and the remainders are
turned round (`ofNat_eq_divisions`). Zero is the exception, as it has a digit although
there is nothing to divide. What is written otherwise is Mathlib's `Nat.digits` the
other way round (`digits_eq_map`).

So a text over the alphabet is a list of values below thirty-two, and whatever
is asked about texts is asked about such lists (`exists_values`). Their number
is `Nat.ofDigits`, which is what the reader finds (`value?_map_digit`). Texts
of one length are in the order of their numbers (`map_digit_lt`) and are the
same only if the numbers are (`eq_of_value?_eq`); a text that does not begin
with a needless zero is the one that is written for its number.
-/
import Mathlib.Data.List.GetD
import Mathlib.Data.List.Induction
import Mathlib.Data.Nat.Digits.Lemmas
import Mathlib.Data.String.Basic
import BearerTokens.Proofs.Base32Digits

namespace BearerTokens.Base32Hex

/-! ## Digits and their values -/

theorem digit_mod (n : Nat) : digit (n % 32) = digit n := by
  simp [digit]

/-- A digit is looked up in the alphabet. -/
theorem digit_eq_getElem {v : Nat} (h : v < alphabet.length) : digit v = alphabet[v] := by
  have hv : v % 32 = v := Nat.mod_eq_of_lt h
  rw [digit, hv, List.getD_eq_getElem _ _ h]

/-- Every character of the alphabet is the digit of a value. -/
theorem exists_digit_eq {c : Char} (h : c ∈ alphabet) : ∃ v < 32, digit v = c := by
  have hlt : alphabet.idxOf c < alphabet.length := List.idxOf_lt_length_of_mem h
  exact ⟨alphabet.idxOf c, hlt, by rw [digit_eq_getElem hlt, List.getElem_idxOf]⟩

theorem digit_eq_zero_iff {v : Nat} (h : v < 32) : digit v = '0' ↔ v = 0 := by
  revert v
  decide

/-- The digits stand in the alphabet in their order as characters. -/
theorem digit_lt_digit {v w : Nat} (h : v < w) (hw : w < 32) : digit v < digit w := by
  have hsorted : alphabet.Pairwise (· < ·) := by decide
  have hv : v < alphabet.length := h.trans hw
  rw [digit_eq_getElem hv, digit_eq_getElem hw]
  exact List.pairwise_iff_getElem.1 hsorted v w hv hw h

/-! ## Texts and lists of values -/

/-- A text over the alphabet is a list of values. -/
theorem exists_values {cs : List Char} (h : ∀ c ∈ cs, c ∈ alphabet) :
    ∃ vs : List Nat, (∀ v ∈ vs, v < 32) ∧ vs.map digit = cs := by
  induction cs with
  | nil => exact ⟨[], by simp, rfl⟩
  | cons c rest ih =>
    obtain ⟨hc, hrest⟩ := List.forall_mem_cons.1 h
    obtain ⟨v, hv, rfl⟩ := exists_digit_eq hc
    obtain ⟨vs, hvs, rfl⟩ := ih hrest
    exact ⟨v :: vs, List.forall_mem_cons.2 ⟨hv, hvs⟩, rfl⟩

/-- One more digit at the end moves the others one place up. -/
theorem value?_concat (cs : List Char) (c : Char) :
    value? (cs ++ [c]) = (value? cs).bind fun v => (digitValue? c).map (32 * v + ·) := by
  rw [value?, List.foldlM_append, ← value?]
  cases value? cs <;> simp

/-- **Reading**: the number that is read is that of the values by their places,
of which the last one comes first in `Nat.ofDigits`. -/
theorem value?_map_digit {vs : List Nat} (h : ∀ v ∈ vs, v < 32) :
    value? (vs.map digit) = some (Nat.ofDigits 32 vs.reverse) := by
  induction vs using List.reverseRecOn with
  | nil => rfl
  | append_singleton vs v ih =>
    have hvs : ∀ w ∈ vs, w < 32 := fun w hw => h w (List.mem_append_left _ hw)
    have hv : v < 32 := h v (List.mem_append_right _ List.mem_cons_self)
    rw [List.map_append, List.map_singleton, value?_concat, ih hvs, digitValue?_digit hv,
      List.reverse_append, List.reverse_singleton, List.singleton_append, Nat.ofDigits_cons]
    simp [Nat.add_comm]

/-- Two texts of one length with one number are the same. -/
theorem eq_of_value?_eq {cs ds : List Char} (hcs : ∀ c ∈ cs, c ∈ alphabet)
    (hds : ∀ d ∈ ds, d ∈ alphabet) (hlength : cs.length = ds.length)
    (hvalue : value? cs = value? ds) : cs = ds := by
  obtain ⟨vs, hvs, rfl⟩ := exists_values hcs
  obtain ⟨ws, hws, rfl⟩ := exists_values hds
  rw [value?_map_digit hvs, value?_map_digit hws, Option.some.injEq] at hvalue
  rw [List.length_map, List.length_map] at hlength
  have hreverse : vs.reverse = ws.reverse := by
    refine Nat.ofDigits_inj_of_len_eq (by decide) (by simpa using hlength) ?_ ?_ hvalue
    · simpa using hvs
    · simpa using hws
  rw [List.reverse_injective hreverse]

/-- The number of values is less than one in the place before them. -/
theorem ofDigits_reverse_lt {vs : List Nat} (h : ∀ v ∈ vs, v < 32) :
    Nat.ofDigits 32 vs.reverse < 32 ^ vs.length := by
  rw [← List.length_reverse]
  exact Nat.ofDigits_lt_base_pow_length (by decide) (by simpa using h)

/-- **Order**: texts of one length are in the order of their numbers. The first
place in which they differ decides, since all places after it are worth less. -/
theorem map_digit_lt {vs ws : List Nat} (hvs : ∀ v ∈ vs, v < 32) (hws : ∀ w ∈ ws, w < 32)
    (hlength : vs.length = ws.length)
    (hlt : Nat.ofDigits 32 vs.reverse < Nat.ofDigits 32 ws.reverse) :
    vs.map digit < ws.map digit := by
  induction vs generalizing ws with
  | nil =>
    obtain rfl := List.length_eq_zero_iff.1 hlength.symm
    exact absurd hlt (Nat.lt_irrefl _)
  | cons v vs ih =>
    cases ws with
    | nil => cases hlength
    | cons w ws =>
      obtain ⟨hv, hvs'⟩ := List.forall_mem_cons.1 hvs
      obtain ⟨hw, hws'⟩ := List.forall_mem_cons.1 hws
      have hrest : vs.length = ws.length := Nat.succ.inj hlength
      rw [Nat.ofDigits_reverse_cons, Nat.ofDigits_reverse_cons, hrest] at hlt
      rw [List.map_cons, List.map_cons, List.cons_lt_cons_iff]
      rcases Nat.lt_trichotomy v w with hvw | rfl | hwv
      · exact Or.inl (digit_lt_digit hvw hw)
      · exact Or.inr ⟨rfl, ih hvs' hws' hrest (Nat.lt_of_add_lt_add_right hlt)⟩
      · -- A greater digit in front outweighs all that follows.
        have hbound := ofDigits_reverse_lt hws'
        have hplace : 32 ^ ws.length * (w + 1) ≤ 32 ^ ws.length * v :=
          Nat.mul_le_mul_left _ hwv
        rw [Nat.mul_succ] at hplace
        omega

/-! ## What is written for a number -/

/-- Divide until nothing is left, and put each remainder after those before it. -/
def divisions (n : Nat) (remainders : List Char) : List Char :=
  if n = 0 then remainders else divisions (n / 32) (remainders ++ [digit (n % 32)])
termination_by n

/-- The loop puts down the digits of what it has still to divide the other way
round, after those that it started with. -/
theorem reverse_divisions {n : Nat} (hn : n ≠ 0) (remainders : List Char) :
    (divisions n remainders).reverse = digits n ++ remainders.reverse := by
  induction n using digits.induct generalizing remainders with
  | case1 n hlt =>
    have hquotient : n / 32 = 0 := Nat.div_eq_of_lt hlt
    rw [divisions, if_neg hn, hquotient, divisions, if_pos rfl, List.reverse_append,
      digits_of_lt hlt, digit_mod]
    rfl
  | case2 n hge ih =>
    have hquotient : n / 32 ≠ 0 := by omega
    have hdigits : digits n = digits (n / 32) ++ [digit n] := digits_of_ge (by omega)
    rw [divisions, if_neg hn, ih hquotient, List.reverse_append, hdigits, digit_mod,
      List.append_assoc]
    rfl

/-- **Loop**: a number is written by dividing it, except zero. -/
theorem ofNat_eq_divisions (n : Nat) :
    ofNat n = if n = 0 then "0" else String.ofList (divisions n []).reverse := by
  split
  · rename_i hn
    rw [hn, ofNat, digits_of_lt (by decide)]
    rfl
  · rename_i hn
    rw [reverse_divisions hn, List.reverse_nil, List.append_nil, ofNat]

/-- **Writing**: the remainders of the divisions, the first one last. -/
theorem digits_eq_map {n : Nat} (hn : n ≠ 0) :
    digits n = (Nat.digits 32 n).reverse.map digit := by
  induction n using digits.induct with
  | case1 n hlt =>
    rw [digits_of_lt hlt, Nat.digits_of_lt 32 n hn hlt]
    rfl
  | case2 n hge ih =>
    have hquotient : n / 32 ≠ 0 := by omega
    rw [digits_of_ge (by omega), ih hquotient, Nat.digits_def' (by decide) (by omega : 0 < n),
      List.reverse_cons, List.map_append, List.map_singleton, digit_mod]

theorem lt_of_mem_reverse_digits {n v : Nat} (h : v ∈ (Nat.digits 32 n).reverse) : v < 32 :=
  Nat.digits_lt_base (by decide) (List.mem_reverse.1 h)

/-- **Read back**: the number of what is written is the number. -/
theorem value?_digits (n : Nat) : value? (digits n) = some n := by
  rcases eq_or_ne n 0 with rfl | hn
  · rw [digits_of_lt (by decide)]
    rfl
  · rw [digits_eq_map hn, value?_map_digit fun _ => lt_of_mem_reverse_digits,
      List.reverse_reverse, Nat.ofDigits_digits]

theorem digits_ne_nil (n : Nat) : digits n ≠ [] :=
  List.ne_nil_of_length_pos (length_digits_pos n)

theorem toNat?_ofList {cs : List Char} (h : cs ≠ []) : toNat? (String.ofList cs) = value? cs := by
  have hne : (String.ofList cs).isEmpty = false := by simpa using h
  rw [toNat?, hne, String.toList_ofList]
  rfl

theorem toNat?_ofNat (n : Nat) : toNat? (ofNat n) = some n := by
  rw [ofNat, toNat?_ofList (digits_ne_nil n), value?_digits]

/-- Different numbers are written differently. -/
theorem ofNat_injective : Function.Injective ofNat := by
  intro m n h
  have hvalue := congrArg toNat? h
  rw [toNat?_ofNat, toNat?_ofNat] at hvalue
  exact Option.some.inj hvalue

/-- Only zero begins with the digit of zero. -/
theorem eq_zero_of_head? {n : Nat} (h : (digits n).head? = some '0') : n = 0 := by
  by_contra hn
  have hne : Nat.digits 32 n ≠ [] := Nat.digits_ne_nil_iff_ne_zero.2 hn
  have hlast := Nat.getLast_digit_ne_zero 32 hn
  have hlt : (Nat.digits 32 n).getLast hne < 32 :=
    Nat.digits_lt_base (by decide) (List.getLast_mem hne)
  rw [digits_eq_map hn, List.head?_map, List.head?_reverse, List.getLast?_eq_some_getLast hne,
    Option.map_some, Option.some.injEq, digit_eq_zero_iff hlt] at h
  exact hlast h

/-- The length is the least one that holds the number. -/
theorem isLeast_length_digits (n : Nat) :
    IsLeast {k | 1 ≤ k ∧ n < 32 ^ k} (digits n).length := by
  constructor
  · exact ⟨length_digits_pos n, (length_digits_le_iff (length_digits_pos n) n).1 (Nat.le_refl _)⟩
  · rintro k ⟨hk, hlt⟩
    exact (length_digits_le_iff hk n).2 hlt

/-- A greater number is not written shorter. -/
theorem length_digits_mono {m n : Nat} (h : m ≤ n) : (digits m).length ≤ (digits n).length := by
  have hn := (length_digits_le_iff (length_digits_pos n) n).1 (Nat.le_refl _)
  exact (length_digits_le_iff (length_digits_pos n) m).2 (Nat.lt_of_le_of_lt h hn)

/-- What is written is in the order of the numbers, a shorter text before all longer ones. -/
theorem digits_lt {m n : Nat} (h : m < n) :
    (digits m).length < (digits n).length
      ∨ (digits m).length = (digits n).length ∧ digits m < digits n := by
  rcases Nat.lt_or_eq_of_le (length_digits_mono (Nat.le_of_lt h)) with hlt | heq
  · exact Or.inl hlt
  · refine Or.inr ⟨heq, ?_⟩
    obtain ⟨vs, hvs, hm⟩ := exists_values fun _ => mem_alphabet_of_mem_digits (n := m)
    obtain ⟨ws, hws, hn⟩ := exists_values fun _ => mem_alphabet_of_mem_digits (n := n)
    have hvm := value?_digits m
    have hwn := value?_digits n
    rw [← hm, value?_map_digit hvs, Option.some.injEq] at hvm
    rw [← hn, value?_map_digit hws, Option.some.injEq] at hwn
    rw [← hm, ← hn, List.length_map, List.length_map] at heq
    rw [← hm, ← hn]
    exact map_digit_lt hvs hws heq (by rwa [hvm, hwn])

/-! ## Texts without needless zeros -/

/-- The text is over the alphabet and begins with a zero only if that is all. -/
structure IsCanonical (s : String) : Prop where
  ne_empty : s ≠ ""
  mem_alphabet : ∀ c ∈ s.toList, c ∈ alphabet
  eq_zero : s.toList.head? = some '0' → s = "0"

theorem isCanonical_ofNat (n : Nat) : IsCanonical (ofNat n) where
  ne_empty h := digits_ne_nil n (by simpa [ofNat] using h)
  mem_alphabet c hc := mem_alphabet_of_mem_digits (by rwa [ofNat, String.toList_ofList] at hc)
  eq_zero h := by
    rw [ofNat, String.toList_ofList] at h
    rw [ofNat_eq_divisions, if_pos (eq_zero_of_head? h)]

/-- Values of which the first is not zero are what is written for their number. -/
theorem digits_ofDigits {v : Nat} {vs : List Nat} (h : ∀ w ∈ v :: vs, w < 32) (hv : v ≠ 0) :
    digits (Nat.ofDigits 32 (v :: vs).reverse) = (v :: vs).map digit := by
  have hdigits : Nat.digits 32 (Nat.ofDigits 32 (v :: vs).reverse) = (v :: vs).reverse := by
    refine Nat.digits_ofDigits 32 (by decide) _ (fun w hw => h w (List.mem_reverse.1 hw)) ?_
    intro hne
    simpa using hv
  have hn : Nat.ofDigits 32 (v :: vs).reverse ≠ 0 := by
    intro hzero
    rw [hzero, Nat.digits_zero] at hdigits
    simp at hdigits
  rw [digits_eq_map hn, hdigits, List.reverse_reverse]

/-- **Canonical texts**: each is what is written for its number. -/
theorem IsCanonical.exists_ofNat {s : String} (h : IsCanonical s) :
    ∃ n, toNat? s = some n ∧ ofNat n = s := by
  obtain ⟨vs, hvs, hs⟩ := exists_values h.mem_alphabet
  suffices hwritten : ∃ n, ofNat n = s by
    obtain ⟨n, rfl⟩ := hwritten
    exact ⟨n, toNat?_ofNat n, rfl⟩
  cases vs with
  | nil => exact absurd (String.toList_eq_nil_iff.1 hs.symm) h.ne_empty
  | cons v vs =>
    by_cases hv : v = 0
    · have hzero : s = "0" := h.eq_zero (by rw [← hs, hv]; rfl)
      exact ⟨0, by rw [hzero, ofNat_eq_divisions, if_pos rfl]⟩
    · exact ⟨_, by rw [ofNat, digits_ofDigits hvs hv, hs, String.ofList_toList]⟩

/-- **Canonical rendering**: every number is written by dividing it, the last digit
first, and is read back from its text, which begins with a zero only if the number is
zero and is as short as can be. Every text over the alphabet that does not begin with a
needless zero is that of its number. The texts are in the order of the numbers, by
length and then by their characters. -/
theorem rendering_is_canonical_bijection :
    (∀ n, ofNat n = (if n = 0 then "0" else String.ofList (divisions n []).reverse)
        ∧ toNat? (ofNat n) = some n
        ∧ ((ofNat n).toList.head? = some '0' → n = 0)
        ∧ IsCanonical (ofNat n)
        ∧ IsLeast {k | 1 ≤ k ∧ n < 32 ^ k} (ofNat n).length)
      ∧ (∀ s, IsCanonical s → ∃ n, toNat? s = some n ∧ ofNat n = s)
      ∧ ∀ m n, m < n → (ofNat m).length < (ofNat n).length
        ∨ (ofNat m).length = (ofNat n).length ∧ ofNat m < ofNat n := by
  refine ⟨fun n => ⟨ofNat_eq_divisions n, toNat?_ofNat n, ?_, isCanonical_ofNat n, ?_⟩,
    fun s h => h.exists_ofNat, ?_⟩
  · rw [ofNat, String.toList_ofList]
    exact eq_zero_of_head?
  · rw [ofNat, String.length_ofList]
    exact isLeast_length_digits n
  · intro m n h
    rw [String.lt_iff_toList_lt]
    simp only [ofNat, String.length_ofList, String.toList_ofList]
    exact digits_lt h

end BearerTokens.Base32Hex
