/-
BearerTokens.Proofs.TagSpellings — the spelling of a tag does not matter.

A string names a member if it is the member's name once the blanks around it are
dropped and it is in upper case. Said for every string (`Wide.normalise`), this is
about code points: a surrogate is no blank and has no upper case, so it stays, and
a string with surrogates names nothing (`normalise_broken_ne`).

`Respelled` is what may be done to a string: blanks are put around it, and ASCII
letters go into the other case. Neither changes the normal form
(`Respelled.normalise_eq`): blanks at the ends are dropped whatever stands between
them, and a letter and its other case are blanks alike and have one upper case.
The four readers of tags look at the normal form alone, so they are one `Reader`
with different answers (`tag_spelling_does_not_matter`).
-/
import Mathlib.Data.List.DropRight
import BearerTokens.Tag.Reader

namespace BearerTokens
namespace Text

/-! ## Strings in normal form -/

/-- Is the code point a blank? -/
def Point.isBlank (p : Point) : Bool :=
  p.holds Text.isBlank

/-- The upper case of a code point. A surrogate has none of its own. -/
def Point.upper : Point → List Point
  | .char c => (upperChar c).map .char
  | .surrogate place => [.surrogate place]

/-- Code points without the blanks at both ends. -/
def stripPoints (ps : List Point) : List Point :=
  (ps.dropWhile Point.isBlank).rdropWhile Point.isBlank

/-- A string without the blanks around it, in upper case. -/
def Wide.normalise (w : Wide) : Wide :=
  .ofPoints ((stripPoints w.points).flatMap Point.upper)

/-- Nothing but blanks is dropped. -/
theorem mem_stripPoints {p : Point} {ps : List Point} (hp : p ∈ ps) (h : p.isBlank = false) :
    p ∈ stripPoints ps := by
  rw [stripPoints, List.rdropWhile, List.mem_reverse]
  exact mem_dropWhile (List.mem_reverse.2 (mem_dropWhile hp h)) h

theorem stripPoints_map {α : Type} (f : α → Point) (as : List α) :
    stripPoints (as.map f)
      = ((as.dropWhile (Point.isBlank ∘ f)).rdropWhile (Point.isBlank ∘ f)).map f := by
  rw [stripPoints, List.rdropWhile, List.dropWhile_map, ← List.map_reverse, List.dropWhile_map,
    ← List.map_reverse, List.rdropWhile]

theorem stripPoints_map_char (cs : List Char) :
    stripPoints (cs.map .char) = (trimChars Text.isBlank cs).map .char :=
  stripPoints_map Point.char cs

/-- For a text, this is the normal form that names are compared with. -/
theorem Wide.normalise_text (s : String) : Wide.normalise (.text s) = .text (Tag.normalise s) := by
  have hpoints : (stripPoints (Wide.points (.text s))).flatMap Point.upper
      = ((trimChars Text.isBlank s.toList).flatMap upperChar).map .char := by
    rw [Wide.points, Text.points, stripPoints_map_char, List.flatMap_map, List.map_flatMap]
    rfl
  rw [Wide.normalise, hpoints, Wide.ofPoints_of_characters? (characters?_map_char _),
    Tag.normalise, upper, toList_strip]

/-- A surrogate is still there in the normal form, which therefore is no text. -/
theorem Wide.normalise_broken_ne {ps : List Point} {noText : characters? ps = none} {s : String} :
    Wide.normalise (.broken ps noText) ≠ .text s := by
  intro h
  obtain ⟨place, hplace⟩ := exists_surrogate_of_characters? noText
  have hupper : Point.surrogate place ∈ (stripPoints ps).flatMap Point.upper :=
    List.mem_flatMap.2 ⟨_, mem_stripPoints hplace rfl, List.mem_singleton_self _⟩
  have hpoints : (stripPoints ps).flatMap Point.upper = Text.points s := by
    rw [← Wide.points_ofPoints ((stripPoints ps).flatMap Point.upper)]
    exact congrArg Wide.points h
  rw [hpoints, Text.points] at hupper
  simp at hupper

/-! ## Spellings -/

/-- The code point, an ASCII capital made small. -/
def Point.lower : Point → Point
  | .char c => .char c.toLower
  | .surrogate place => .surrogate place

/-- The second string is the first with any blanks put around it and with any of its
ASCII letters in the other case. -/
inductive Respelled (w v : Wide) : Prop
  | intro (before body after : List Point) (points : v.points = before ++ body ++ after)
      (blankBefore : ∀ p ∈ before, p.isBlank = true) (blankAfter : ∀ p ∈ after, p.isBlank = true)
      (letters : body.map Point.lower = w.points.map Point.lower)

/-! ### Blanks -/

theorem rdropWhile_append_of_pos {α : Type} {p : α → Bool} {xs ys : List α}
    (h : ∀ a ∈ ys, p a = true) : (xs ++ ys).rdropWhile p = xs.rdropWhile p := by
  rw [List.rdropWhile, List.reverse_append,
    List.dropWhile_append_of_pos fun a ha => h a (List.mem_reverse.1 ha), List.rdropWhile]

theorem stripPoints_append {before body after : List Point}
    (hbefore : ∀ p ∈ before, p.isBlank = true) (hafter : ∀ p ∈ after, p.isBlank = true) :
    stripPoints (before ++ body ++ after) = stripPoints body := by
  rw [stripPoints, List.append_assoc, List.dropWhile_append_of_pos hbefore, List.dropWhile_append]
  split
  · -- There are only blanks, and the first pass drops all of them.
    rename_i hbody
    rw [stripPoints, List.isEmpty_iff.1 hbody, List.dropWhile_eq_nil_iff.2 hafter]
  · rw [rdropWhile_append_of_pos hafter, stripPoints]

/-! ### Letters -/

/-- Letters beyond ASCII stay as they are. -/
theorem toLower_of_not_ascii {c : Char} (h : ¬ c.toNat < 0x80) : c.toLower = c := by
  have hcapital : ¬ (c.val ≥ 'A'.val ∧ c.val ≤ 'Z'.val) := by
    rintro ⟨-, hle⟩
    exact h (Nat.lt_of_le_of_lt (UInt32.le_iff_toNat_le.1 hle) (by decide))
  exact dif_neg hcapital

/-- What does not tell the cases of ASCII letters apart tells no cases apart here. -/
theorem apply_toLower {α : Type} {f : Char → α}
    (h : ∀ n < 0x80, f (Char.ofNat n).toLower = f (Char.ofNat n)) (c : Char) :
    f c.toLower = f c := by
  by_cases hc : c.toNat < 0x80
  · have hn := h c.toNat hc
    rwa [Char.ofNat_toNat] at hn
  · rw [toLower_of_not_ascii hc]

/-- An ASCII letter is no blank in either case. -/
theorem isBlank_toLower (c : Char) : isBlank c.toLower = isBlank c :=
  apply_toLower (by decide) c

/-- The two cases of an ASCII letter have the same upper case. -/
theorem upperChar_toLower (c : Char) : upperChar c.toLower = upperChar c :=
  apply_toLower (by decide) c

theorem Point.isBlank_lower (p : Point) : p.lower.isBlank = p.isBlank := by
  cases p with
  | char c => exact isBlank_toLower c
  | surrogate _ => rfl

theorem Point.upper_lower (p : Point) : p.lower.upper = p.upper := by
  cases p with
  | char c => exact congrArg (List.map Point.char) (upperChar_toLower c)
  | surrogate _ => rfl

theorem stripPoints_map_lower (ps : List Point) :
    stripPoints (ps.map Point.lower) = (stripPoints ps).map Point.lower := by
  have hblank : Point.isBlank ∘ Point.lower = Point.isBlank := funext Point.isBlank_lower
  rw [stripPoints_map, hblank, stripPoints]

theorem flatMap_upper_map_lower (ps : List Point) :
    (ps.map Point.lower).flatMap Point.upper = ps.flatMap Point.upper := by
  rw [List.flatMap_map]
  exact congrArg (List.flatMap · ps) (funext Point.upper_lower)

/-- **Spellings**: the normal form is the same for all of them. -/
theorem Respelled.normalise_eq {w v : Wide} (h : Respelled w v) : v.normalise = w.normalise := by
  obtain ⟨before, body, after, hpoints, hbefore, hafter, hletters⟩ := h
  have hstrip : (stripPoints body).map Point.lower = (stripPoints w.points).map Point.lower := by
    rw [← stripPoints_map_lower, hletters, stripPoints_map_lower]
  have hupper : (stripPoints body).flatMap Point.upper
      = (stripPoints w.points).flatMap Point.upper := by
    rw [← flatMap_upper_map_lower, hstrip, flatMap_upper_map_lower]
  rw [Wide.normalise, hpoints, stripPoints_append hbefore hafter, hupper, Wide.normalise]

end Text

namespace Tag

open Text (Wide Respelled)

variable {α β : Type}

/-! ## Readers -/

/-- A way to read the tags of a set out of strings: what is made of a string, what
of a member that was named, and what of a string that names none. -/
structure Reader (α β : Type) where
  read : Wide → β
  known : α → β
  unknown : Wide → β

/-- A set with a fallback: a member is read without a report, and the fallback with
one report, an error that quotes the string. Of a string that is a text, `read` is
`ofText`, by which the parameters of a query are read. -/
def lenient (α : Type) [DefaultTag α] : Reader α (Except NotText (α × List Event)) where
  read w := ofJson (.string w)
  known a := .ok (a, [])
  unknown w := .ok (DefaultTag.fallback, [.unknownTag (kind α) w.quote])

/-- The mode of a service: a string that names none is refused. Of a string that is
a text, `read` is `Mode.ofText`, by which a segment of a path is read. -/
def strict : Reader Mode (Except Mode.Unknown Mode) where
  read w := Mode.ofJson (.string w)
  known := .ok
  unknown w := .error ⟨w.quote⟩

/-- The spelling of a tag does not matter to a reader. -/
structure Reader.IgnoresSpelling [Tag α] (r : Reader α β) : Prop where
  /-- Of a string and a respelled one it makes the same member, or they are unknown both. -/
  read_alike : ∀ {w v : Wide}, Respelled w v →
    (∃ a, r.read w = r.known a ∧ r.read v = r.known a)
      ∨ (r.read w = r.unknown w ∧ r.read v = r.unknown v)
  /-- It reads a member if and only if the normal form is the name of that member. -/
  read_eq_known_iff : ∀ (w : Wide) (a : α),
    r.read w = r.known a ↔ w.normalise = .text (Tag.name a)

/-- A reader that answers by the member that a text names, where members can be told
from each other and from what is unknown. -/
structure Reader.ReadsNames [Tag α] (r : Reader α β) : Prop where
  text : ∀ s, r.read (.text s) = ((parse? s).map r.known).getD (r.unknown (.text s))
  broken : ∀ ps noText, r.read (.broken ps noText) = r.unknown (.broken ps noText)
  known_injective : Function.Injective r.known
  known_ne_unknown : ∀ a w, r.known a ≠ r.unknown w

theorem readsNames_lenient [DefaultTag α] : (lenient α).ReadsNames where
  text s := by
    simp only [lenient, ofJson, ofText]
    cases (parse? s : Option α) <;> rfl
  broken _ _ := rfl
  known_injective _ _ h := congrArg Prod.fst (Except.ok.inj h)
  known_ne_unknown _ _ h := by cases h

theorem readsNames_strict : strict.ReadsNames where
  text s := by
    simp only [strict, Mode.ofJson, Mode.ofText]
    cases (parse? s : Option Mode) <;> rfl
  broken _ _ := rfl
  known_injective _ _ := Except.ok.inj
  known_ne_unknown _ _ h := by cases h

/-! ## Names -/

section

variable [Tag α] (hnames : ∀ a : α, named? (name a) = some a)
variable {r : Reader α β} (hr : r.ReadsNames)

include hnames hr

/-- What a string is read as: the member that its normal form names, or as unknown. -/
theorem Reader.ReadsNames.cases (w : Wide) :
    (∃ a, w.normalise = .text (name a) ∧ r.read w = r.known a)
      ∨ ((∀ a : α, w.normalise ≠ .text (name a)) ∧ r.read w = r.unknown w) := by
  cases w with
  | broken ps noText => exact .inr ⟨fun _ => Wide.normalise_broken_ne, hr.broken ps noText⟩
  | text s =>
    rw [Wide.normalise_text, hr.text]
    cases hparse : (parse? s : Option α) with
    | some a =>
      exact .inl ⟨a, congrArg Wide.text ((parse?_eq_some_iff hnames).1 hparse), rfl⟩
    | none =>
      refine .inr ⟨fun a ha => ?_, rfl⟩
      rw [(parse?_eq_some_iff hnames).2 (Wide.text.inj ha)] at hparse
      cases hparse

theorem Reader.ReadsNames.read_eq_known_iff (w : Wide) (a : α) :
    r.read w = r.known a ↔ w.normalise = .text (name a) := by
  rcases hr.cases hnames w with ⟨b, hname, hread⟩ | ⟨hnone, hread⟩
  · constructor
    · intro h
      rw [← hr.known_injective (hread.symm.trans h), hname]
    · intro h
      have hname' : name b = name a := Wide.text.inj (hname.symm.trans h)
      have hsome : some b = some a := by rw [← hnames, ← hnames, hname']
      rw [hread, Option.some.inj hsome]
  · constructor
    · intro h
      exact absurd (h.symm.trans hread) (hr.known_ne_unknown a w)
    · intro h
      exact absurd h (hnone a)

/-- A reader that goes by names looks at the normal form alone. -/
theorem Reader.ReadsNames.ignoresSpelling : r.IgnoresSpelling where
  read_alike {w v} h := by
    rcases hr.cases hnames w with ⟨a, hname, hread⟩ | ⟨hnone, hread⟩
    · refine .inl ⟨a, hread, (hr.read_eq_known_iff hnames v a).2 ?_⟩
      rw [h.normalise_eq, hname]
    · rcases hr.cases hnames v with ⟨b, hname, -⟩ | ⟨-, hread'⟩
      · exact absurd (h.normalise_eq ▸ hname) (hnone b)
      · exact .inr ⟨hread, hread'⟩
  read_eq_known_iff := hr.read_eq_known_iff hnames

end

/-- **Tags are read without regard to blanks around them and to the case of ASCII
letters**, each of the four sets: a respelled string is read as the same member, or
again as unknown. A member is read exactly from the strings that are its name when
stripped and in upper case. -/
theorem tag_spelling_does_not_matter :
    (lenient PaymentType).IgnoresSpelling ∧ (lenient Source).IgnoresSpelling
      ∧ (lenient State).IgnoresSpelling ∧ strict.IgnoresSpelling :=
  ⟨readsNames_lenient.ignoresSpelling PaymentType.named?_name,
    readsNames_lenient.ignoresSpelling Source.named?_name,
    readsNames_lenient.ignoresSpelling State.named?_name,
    readsNames_strict.ignoresSpelling Mode.named?_name⟩

/-- The normal form can be longer than the string: U+FB06 is one character, and its
upper case is two. An ideographic space, a no-break space and capitals make no
difference. -/
theorem ligature_is_read_as_test :
    let w : Wide := .text "te\ufb06"
    let v : Wide := .text "\u3000\u00a0TE\ufb06\n"
    Respelled w v ∧ Mode.ofJson (.string w) = .ok .test ∧ Mode.ofJson (.string v) = .ok .test := by
  intro w v
  have hspelling : Respelled w v :=
    .intro (Text.points "\u3000\u00a0") (Text.points "TE\ufb06") (Text.points "\n")
      (by decide) (by decide) (by decide) (by decide)
  obtain ⟨-, -, -, hmode⟩ := tag_spelling_does_not_matter
  have hw : strict.read w = strict.known .test := (hmode.read_eq_known_iff w .test).2 (by decide)
  refine ⟨hspelling, hw, ?_⟩
  rcases hmode.read_alike hspelling with ⟨mode, hw', hv⟩ | ⟨hw', -⟩
  · have hsame : Except.ok Mode.test = Except.ok mode := hw.symm.trans hw'
    cases hsame
    exact hv
  · cases hw.symm.trans hw'

end Tag
end BearerTokens
