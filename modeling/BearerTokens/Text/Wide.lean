/-
BearerTokens.Text.Wide — texts in which surrogates may stand.

A character is a code point that is no surrogate, but an escape in a document
may name half of a surrogate pair and leave out the other half. A `Point` is
any code point. A `Wide` is a text if its points are characters, and the list
of its points if they are not; so there is exactly one for every list of
points, which is what `points_ofPoints` and `ofPoints_points` say.
-/
import BearerTokens.Text.Quoted

namespace BearerTokens.Text

/-! ## Code points -/

/-- A code point: a character, or the surrogate that many places after U+D800. -/
inductive Point
  | char (c : Char)
  | surrogate (place : Fin 0x800)
deriving DecidableEq, Repr

namespace Point

/-- The number of a code point. -/
def code : Point → Nat
  | char c => c.toNat
  | surrogate place => 0xD800 + place

/-- The code point of a number, if it has one. -/
def ofCode? (n : Nat) : Option Point :=
  if h : n.isValidChar then some (char (Char.ofNatAux n h))
  else if h : 0xD800 ≤ n ∧ n < 0xE000 then some (surrogate ⟨n - 0xD800, by omega⟩)
  else none

/-- The character of a code point, if it is one. -/
def char? : Point → Option Char
  | char c => some c
  | surrogate _ => none

/-- Is the code point a character that passes the test? -/
def holds (test : Char → Bool) (p : Point) : Bool :=
  p.char?.any test

end Point

/-- The character of two code units that are a surrogate pair. -/
def joinPair? (high low : Nat) : Option Char :=
  if 0xD800 ≤ high && high < 0xDC00 && 0xDC00 ≤ low && low < 0xE000 then
    some (Char.ofNat (0x10000 + (high - 0xD800) * 0x400 + (low - 0xDC00)))
  else none

/-- The code points of a text. -/
def points (s : String) : List Point :=
  s.toList.map .char

/-- The characters of code points, if all of them are. -/
def characters? : List Point → Option (List Char)
  | [] => some []
  | .char c :: rest => (characters? rest).map (c :: ·)
  | .surrogate _ :: _ => none

theorem characters?_map_char (cs : List Char) : characters? (cs.map .char) = some cs := by
  induction cs with
  | nil => rfl
  | cons c cs ih => simp [characters?, ih]

theorem eq_map_char_of_characters? {ps : List Point} {cs : List Char}
    (h : characters? ps = some cs) : ps = cs.map .char := by
  induction ps generalizing cs with
  | nil => simp_all [characters?]
  | cons p ps ih =>
    cases p with
    | surrogate _ => simp [characters?] at h
    | char c =>
      obtain ⟨more, hm, rfl⟩ := Option.map_eq_some_iff.1 h
      simp [← ih hm]

/-- Code points that are no text have a surrogate among them. -/
theorem exists_surrogate_of_characters? {ps : List Point} (h : characters? ps = none) :
    ∃ place, Point.surrogate place ∈ ps := by
  induction ps with
  | nil => simp [characters?] at h
  | cons p ps ih =>
    cases p with
    | surrogate place => exact ⟨place, List.mem_cons_self⟩
    | char c =>
      rw [characters?, Option.map_eq_none_iff] at h
      obtain ⟨place, hplace⟩ := ih h
      exact ⟨place, List.mem_cons_of_mem _ hplace⟩

/-! ## Wide texts -/

/-- A text, or code points of which some are surrogates. -/
inductive Wide
  | text (s : String)
  | broken (points : List Point) (noText : characters? points = none)
deriving DecidableEq, Repr

namespace Wide

instance : Inhabited Wide := ⟨.text ""⟩

instance : Coe String Wide := ⟨.text⟩

/-- The code points. -/
def points : Wide → List Point
  | text s => Text.points s
  | broken ps _ => ps

/-- The wide text of code points. -/
def ofPoints (ps : List Point) : Wide :=
  match h : characters? ps with
  | some cs => .text (String.ofList cs)
  | none => .broken ps h

theorem ofPoints_of_characters? {ps : List Point} {cs : List Char}
    (h : characters? ps = some cs) : ofPoints ps = .text (String.ofList cs) := by
  unfold ofPoints
  split
  · rename_i cs' h'
    rw [h] at h'
    cases h'
    rfl
  · rename_i h'
    rw [h] at h'
    cases h'

theorem points_ofPoints (ps : List Point) : (ofPoints ps).points = ps := by
  unfold ofPoints
  split
  · rename_i cs h
    simp [points, Text.points, eq_map_char_of_characters? h]
  · rfl

theorem ofPoints_points (w : Wide) : ofPoints w.points = w := by
  cases w with
  | text s =>
    have h := ofPoints_of_characters? (characters?_map_char s.toList)
    simpa [points, Text.points] using h
  | broken ps noText =>
    show ofPoints ps = .broken ps noText
    unfold ofPoints
    split
    · rename_i cs h
      rw [noText] at h
      cases h
    · rfl

/-- Are all code points characters? -/
def isText : Wide → Bool
  | text _ => true
  | broken .. => false

/-- Is nothing there? -/
def isEmpty (w : Wide) : Bool :=
  w.points.isEmpty

/-- The text with U+FFFD in the place of each surrogate. -/
def lossy : Wide → String
  | text s => s
  | broken ps _ => String.ofList (ps.map fun p => p.char?.getD (Char.ofNat 0xFFFD))

/-- One code point between two marks. -/
def quotePoint (mark : Char) : Point → List Char
  | .char c => quoteChar mark c
  | .surrogate place => codeEscape (0xD800 + place)

/-- The text in quotation marks, as it is quoted in a message. -/
def quote : Wide → String
  | text s => Text.quote s
  | broken ps _ =>
    let mark := quoteMark (ps.filterMap Point.char?)
    String.ofList (mark :: ps.flatMap (quotePoint mark) ++ [mark])

end Wide
end BearerTokens.Text
