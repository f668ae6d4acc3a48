/-
BearerTokens.Text.Blank — the characters that may surround a value without
being part of it.

Two sets are in use. `isSpace` is the Unicode property White_Space; it is
what a number in a setting may be surrounded by. `isBlank` adds the four
information separators U+001C to U+001F; it is what a tag, a media type or a
credential is stripped of. Zero-width characters (U+200B, U+FEFF, U+180E)
belong to neither.

Scanning is by `List Char`, so that stripping is `dropWhile` at both ends and
its laws are those of `dropWhile`.
-/
namespace BearerTokens.Text

/-! ## The two sets -/

/-- The Unicode property White_Space. -/
def isSpace (c : Char) : Bool :=
  let n := c.toNat
  (0x09 ≤ n && n ≤ 0x0D) || n == 0x20 || n == 0x85 || n == 0xA0 || n == 0x1680
    || (0x2000 ≤ n && n ≤ 0x200A) || n == 0x2028 || n == 0x2029 || n == 0x202F
    || n == 0x205F || n == 0x3000

/-- White space or an information separator. -/
def isBlank (c : Char) : Bool :=
  isSpace c || (0x1C ≤ c.toNat && c.toNat ≤ 0x1F)

theorem isBlank_of_isSpace {c : Char} (h : isSpace c = true) : isBlank c = true := by
  simp [isBlank, h]

/-! ## Trimming -/

/-- Drop from both ends the characters that satisfy `p`. -/
def trimChars (p : Char → Bool) (cs : List Char) : List Char :=
  ((cs.dropWhile p).reverse.dropWhile p).reverse

/-- Drop from the end the characters that satisfy `p`. -/
def trimEndChars (p : Char → Bool) (cs : List Char) : List Char :=
  (cs.reverse.dropWhile p).reverse

/-- A text without the blanks around it. -/
def strip (s : String) : String :=
  String.ofList (trimChars isBlank s.toList)

/-- Where no character satisfies `p`, none is dropped. -/
theorem trimChars_eq_self {p : Char → Bool} {cs : List Char} (h : ∀ c ∈ cs, p c = false) :
    trimChars p cs = cs := by
  have hdrop : ∀ l : List Char, (∀ c ∈ l, p c = false) → l.dropWhile p = l := by
    intro l hl
    cases l with
    | nil => rfl
    | cons c rest => simp [hl c List.mem_cons_self]
  rw [trimChars, hdrop cs h, hdrop _ (by simpa using h), List.reverse_reverse]

theorem mem_dropWhile {α : Type} {p : α → Bool} {a : α} {as : List α} (ha : a ∈ as)
    (hp : p a = false) : a ∈ as.dropWhile p := by
  induction as with
  | nil => exact ha
  | cons b rest ih =>
    rw [List.dropWhile_cons]
    split
    · rename_i hb
      rcases List.mem_cons.1 ha with rfl | ha
      · rw [hp] at hb
        exact absurd hb (by decide)
      · exact ih ha
    · exact ha

/-- Trimming takes away only what is to be taken away. -/
theorem mem_trimChars {p : Char → Bool} {c : Char} {cs : List Char} (hc : c ∈ cs)
    (hp : p c = false) : c ∈ trimChars p cs := by
  rw [trimChars, List.mem_reverse]
  exact mem_dropWhile (List.mem_reverse.2 (mem_dropWhile hc hp)) hp

@[simp] theorem toList_strip (s : String) :
    (strip s).toList = trimChars isBlank s.toList := by
  simp [strip]

end BearerTokens.Text
