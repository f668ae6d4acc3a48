/-
BearerTokens.Settings.Dotenv — files that set variables.

A file holds lines `NAME=value`, perhaps after the word `export`; `#` starts a
comment. A name may stand between apostrophes. A value may stand between
apostrophes or double quotes, and then may go over several lines and hold
escapes; without quotes it ends at its line, or before a `#` that follows a
blank. A line that is none of this is skipped. In the values, a name in braces
after a dollar sign is replaced by the variable of that name. A byte order mark
at the start of the file does not count.

Each step takes characters from the front. `bindings` recurses on a bound that
is the length of the text, since every binding takes at least one character.
-/
import BearerTokens.Text.Blank
import BearerTokens.Text.Quoted

namespace BearerTokens.Settings.Dotenv

/-! ## Pieces of a line -/

/-- Ends of lines as one line feed each. -/
def joinLineEnds : List Char → List Char
  | '\r' :: '\n' :: rest => '\n' :: joinLineEnds rest
  | '\r' :: rest => '\n' :: joinLineEnds rest
  | c :: rest => c :: joinLineEnds rest
  | [] => []

/-- A blank that does not end a line. -/
def isGap (c : Char) : Bool :=
  Text.isBlank c && c != '\n'

/-- The text after the blanks of a line. -/
def skipGap (cs : List Char) : List Char :=
  cs.dropWhile isGap

/-- The text after the rest of a line. -/
def skipLine (cs : List Char) : List Char :=
  (cs.dropWhile (· != '\n')).drop 1

/-- The text after the word `export` and blanks, if they come first. -/
def skipExport (cs : List Char) : List Char :=
  let word := "export".toList
  if word.isPrefixOf cs && ((cs.drop 6).head?.any isGap) then skipGap (cs.drop 6) else cs

/-- Cut at the quotation mark that ends a value. A character after a backslash
does not end it. -/
def splitQuoted (mark : Char) : List Char → Option (List Char × List Char)
  | [] => none
  | [c] => if c == mark then some ([], []) else none
  | c :: d :: rest =>
    if c == Text.backslash then
      (splitQuoted mark rest).map fun (body, more) => (c :: d :: body, more)
    else if c == mark then some ([], d :: rest)
    else (splitQuoted mark (d :: rest)).map fun (body, more) => (c :: body, more)

/-! ## Escapes -/

/-- The character of an escape between double quotes. -/
def doubleEscape? (c : Char) : Option Char :=
  if c == Text.backslash || c == Text.singleMark || c == Text.doubleMark then some c
  else if c == 'a' then some (Char.ofNat 7)
  else if c == 'b' then some (Char.ofNat 8)
  else if c == 'f' then some (Char.ofNat 12)
  else if c == 'n' then some '\n'
  else if c == 'r' then some '\r'
  else if c == 't' then some '\t'
  else if c == 'v' then some (Char.ofNat 11)
  else none

/-- The character of an escape between apostrophes. -/
def singleEscape? (c : Char) : Option Char :=
  if c == Text.backslash || c == Text.singleMark then some c else none

/-- A text in which escapes are replaced; other backslashes stay. -/
def unescape (escape? : Char → Option Char) : List Char → List Char
  | [] => []
  | [c] => [c]
  | c :: d :: rest =>
    if c == Text.backslash then
      match escape? d with
      | some e => e :: unescape escape? rest
      | none => c :: unescape escape? (d :: rest)
    else c :: unescape escape? (d :: rest)

/-! ## Bindings -/

/-- Cut off a comment, which starts at a `#` after a blank. -/
def withoutComment : List Char → List Char
  | [] => []
  | c :: rest =>
    if Text.isBlank c && ((rest.dropWhile Text.isBlank).head? == some '#') then []
    else c :: withoutComment rest

/-- The name at the start of a line, or none if a comment is there. -/
def takeName (cs : List Char) : Option (Option String × List Char) :=
  match cs with
  | [] => none
  | c :: rest =>
    if c == '#' then some (none, cs)
    else if c == Text.singleMark then
      let name := rest.takeWhile (· != Text.singleMark)
      let after := rest.dropWhile (· != Text.singleMark)
      if name.isEmpty || after.isEmpty then none
      else some (some (String.ofList name), after.drop 1)
    else
      let isName (c : Char) : Bool := c != '=' && c != '#' && !Text.isBlank c
      let name := cs.takeWhile isName
      if name.isEmpty then none else some (some (String.ofList name), cs.dropWhile isName)

/-- The value after the equals sign. Blanks before it do not belong to it, but
they tell a comment from a value that starts with `#`. -/
def takeValue (cs : List Char) : Option (String × List Char) :=
  match skipGap cs with
  | [] => some ("", [])
  | c :: rest =>
    if c == Text.singleMark then
      (splitQuoted c rest).map fun (body, more) =>
        (String.ofList (unescape singleEscape? body), more)
    else if c == Text.doubleMark then
      (splitQuoted c rest).map fun (body, more) =>
        (String.ofList (unescape doubleEscape? body), more)
    else
      let line := withoutComment (cs.takeWhile (· != '\n'))
      some (String.ofList (Text.trimChars Text.isBlank line), cs.dropWhile (· != '\n'))

/-- The end of a line: blanks, perhaps a comment, and the line feed. -/
def takeEnd (cs : List Char) : Option (List Char) :=
  match skipGap cs with
  | '#' :: rest => some (skipLine rest)
  | '\n' :: rest => some rest
  | [] => some []
  | _ => none

/-- A name with its value, either of which may be missing. -/
abbrev Binding := Option String × Option String

/-- One line, after the blanks before it. -/
def takeBinding (cs : List Char) : Option (Binding × List Char) := do
  let (name, rest) ← takeName (skipExport cs)
  match skipGap rest with
  | '=' :: rest =>
    let (value, rest) ← takeValue rest
    let rest ← takeEnd rest
    return ((name, some value), rest)
  | rest =>
    let rest ← takeEnd rest
    return ((name, none), rest)

/-- The rest of a text after a line that could not be read. An error inside a
line is noticed after its name and value, so what follows them is skipped. -/
def afterError (cs : List Char) : List Char :=
  match takeName (skipExport cs) with
  | none => skipLine (skipExport cs)
  | some (_, rest) =>
    match skipGap rest with
    | '=' :: rest =>
      match takeValue rest with
      | some (_, rest) => skipLine rest
      | none => skipLine (skipGap rest)
    | rest => skipLine rest

/-- The bindings of a text, at most as many as the bound. -/
def bindings : Nat → List Char → List Binding
  | 0, _ => []
  | bound + 1, cs =>
    match cs.dropWhile Text.isBlank with
    | [] => []
    | c :: rest =>
      match takeBinding (c :: rest) with
      | some (binding, rest) => binding :: bindings bound rest
      | none => bindings bound (afterError (c :: rest))

/-! ## Variables in values -/

/-- The value of the variable that comes first in a text, if one does. -/
def takeVariable (look : String → Option String) (cs : List Char) :
    Option (List Char × List Char) :=
  let close := Char.ofNat 0x7D
  match cs with
  | '$' :: c :: rest =>
    if c != Char.ofNat 0x7B then none
    else
      let isName (c : Char) : Bool := c != close && c != ':'
      let name := String.ofList (rest.takeWhile isName)
      match rest.dropWhile isName with
      | ':' :: '-' :: rest =>
        let otherwise := rest.takeWhile (· != close)
        match rest.dropWhile (· != close) with
        | _ :: rest => some (((look name).map String.toList).getD otherwise, rest)
        | [] => none
      | d :: rest => if d == close then some (((look name).getD "").toList, rest) else none
      | [] => none
  | _ => none

/-- A value with its variables replaced; the bound is the length of the value. -/
def replaceVariables (look : String → Option String) : Nat → List Char → List Char
  | 0, cs => cs
  | _, [] => []
  | bound + 1, c :: rest =>
    match takeVariable look (c :: rest) with
    | some (value, rest) => value ++ replaceVariables look bound rest
    | none => c :: replaceVariables look bound rest

/-- Set the value of a name, which may be none; a known name keeps its place. -/
def assign (name : String) (value : Option String) :
    List (String × Option String) → List (String × Option String)
  | [] => [(name, value)]
  | (n, v) :: rest =>
    if n == name then (name, value) :: rest else (n, v) :: assign name value rest

/-- The values after a list of bindings; variables are those set before and
then those of the environment. -/
def evaluate (environment : List (String × String)) :
    List (String × Option String) → List Binding → List (String × Option String)
  | values, [] => values
  | values, (none, _) :: rest => evaluate environment values rest
  | values, (some name, value) :: rest =>
    let look (n : String) : Option String :=
      match values.lookup n with
      | some value => some (value.getD "")
      | none => environment.lookup n
    let value := value.map fun v => String.ofList (replaceVariables look v.length v.toList)
    evaluate environment (assign name value values) rest

/-- A text without the byte order mark at its start. -/
def skipMark : List Char → List Char
  | c :: rest => if c == Char.ofNat 0xFEFF then rest else c :: rest
  | [] => []

/-- The variables that a file sets, in the order in which they first appear. -/
def read (environment : List (String × String)) (file : String) : List (String × Option String) :=
  let cs := joinLineEnds (skipMark file.toList)
  evaluate environment [] (bindings (cs.length + 1) cs)

end BearerTokens.Settings.Dotenv
