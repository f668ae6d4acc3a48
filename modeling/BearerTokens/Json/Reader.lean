/-
BearerTokens.Json.Reader — the value of a JSON document.

The grammar is the strict one, with the words NaN, Infinity and -Infinity as
numbers besides. Two things can be wrong with a document: it is `malformed`, or
it is well formed so far and cannot be held (`unreadable`): an integer of too
many digits, or lists and objects nested too deeply. Of two members of one name
the last value wins, in the place of the first.

Strings are cut at their closing quote first and unescaped after that, so both
steps are structural. Values are read by recursion on a bound that is twice the
length of the document: every call takes a code point or is followed by one
that does.
-/
import BearerTokens.Json.Basic
import BearerTokens.Text.Hex

namespace BearerTokens.Json

open Number (Binary64)
open Text (Point Wide)

/-- What can be wrong with a document. -/
inductive Fault
  | malformed
  | unreadable
deriving DecidableEq, Repr

/-! ## Blanks -/

/-- The blanks of JSON. -/
def isJsonBlank (c : Char) : Bool :=
  c == ' ' || c == '\t' || c == '\n' || c == '\r'

/-- The document after the blanks at its start. -/
def skipBlanks (ps : List Point) : List Point :=
  ps.dropWhile (·.holds isJsonBlank)

/-! ## Strings -/

/-- Cut at the closing quote; `escaped` tells whether a backslash came before. -/
def splitText : Bool → List Point → Option (List Point × List Point)
  | _, [] => none
  | escaped, p :: rest =>
    if p.code < 0x20 then none
    else if !escaped && p == .char Text.doubleMark then some ([], rest)
    else
      (splitText (!escaped && p == .char Text.backslash) rest).map fun (body, more) =>
        (p :: body, more)

/-- A piece of a string: a code point, or a code unit that an escape names. -/
inductive Piece
  | point (p : Point)
  | unit (n : Nat)
deriving DecidableEq, Repr

/-- The character that the second character of an escape stands for. -/
def shortEscape? (c : Char) : Option Char :=
  if c == Text.doubleMark || c == Text.backslash || c == '/' then some c
  else if c == 'b' then some (Char.ofNat 8)
  else if c == 'f' then some (Char.ofNat 12)
  else if c == 'n' then some '\n'
  else if c == 'r' then some '\r'
  else if c == 't' then some '\t'
  else none

/-- The pieces that the inside of a string consists of. -/
def pieces? : List Point → Option (List Piece)
  | [] => some []
  | [p] => if p == .char Text.backslash then none else some [.point p]
  | p :: e :: rest =>
    if p != .char Text.backslash then (pieces? (e :: rest)).map (.point p :: ·)
    else if e == .char 'u' then
      match rest with
      | h₁ :: h₂ :: h₃ :: h₄ :: rest => do
        let digits ← Text.characters? [h₁, h₂, h₃, h₄]
        let n ← Text.hexNumber? digits
        let more ← pieces? rest
        return .unit n :: more
      | _ => none
    else do
      let c ← e.char?.bind shortEscape?
      let more ← pieces? rest
      return .point (.char c) :: more

/-- The code point of a piece; a code unit of four digits always has one. -/
def Piece.toPoint : Piece → Point
  | point p => p
  | unit n => (Point.ofCode? n).getD (.char (Char.ofNat 0xFFFD))

/-- The code points of pieces. Two code units that are a surrogate pair make
one; a surrogate that is no escape belongs to no pair. -/
def joinPieces : List Piece → List Point
  | [] => []
  | [p] => [p.toPoint]
  | .unit high :: .unit low :: rest =>
    match Text.joinPair? high low with
    | some c => .char c :: joinPieces rest
    | none => (Piece.unit high).toPoint :: joinPieces (.unit low :: rest)
  | p :: q :: rest => p.toPoint :: joinPieces (q :: rest)

/-- A string, after its opening quote. -/
def readString (ps : List Point) : Except Fault (Wide × List Point) :=
  match splitText false ps with
  | none => .error .malformed
  | some (body, rest) =>
    match pieces? body with
    | none => .error .malformed
    | some pieces => .ok (.ofPoints (joinPieces pieces), rest)

/-! ## Numbers -/

/-- The most digits that an integer may have. -/
def maxDigits : Nat := 4300

/-- The digits before the point: one zero, or digits that start with none. -/
def takeWhole : List Char → List Char × List Char
  | [] => ([], [])
  | c :: rest =>
    if c == '0' then (['0'], rest)
    else ((c :: rest).takeWhile Text.isAsciiDigit, (c :: rest).dropWhile Text.isAsciiDigit)

/-- The digits after the point, if a point and a digit come next. -/
def takeFraction : List Char → List Char × List Char
  | '.' :: rest =>
    let digits := rest.takeWhile Text.isAsciiDigit
    if digits.isEmpty then ([], '.' :: rest) else (digits, rest.dropWhile Text.isAsciiDigit)
  | cs => ([], cs)

/-- The exponent, if one comes next. -/
def takeExponent : List Char → Option Int × List Char
  | [] => (none, [])
  | c :: rest =>
    if c == 'e' || c == 'E' then
      let (negative, more) := Binary64.takeSign rest
      let digits := more.takeWhile Text.isAsciiDigit
      if digits.isEmpty then (none, c :: rest)
      else
        let n : Int := Text.digitsValue digits
        (some (if negative then -n else n), more.dropWhile Text.isAsciiDigit)
    else (none, c :: rest)

/-- A number, after its sign. An integer of too many digits is found before
what may be wrong behind it. -/
def readNumber (negative : Bool) (cs : List Char) : Except Fault Json :=
  let (whole, rest) := takeWhole cs
  let (fraction, rest) := takeFraction rest
  let (exponent, rest) := takeExponent rest
  let isInteger := fraction.isEmpty && exponent.isNone
  if isInteger && maxDigits < whole.length then .error .unreadable
  else if whole.isEmpty || !rest.isEmpty then .error .malformed
  else if isInteger then
    let n : Int := Text.digitsValue whole
    .ok (.int (if negative then -n else n))
  else
    let digits := Text.digitsValue (whole ++ fraction)
    .ok (.real (Binary64.ofDecimal negative digits (exponent.getD 0 - fraction.length)))

/-! ## Words -/

/-- The words that are values. -/
def words : List (String × Json) :=
  [("null", .null), ("true", .bool true), ("false", .bool false), ("NaN", .real .nan),
    ("Infinity", .real (.infinite false)), ("-Infinity", .real (.infinite true))]

/-- A character of a word or a number. -/
def isAtomChar (c : Char) : Bool :=
  c.isAlphanum || c == '+' || c == '-' || c == '.'

/-- A word or a number. -/
def readAtom (cs : List Char) : Except Fault Json :=
  match words.lookup (String.ofList cs) with
  | some value => .ok value
  | none =>
    match cs with
    | '-' :: rest => readNumber true rest
    | cs => readNumber false cs

/-! ## Values -/

mutual
/-- A value at the start of a document; `depth` more levels may be opened. -/
def readValue : Nat → Nat → List Point → Except Fault (Json × List Point)
  | 0, _, _ => .error .malformed
  | _, _, [] => .error .malformed
  | bound + 1, depth, p :: rest =>
    if p == .char Text.doubleMark then do
      let (w, rest) ← readString rest
      return (.string w, rest)
    else if p == .char '[' then
      match depth, skipBlanks rest with
      | 0, _ => .error .unreadable
      | _ + 1, .char ']' :: rest => .ok (.list [], rest)
      | depth + 1, rest => do
        let (items, rest) ← readItems bound depth rest
        return (.list items, rest)
    else if p == .char (Char.ofNat 0x7B) then
      match depth with
      | 0 => .error .unreadable
      | depth + 1 => do
        let (fields, rest) ← readFirstField bound depth (skipBlanks rest)
        return (.object fields, rest)
    else do
      let atom := (p :: rest).takeWhile (·.holds isAtomChar)
      let value ← readAtom (atom.filterMap Point.char?)
      return (value, (p :: rest).dropWhile (·.holds isAtomChar))

/-- The items of a list up to its closing bracket. -/
def readItems : Nat → Nat → List Point → Except Fault (List Json × List Point)
  | 0, _, _ => .error .malformed
  | bound + 1, depth, ps => do
    let (item, rest) ← readValue bound depth ps
    match skipBlanks rest with
    | .char ']' :: rest => return ([item], rest)
    | .char ',' :: rest =>
      let (items, rest) ← readItems bound depth (skipBlanks rest)
      return (item :: items, rest)
    | _ => .error .malformed

/-- The members of an object, of which there may be none. -/
def readFirstField : Nat → Nat → List Point → Except Fault (Fields × List Point)
  | 0, _, _ => .error .malformed
  | _, _, [] => .error .malformed
  | bound + 1, depth, p :: rest =>
    if p == .char (Char.ofNat 0x7D) then .ok ([], rest)
    else readFields bound depth [] (p :: rest)

/-- The members of an object after those already read. -/
def readFields : Nat → Nat → Fields → List Point → Except Fault (Fields × List Point)
  | 0, _, _, _ => .error .malformed
  | _, _, _, [] => .error .malformed
  | bound + 1, depth, before, p :: rest => do
    if p != .char Text.doubleMark then .error .malformed
    else
      let (name, rest) ← readString rest
      match skipBlanks rest with
      | .char ':' :: rest =>
        let (value, rest) ← readValue bound depth (skipBlanks rest)
        let fields := setField name value before
        match skipBlanks rest with
        | [] => .error .malformed
        | q :: rest =>
          if q == .char (Char.ofNat 0x7D) then return (fields, rest)
          else if q == .char ',' then readFields bound depth fields (skipBlanks rest)
          else .error .malformed
      | _ => .error .malformed
end

/-- The value of a whole document, with at most `depth` levels of lists and objects. -/
def read (depth : Nat) (ps : List Point) : Except Fault Json := do
  let (value, rest) ← readValue (2 * ps.length + 2) depth (skipBlanks ps)
  if (skipBlanks rest).isEmpty then return value else .error .malformed

end BearerTokens.Json
