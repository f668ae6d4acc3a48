/-
BearerTokens.Http.Host — the host of a URL.

A host is a name, or an address between brackets, and a port may follow it. The
address is one of version 6, or of a later version, which is written after a
`v` and its number. An address of version 6 is eight groups of up to four
hexadecimal digits, the last two of which may be written as an address of
version 4; two colons stand for the groups that are missing, of which there is
at least one.

Only the characters of a name are looked at, not how it is put together, so
`%` may stand in it for itself.
-/
import BearerTokens.Text.Percent
import BearerTokens.Text.Digit
import BearerTokens.Text.Split

namespace BearerTokens.Http.Host

/-! ## Addresses of version 4 -/

/-- A number below 256 without needless zeros. -/
def isOctet (cs : List Char) : Bool :=
  cs.all Text.isAsciiDigit && 1 ≤ cs.length && cs.length ≤ 3
    && (cs.head? != some '0' || cs.length == 1) && Text.digitsValue cs ≤ 255

/-- Four octets with points between them. -/
def isVersion4 (cs : List Char) : Bool :=
  let octets := Text.splitAt '.' cs
  octets.length == 4 && octets.all isOctet

/-! ## Addresses of version 6 -/

/-- Up to four hexadecimal digits. -/
def isGroup (cs : List Char) : Bool :=
  cs.all (fun c => (Text.hexValue? c).isSome) && 1 ≤ cs.length && cs.length ≤ 4

/-- The number of groups that pieces are, of which the last one may be an
address of version 4 if the pieces are the end of an address. -/
def countGroups? (isEnd : Bool) : List (List Char) → Option Nat
  | [] => some 0
  | [piece] =>
    if isGroup piece then some 1
    else if isEnd && isVersion4 piece then some 2
    else none
  | piece :: rest =>
    if isGroup piece then (countGroups? isEnd rest).map (1 + ·) else none

/-- The number of groups in a text, with colons between them. -/
def groups? (isEnd : Bool) (cs : List Char) : Option Nat :=
  if cs.isEmpty then some 0 else countGroups? isEnd (Text.splitAt ':' cs)

/-- What stands before and after the first two colons in a row. -/
def cutDoubleColon? : List Char → Option (List Char × List Char)
  | [] => none
  | c :: rest =>
    if c == ':' && rest.head? == some ':' then some ([], rest.drop 1)
    else (cutDoubleColon? rest).map fun (before, after) => (c :: before, after)

/-- Is this an address of version 6? -/
def isVersion6 (cs : List Char) : Bool :=
  match cutDoubleColon? cs with
  | none => groups? true cs == some 8
  | some (before, after) =>
    match groups? false before, groups? true after with
    | some m, some n => m + n ≤ 7
    | _, _ => false

/-! ## Hosts -/

/-- A mark that may stand in any part of a URL. -/
def isMark (c : Char) : Bool :=
  "!$&'()*+,;=".toList.contains c

/-- A character of a name. -/
def isNameChar (c : Char) : Bool :=
  Text.isUnreserved c || isMark c || c == '%'

/-- Is this an address of a later version? -/
def isLaterVersion : List Char → Bool
  | 'v' :: rest =>
    let isHex (c : Char) : Bool := (Text.hexValue? c).isSome
    let isPart (c : Char) : Bool := Text.isUnreserved c || isMark c || c == ':'
    match rest.takeWhile isHex, rest.dropWhile isHex with
    | _ :: _, '.' :: c :: more => (c :: more).all isPart
    | _, _ => false
  | _ => false

/-- The most that a port can be. -/
def maxPort : Nat := 65535

/-- Nothing, or a colon and the digits of a port. -/
def isPortSuffix : List Char → Bool
  | [] => true
  | c :: digits =>
    c == ':' && !digits.isEmpty && digits.all Text.isAsciiDigit
      && Text.digitsValue digits ≤ maxPort

/-- Is this a host, perhaps with a port? -/
def isValid (host : String) : Bool :=
  match host.toList with
  | '[' :: rest =>
    let address := rest.takeWhile (· != ']')
    match rest.dropWhile (· != ']') with
    | _ :: suffix => (isVersion6 address || isLaterVersion address) && isPortSuffix suffix
    | [] => false
  | cs => !(cs.takeWhile isNameChar).isEmpty && isPortSuffix (cs.dropWhile isNameChar)

end BearerTokens.Http.Host
