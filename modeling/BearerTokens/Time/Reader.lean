/-
BearerTokens.Time.Reader — the timestamp of a text.

A date is a year, a month and a day, or a year, a `W` and a week with perhaps a
day of it; hyphens separate the parts or nothing does. Any one character may
stand between the date and the time. A time is hours, minutes and seconds, of
which the later ones may be left out; colons separate them or nothing does, and
decimals may follow. A distance from UTC is `Z`, or a sign and a time.

Since anything may separate date and time, `dateLength` finds out from single
characters where the date ends.
-/
import BearerTokens.Time.Timestamp
import BearerTokens.Text.Digit

namespace BearerTokens.Timestamp

open Time (Date)

/-! ## Pieces -/

/-- A field of exactly `width` digits, and the rest. -/
def takeDigits? (width : Nat) (cs : List Char) : Option (Nat × List Char) :=
  let field := cs.take width
  if field.length == width && field.all Text.isAsciiDigit then
    some (Text.digitsValue field, cs.drop width)
  else none

/-- The rest after a hyphen, if there has to be one. -/
def skipHyphen? (separated : Bool) (cs : List Char) : Option (List Char) :=
  match separated, cs with
  | false, cs => some cs
  | true, '-' :: rest => some rest
  | true, _ => none

/-! ## Dates -/

/-- How many characters of a text are its date. After a week, an odd number of
digits means that the first of them is the day. -/
def dateLength (cs : List Char) : Nat :=
  if cs.length == 7 then 7
  else if cs[4]? == some '-' then
    if cs[5]? != some 'W' then 10
    else if cs[8]? != some '-' || cs[10]?.any Text.isAsciiDigit then 8
    else 10
  else if cs[4]? == some 'W' then
    let digits := ((cs.drop 7).takeWhile Text.isAsciiDigit).length
    if digits < 2 then 7 + digits else if digits % 2 == 1 then 7 else 8
  else 8

/-- The Monday with which the weeks of a year start: the one next to the start
of January. -/
def firstMonday (year : Int) : Int :=
  let newYear := Date.toDays ⟨year, 1, 1⟩
  let weekday := Int.fmod (newYear + 3) 7
  if weekday ≤ 3 then newYear - weekday else newYear - weekday + 7

/-- The day of the week after its number, the first one if none is given. -/
def dayOfWeek? (separated : Bool) (cs : List Char) : Option Nat := do
  if cs.isEmpty then return 1
  let cs ← skipHyphen? separated cs
  let (day, rest) ← takeDigits? 1 cs
  guard rest.isEmpty
  return day

/-- The day of a date that is given by week. -/
def weekDay? (separated : Bool) (year : Nat) (cs : List Char) : Option Int := do
  let (week, cs) ← takeDigits? 2 cs
  let day ← dayOfWeek? separated cs
  let monday := firstMonday year + (week - 1) * 7
  guard (1 ≤ week && monday < firstMonday (year + 1) && 1 ≤ day && day ≤ 7)
  return monday + (day - 1)

/-- The day of a date that is given by month. -/
def monthDay? (separated : Bool) (year : Nat) (cs : List Char) : Option Int := do
  let (month, cs) ← takeDigits? 2 cs
  let cs ← skipHyphen? separated cs
  let (day, rest) ← takeDigits? 2 cs
  let date : Date := ⟨year, month, day⟩
  guard (rest.isEmpty && 1 ≤ month && month ≤ 12 && Date.ofDays date.toDays == date)
  return date.toDays

/-- The day of a date. -/
def parseDate? (cs : List Char) : Option Int := do
  let (year, cs) ← takeDigits? 4 cs
  let separated := cs.head? == some '-'
  match (if separated then cs.drop 1 else cs) with
  | 'W' :: cs => weekDay? separated year cs
  | cs => monthDay? separated year cs

/-! ## Times -/

/-- Is a text over? Nothing counts after a NUL. -/
def isOver (cs : List Char) : Bool :=
  cs.head?.all (· == Char.ofNat 0)

/-- Decimals of a second in microseconds, and the rest; from the seventh on they
do not count. -/
def takeFraction? (cs : List Char) : Option (Nat × List Char) :=
  let field := cs.take 6
  if field.isEmpty || !field.all Text.isAsciiDigit then none
  else
    let micros := Text.digitsValue ((field ++ List.replicate 6 '0').take 6)
    some (micros, (cs.drop 6).dropWhile Text.isAsciiDigit)

/-- What comes after a field of a time. -/
inductive Sequel
  /-- Nothing, or one character that does not belong to the time. -/
  | over (rest : List Char)
  | fraction (digits : List Char)
  | field (digits : List Char)

/-- What comes after a field; a colon stands before the next one if the fields
are `separated`. -/
def sequel? (separated : Bool) : List Char → Option Sequel
  | [] => some (.over [])
  | [c] => if c.toNat < 0x80 then some (.over [c]) else none
  | c :: cs =>
    if separated && c == ':' then some (.field cs)
    else if c == '.' || c == ',' then some (.fraction cs)
    else if separated then none
    else some (.field (c :: cs))

/-- The fields after the first one, each in the given unit and below a limit,
and the rest. After the last of them there are decimals only. -/
def takeFields? (separated : Bool) (limit : Nat) (units : List Nat) (cs : List Char) :
    Option (Nat × List Char) := do
  match ← sequel? separated cs with
  | .over rest => return (0, rest)
  | .fraction digits => takeFraction? digits
  | .field digits =>
    match units with
    | [] => takeFraction? digits
    | unit :: units =>
      let (n, cs) ← takeDigits? 2 digits
      guard (n < limit)
      let (more, rest) ← takeFields? separated limit units cs
      return (n * unit + more, rest)

/-- Hours, minutes and seconds in microseconds, and the rest. Minutes and seconds
are below a limit. -/
def takeClock? (limit : Nat) (cs : List Char) : Option (Nat × List Char) := do
  let (hours, cs) ← takeDigits? 2 cs
  let (more, rest) ← takeFields? (cs.head? == some ':') limit [60000000, 1000000] cs
  return (hours * 3600000000 + more, rest)

/-- The microseconds of a day. -/
def microsPerDay : Nat := 86400000000

/-- A distance from UTC without its sign: less than a day, and none if it is less
than a second. -/
def parseDistance? (cs : List Char) : Option Nat := do
  let (n, rest) ← takeClock? 100 cs
  guard (isOver rest && n < microsPerDay)
  return if n < 1000000 then 0 else n

/-- The distance from UTC that a text starts with. -/
def parseOffset? : List Char → Option Int
  | 'Z' :: rest => if isOver rest then some 0 else none
  | '+' :: cs => (parseDistance? cs).map fun n => (n : Int)
  | '-' :: cs => (parseDistance? cs).map fun n => -(n : Int)
  | _ => none

/-! ## Timestamps -/

/-- Does a distance from UTC start here? -/
def startsOffset (c : Char) : Bool :=
  c == '+' || c == '-' || c == 'Z'

/-- A time of day, and the distance from UTC if one is given. Where one is given,
what is left over before it does not count. -/
def parseTime? (cs : List Char) : Option (Nat × Option Int) := do
  let (time, rest) ← takeClock? 60 (cs.takeWhile fun c => !startsOffset c)
  guard (time < microsPerDay)
  match cs.dropWhile fun c => !startsOffset c with
  | [] =>
    guard (isOver rest)
    return (time, none)
  | zone =>
    let offset ← parseOffset? zone
    return (time, some offset)

/-- The days of the years from 1 to 9999. -/
def isCounted (days : Int) : Bool :=
  Date.toDays ⟨1, 1, 1⟩ ≤ days && days ≤ Date.toDays ⟨9999, 12, 31⟩

/-- Read a timestamp. A date alone is its midnight. -/
def parse? (s : String) : Option Timestamp := do
  let cs := s.toList
  let days ← parseDate? (cs.take (dateLength cs))
  guard (isCounted days)
  match cs.drop (dateLength cs) with
  | [] => return ⟨days * day, none⟩
  | _ :: cs =>
    let (time, offset) ← parseTime? cs
    return ⟨days * day + time, offset⟩

end BearerTokens.Timestamp
