/-
BearerTokens.Time.Timestamp — points in time and their texts.

An `Instant` counts microseconds from the start of 1970 in UTC. A `Timestamp`
is what a record shows: the reading of a clock, and the distance of that clock
from UTC if it is known. The store writes instants and shows them in UTC.

A timestamp has three texts, which differ in how they separate date and time
and in how they show the distance: `isoText` as `+00:00`, `wireText` in whole
minutes and as `Z` when it is zero, and `columnText` not at all but always with
six decimals.
-/
import BearerTokens.Time.Calendar

namespace BearerTokens

/-- Microseconds since the start of 1970 in UTC. -/
abbrev Instant := Int

/-- A clock's reading, and its distance east of UTC if known, in microseconds. -/
structure Timestamp where
  wall : Int
  offset : Option Int
deriving DecidableEq, Repr

namespace Timestamp

open Time (Date)

/-! ## Instants -/

/-- Microseconds in a second. -/
def second : Int := 1000000

/-- Microseconds in a day. -/
def day : Int := 86400000000

/-- An instant as UTC shows it. -/
def utc (i : Instant) : Timestamp := ⟨i, some 0⟩

/-- The instant of a timestamp; a clock of unknown distance shows UTC. -/
def instant (t : Timestamp) : Instant := t.wall - t.offset.getD 0

/-- The timestamp, taken to be in UTC if its distance is unknown. -/
def assumeUtc (t : Timestamp) : Timestamp :=
  match t.offset with
  | some _ => t
  | none => ⟨t.wall, some 0⟩

@[simp] theorem instant_utc (i : Instant) : (utc i).instant = i := by
  simp [utc, instant]

@[simp] theorem utc_inj {i j : Instant} : utc i = utc j ↔ i = j := by
  simp [utc]

/-! ## Writing -/

/-- The last `width` decimal digits of a number. -/
def digits : Nat → Nat → List Char
  | 0, _ => []
  | width + 1, n => digits width (n / 10) ++ [Char.ofNat (48 + n % 10)]

/-- The date and the microsecond of the day that the clock shows. -/
def reading (t : Timestamp) : Date × Nat :=
  let days := Int.fdiv t.wall day
  (Date.ofDays days, (t.wall - days * day).toNat)

/-- The date, as in `2024-01-01`. -/
def dateText (d : Date) : List Char :=
  digits 4 d.year.toNat ++ '-' :: digits 2 d.month ++ '-' :: digits 2 d.day

/-- Hour, minute and second of a microsecond of the day, as in `12:30:00`. -/
def clockText (micros : Nat) : List Char :=
  let seconds := micros / 1000000
  digits 2 (seconds / 3600) ++ ':' :: digits 2 (seconds / 60 % 60) ++ ':' :: digits 2 (seconds % 60)

/-- The decimals of the second, of which there are six or none. -/
def fractionText (micros : Nat) : List Char :=
  if micros % 1000000 == 0 then [] else '.' :: digits 6 (micros % 1000000)

/-- Date, time and decimals. -/
def localText (t : Timestamp) : List Char :=
  let (date, micros) := t.reading
  dateText date ++ 'T' :: clockText micros ++ fractionText micros

/-- The sign of a distance. -/
def signText (n : Int) : Char :=
  if n < 0 then '-' else '+'

/-- A distance from UTC, as in `+05:30`, with seconds and decimals if it has any. -/
def offsetText (offset : Int) : List Char :=
  let micros := offset.natAbs
  let clock := clockText micros
  let shown := if micros % 60000000 == 0 then clock.take 5 else clock
  signText offset :: shown ++ fractionText micros

/-- The whole seconds nearest to a distance, half a second going away from zero. -/
def nearestSeconds (offset : Int) : Int :=
  offset.sign * ((offset.natAbs + 500000) / 1000000 : Nat)

/-- A distance from UTC in whole minutes, without the seconds that are left; a
distance that rounds to no seconds is a `Z`. -/
def zoneText (offset : Int) : List Char :=
  let seconds := nearestSeconds offset
  if seconds == 0 then ['Z'] else signText seconds :: (clockText (seconds * second).natAbs).take 5

/-- The text in answers and messages. -/
def isoText (t : Timestamp) : String :=
  String.ofList (t.localText ++ (t.offset.map offsetText).getD [])

/-- The text in a response body. -/
def wireText (t : Timestamp) : String :=
  String.ofList (t.localText ++ (t.offset.map zoneText).getD [])

/-- The text in a column of the table. -/
def columnText (t : Timestamp) : String :=
  let (date, micros) := t.reading
  String.ofList
    (dateText date ++ ' ' :: clockText micros ++ '.' :: digits 6 (micros % 1000000))

end Timestamp
end BearerTokens
