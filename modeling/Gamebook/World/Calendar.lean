import Gamebook.Number.Decimal
import Gamebook.Record.Field
import Gamebook.Record.Reading

/-!
The calendar of the game world: days of 24 hours, months of 30 days, years of 12 months. Advancing
carries minutes into hours, hours into days, days into months and months into years; a result
outside the calendar is refused with the fields that are at fault.
-/

namespace Gamebook

/-- A moment in the game world. -/
structure GameTime where
  year : Int := 1
  month : Int := 1
  day : Int := 1
  hour : Int := 0
  minute : Int := 0
  deriving DecidableEq, Inhabited

namespace GameTime

/-- Checks one field against its bounds. -/
def field (name : String) (low high i : Int) : Checked Int :=
  (Checked.require (low ≤ i && i ≤ high) i).within name

/-- The moment with the given fields, if each lies within its bounds. -/
def make (year month day hour minute : Int) : Checked GameTime :=
  mk <$> .ok year
    <*> field "month" 1 12 month
    <*> field "day" 1 30 day
    <*> field "hour" 0 23 hour
    <*> field "minute" 0 59 minute

/-- A stretch of time, unit by unit. -/
structure Span where
  years : Int := 0
  months : Int := 0
  days : Int := 0
  hours : Int := 0
  minutes : Int := 0

/-- The moment that lies a stretch of time later. -/
def advance (t : GameTime) (d : Span) : Checked GameTime :=
  let minute := t.minute + d.minutes
  let hour := t.hour + minute.fdiv 60 + d.hours
  let day := t.day + hour.fdiv 24 + d.days
  let monthsCarried := if 30 < day then (day - 1).fdiv 30 else 0
  let day := if 30 < day then (day - 1).fmod 30 + 1 else day
  let month := t.month + monthsCarried + d.months
  let yearsCarried := if 12 < month then (month - 1).fdiv 12 else 0
  let month := if 12 < month then (month - 1).fmod 12 + 1 else month
  make (t.year + yearsCarried + d.years) month day (hour.fmod 24) (minute.fmod 60)

/-- A number with two digits at least. -/
def twoDigits (i : Int) : String := String.ofList (Double.padZeros 2 (toString i).toList)

/-- The moment as the narrator is told it. -/
def label (t : GameTime) : String :=
  twoDigits t.hour ++ ":" ++ twoDigits t.minute ++ " ngày " ++ toString t.day ++ "/" ++
    toString t.month ++ "/" ++ toString t.year

/-- Reads a moment from its fields. -/
def ofFields (f : Fields) : Checked GameTime :=
  mk <$> f.get "year" Read.int 1
    <*> f.get "month" (Read.intBetween 1 (some 12)) 1
    <*> f.get "day" (Read.intBetween 1 (some 30)) 1
    <*> f.get "hour" (Read.intBetween 0 (some 23)) 0
    <*> f.get "minute" (Read.intBetween 0 (some 59)) 0

def read (v : Value) : Checked GameTime := (Read.object v).andThen ofFields

/-- The fields of a moment with their defaults. -/
def slots (t : GameTime) : List Slot :=
  [.int "year" 1 t.year, .int "month" 1 t.month, .int "day" 1 t.day, .int "hour" 0 t.hour,
    .int "minute" 0 t.minute]

def toValue (t : GameTime) : Value := .object (Slot.full t.slots)

end GameTime

end Gamebook
