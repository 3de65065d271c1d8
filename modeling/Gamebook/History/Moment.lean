import Gamebook.Record.Reading

/-!
Dates and times of the real world, as a stored segment may carry them. Only their form is checked;
they are never computed with.
-/

namespace Gamebook.Moment

/-- The number that exactly `n` digits in front of a text spell, and the rest. -/
def digits? : Nat → List Char → Option (Nat × List Char)
  | 0, cs => some (0, cs)
  | n + 1, c :: rest =>
    if Read.isPlainDigit c then
      (digits? n rest).map fun (v, after) => ((c.toNat - 48) * Nat.pow 10 n + v, after)
    else none
  | _ + 1, [] => none

/-- The number of days in a month. -/
def daysIn (year month : Nat) : Nat :=
  if month = 2 then
    if year % 400 = 0 || (year % 4 = 0 && year % 100 ≠ 0) then 29 else 28
  else if month = 4 || month = 6 || month = 9 || month = 11 then 30
  else 31

def afterDate? (cs : List Char) : Option (List Char) := do
  let (year, cs) ← digits? 4 cs
  let cs ← Text.afterOpening? ['-'] cs
  let (month, cs) ← digits? 2 cs
  let cs ← Text.afterOpening? ['-'] cs
  let (day, cs) ← digits? 2 cs
  if year ≥ 1 && month ≥ 1 && month ≤ 12 && day ≥ 1 && day ≤ daysIn year month then some cs
  else none

/-- What follows the seconds, if seconds are given. -/
def afterSeconds? (cs : List Char) : Option (List Char) :=
  match cs with
  | ':' :: rest => do
    let (second, rest) ← digits? 2 rest
    if second ≥ 60 then none
    else
      match rest with
      | '.' :: more =>
        let fraction := more.takeWhile Read.isPlainDigit
        if fraction.isEmpty || fraction.length > 9 then none
        else some (more.drop fraction.length)
      | _ => some rest
  | _ => some cs

/-- What follows a time of day. -/
def afterTime? (cs : List Char) : Option (List Char) := do
  let (hour, cs) ← digits? 2 cs
  let cs ← Text.afterOpening? [':'] cs
  let (minute, cs) ← digits? 2 cs
  if hour < 24 && minute < 60 then afterSeconds? cs else none

/-- Whether a text is a time zone or empty. -/
def isZone (cs : List Char) : Bool :=
  match cs with
  | [] => true
  | ['Z'] => true
  | ['z'] => true
  | s :: rest =>
    if s == '+' || s == '-' then
      match digits? 2 rest with
      | some (hours, after) =>
        let minutes := match after with
          | ':' :: more => digits? 2 more
          | _ => digits? 2 after
        match minutes with
        | some (m, []) => hours < 24 && m < 60
        | _ => false
      | none => false
    else false

/-- Whether a text is a date, or a date with a time of day and perhaps a zone. -/
def isDateText (cs : List Char) : Bool :=
  match afterDate? cs with
  | none => false
  | some [] => true
  | some (sep :: rest) =>
    (sep == 'T' || sep == 't' || sep == ' ' || sep == '_') &&
      match afterTime? rest with
      | some zone => isZone zone
      | none => false

/-- Whether seconds since the epoch lie in the range of dates. -/
def inRange (seconds : Double) : Bool :=
  seconds.isFinite && (seconds.abs.le (.ofInt 253402300799000))

/-- A moment: a date text or seconds since the epoch. -/
def check : Value → Checked Unit
  | .text s =>
    let cs := s.toList
    .require (isDateText cs || (Read.plainDouble? cs).any inRange) ()
  | .int i => .require (inRange (.ofInt i)) ()
  | .float x => .require (inRange x) ()
  | _ => .fault

end Gamebook.Moment
