import Gamebook.Number.Numeral
import Gamebook.Record.Checked
import Gamebook.Text.Case
import Gamebook.Value

/-!
Readers of single values. They are lenient where nothing is lost: a number may come as a numeral, a
truth value as a word or as zero and one, a whole number as a double without a fraction. Texts come
as texts only.
-/

namespace Gamebook.Read

open Gamebook.Text Gamebook.Numeral

def text : Value → Checked String
  | .text s => .ok s
  | _ => .fault

/-- A text of at least one character. -/
def nonEmpty (v : Value) : Checked String := (text v).andThen fun s => .require (!s.isEmpty) s

def isPlainDigit (c : Char) : Bool := '0' ≤ c && c ≤ '9'

/-- The text without single underscores between its characters; none if it has no underscore, two in
a row or one at an end. -/
def withoutUnderscores? (cs : List Char) : Option (List Char) :=
  if cs.contains '_' && !occursIn ['_', '_'] cs && cs.head? != some '_' && cs.getLast? != some '_'
  then some (cs.filter (· != '_')) else none

/-- Drops the zeros in front of a numeral, with underscores between them. One zero stays if nothing
else is left or a point follows. -/
def dropLeadingZeros (last : Char) : List Char → Option (List Char)
  | [] => some [last]
  | c :: rest =>
    if c == '0' || c == '_' then dropLeadingZeros c rest
    else if isPlainDigit c || c == '-' then some (c :: rest)
    else if c == '.' then some (last :: c :: rest)
    else none

/-- A numeral without the zeros in front. -/
def stripLeadingZeros : List Char → Option (List Char)
  | [] => none
  | '0' :: rest => dropLeadingZeros '0' rest
  | c :: rest => if isPlainDigit c || c == '-' then some (c :: rest) else none

/-- A numeral without a fraction of zeros. -/
def stripZeroFraction (cs : List Char) : List Char :=
  match cs.span (· != '.') with
  | (whole, '.' :: fraction) => if fraction.all (· == '0') then whole else cs
  | _ => cs

/-- A plain numeral: a minus sign or none, and digits that do not begin with a zero. -/
def strictInt? (cs : List Char) : Option Int :=
  let (negative, ds) := match cs with
    | '-' :: rest => (true, rest)
    | _ => (false, cs)
  if ds.isEmpty || !ds.all isPlainDigit || (ds.head? == some '0' && ds != ['0']) then none
  else some (signedInt negative (valueOf (ds.map fun c => c.toNat - 48)))

/-- A numeral without plus sign, leading zeros, zero fraction and underscores. -/
def plainNumeral? (cs : List Char) : Option (List Char) := do
  let body ← match cs with
    | '+' :: '-' :: _ => none
    | '+' :: rest => some rest
    | _ => some cs
  let body ← stripLeadingZeros body
  let body := stripZeroFraction body
  return (withoutUnderscores? body).getD body

/-- A whole number from a numeral. -/
def intNumeral? (s : String) : Option Int :=
  let cs := trimWhiteSpace s.toList
  if maxDigits < (String.ofList cs).utf8ByteSize then none
  else (strictInt? cs).orElse fun _ => (plainNumeral? cs).bind strictInt?

/-- A whole number from a double without a fraction; doubles beyond 64 bits are refused. -/
def wholeDouble? (x : Double) : Option Int :=
  x.exactInt?.bind fun i => if i.natAbs < 0x8000000000000000 then some i else none

def int : Value → Checked Int
  | .int i => .ok i
  | .bool b => .ok (if b then 1 else 0)
  | .float x => .ofOption (wholeDouble? x)
  | .text s => .ofOption (intNumeral? s)
  | _ => .fault

/-- A decimal from digits that are all ASCII and carry no underscore. -/
def plainDouble? (cs : List Char) : Option Double :=
  if cs.all (fun c => c != '_' && c.toNat < 128 && !isBlank c) then bareDouble? cs else none

def doubleNumeral? (s : String) : Option Double :=
  (plainDouble? (trimWhiteSpace s.toList)).orElse fun _ =>
    (withoutUnderscores? s.toList).bind plainDouble?

def double : Value → Checked Double
  | .float x => .ok x
  | .int i => .ofOption (Number.int i).toDouble?
  | .bool b => .ok (.ofInt (if b then 1 else 0))
  | .text s => .ofOption (doubleNumeral? s)
  | _ => .fault

/-- An amount: a number is taken as it is, everything else as a whole number if possible and as a
double otherwise. -/
def number : Value → Checked Number
  | .int i => .ok (.int i)
  | .float x => .ok (.float x)
  | v =>
    match int v with
    | .ok i => .ok (.int i)
    | .faults _ => (double v).map .float

/-- The truth value that a word stands for. -/
def wordBool? (s : String) : Option Bool :=
  let word := String.ofList (s.toList.map Char.toLower)
  if word ∈ ["1", "on", "t", "true", "y", "yes"] then some true
  else if word ∈ ["0", "off", "f", "false", "n", "no"] then some false
  else none

def bool : Value → Checked Bool
  | .bool b => .ok b
  | .int i => if i = 0 then .ok false else if i = 1 then .ok true else .fault
  | .float x =>
    match wholeDouble? x with
    | some 0 => .ok false
    | some 1 => .ok true
    | _ => .fault
  | .text s => .ofOption (wordBool? s)
  | _ => .fault

/-- A value that may be null. -/
def optional {α : Type} (read : Value → Checked α) : Value → Checked (Option α)
  | .null => .ok none
  | v => (read v).map some

def list {α : Type} (read : Value → Checked α) : Value → Checked (List α)
  | .list items => .allFrom read 0 items
  | _ => .fault

def texts : Value → Checked (List String) := list text

def intBetween (low : Int) (high : Option Int) (v : Value) : Checked Int :=
  (int v).andThen fun i => .require (low ≤ i && high.all (i ≤ ·)) i

/-- A natural number of at least the given size. -/
def natFrom (low : Nat) (v : Value) : Checked Nat := (intBetween low none v).map Int.toNat

def natBetween (low high : Nat) (v : Value) : Checked Nat :=
  (intBetween low (some high) v).map Int.toNat

/-- A double between bounds; comparisons with a bound that fail only for lack of order pass. -/
def doubleBetween (low : Int) (high : Option Int) (v : Value) : Checked Double :=
  (double v).andThen fun x =>
    .require (!x.lt (.ofInt low) && !high.any fun h => (Double.ofInt h).lt x) x

/-- An amount that is read as a double between bounds. -/
def amountBetween (low : Int) (high : Option Int) (v : Value) : Checked Number :=
  (doubleBetween low high v).map .float

def object : Value → Checked Fields
  | .object fields => .ok fields
  | .objective o => .ok [("description", .text o.description), ("completed", .bool o.completed)]
  | _ => .fault

end Gamebook.Read
