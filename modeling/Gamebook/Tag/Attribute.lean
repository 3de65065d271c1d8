import Gamebook.Failure
import Gamebook.Text.Case
import Gamebook.Text.Scan
import Gamebook.Value.Display

/-!
Attributes of tags. The body of a tag is a row of pairs of a key and a value, with the value in
double quotes or bare; everything else in it is passed over. Some keys have typed values. Handlers
read attributes leniently: as a text, or as the number that a text begins with.
-/

namespace Gamebook.Attribute

open Text

/-- Whether a character may stand in a key. -/
def isKeyChar (c : Char) : Bool := c.isAlpha || c.isDigit || c == '_'

/-- Whether a character may stand in a bare value. -/
def isBareChar (c : Char) : Bool := !isBlank c && c != '"' && c != ']'

/-- A value behind the equals sign, with the length it takes up. -/
def valueAt? : List Char → Option (List Char × Nat)
  | '"' :: rest =>
    let inner := rest.takeWhile (· != '"')
    if (rest.dropWhile (· != '"')).isEmpty then none else some (inner, inner.length + 2)
  | cs =>
    let bare := cs.takeWhile isBareChar
    if bare.isEmpty then none else some (bare, bare.length)

/-- The pair at the front of a text, with its length. -/
def pairAt? (cs : List Char) : Option ((String × String) × Nat) :=
  let key := cs.takeWhile isKeyChar
  match cs.dropWhile isKeyChar with
  | '=' :: rest =>
    if key.isEmpty then none
    else
      (valueAt? rest).map fun (value, length) =>
        ((String.ofList key, String.ofList value), key.length + 1 + length)
  | _ => none

/-- Keys whose values are truth values. -/
def booleanKeys : List String := ["isMainQuest", "equippable", "usable", "consumable", "learnable"]

def numericKeys : List String :=
  ["quantities", "uses", "durability", "damage", "repairedAmount", "years", "months", "days",
    "hours", "minutes", "currentExp"]

/-- The finite number that a text spells: a whole number if possible, a double otherwise. -/
def toNumber? (raw : String) : Option Number :=
  match Numeral.int (trim raw) with
  | .ok i => some (.int i)
  | .error _ =>
    match Numeral.double? (trim raw) with
    | some x => if x.isFinite then some (.float x) else none
    | none => none

/-- The objectives in a text, which semicolons separate. -/
def objectivesOf (raw : String) : List Objective :=
  (((splitOn ';' raw).map trim).filter (!·.isEmpty)).map fun s => { description := s }

def coerce (key raw : String) : Value :=
  if key ∈ booleanKeys then .bool (lower raw == "true")
  else if key = "objectives" then .list ((objectivesOf raw).map .objective)
  else if key ∈ numericKeys then
    match toNumber? raw with
    | some x => .ofNumber x
    | none => .text raw
  else .text raw

/-- The attributes in the body of a tag. A key that comes again keeps its place and takes the later
value. -/
def parse (text : String) : Fields :=
  Keyed.ofPairs ((findAll pairAt? text.toList).map fun (key, raw) => (key, coerce key raw))

/-- The text of a value: trimmed, and none if nothing is left. Lists have none. -/
def textOf? : Value → Option String
  | .null => none
  | .list _ => none
  | .bool b => some (if b then "true" else "false")
  | v =>
    let shown := trim v.display
    if shown.isEmpty then none else some shown

def text? (attrs : Fields) (key : String) : Option String := textOf? (Value.field attrs key)

/-- The sign and the digits that a text begins with, behind blanks. -/
def leadingNumeral? (s : String) : Option (Bool × List Nat) :=
  let (negative, body) := Numeral.splitSign (s.toList.dropWhile isBlank)
  match (body.takeWhile isDigit).filterMap digitValue? with
  | [] => none
  | ds => some (negative, ds)

/-- The whole number that a text begins with. -/
def leadingInt? (s : String) : Outcome (Option Int) :=
  match leadingNumeral? s with
  | none => .ok none
  | some (negative, ds) =>
    if Numeral.maxDigits < ds.length then .error (.numeralTooLong ds.length)
    else .ok (some (Numeral.signedInt negative (Numeral.valueOf ds)))

/-- The digits that a text begins with and the digits behind a point after them. -/
def leadingDecimal? (cs : List Char) : Option (List Nat × List Nat) :=
  let whole := (cs.takeWhile isDigit).filterMap digitValue?
  let fraction :=
    match cs.dropWhile isDigit with
    | '.' :: rest => (rest.takeWhile isDigit).filterMap digitValue?
    | _ => []
  if whole.isEmpty && fraction.isEmpty then none else some (whole, fraction)

/-- The decimal number that a text begins with. -/
def leadingDouble? (s : String) : Option Double :=
  let (negative, body) := Numeral.splitSign (s.toList.dropWhile isBlank)
  (leadingDecimal? body).map fun (whole, fraction) =>
    Double.ofDecimal negative (Numeral.decimal whole fraction 0)

/-- The whole part of a number; a number that is not finite has none. -/
def truncate : Number → Outcome Int
  | .int i => .ok i
  | .float x =>
    match x.truncate? with
    | some i => .ok i
    | none => .error (.notFinite (x == .nan))

/-- A value as a whole number, or a stand-in. -/
def asInt (standIn : Int) (v : Value) : Outcome Int :=
  match v, v.number? with
  | _, some x => truncate x
  | .text s, none => (leadingInt? s).map (·.getD standIn)
  | _, none => .ok standIn

/-- A value as a double, or a stand-in. -/
def asDouble (standIn : Double) (v : Value) : Outcome Double :=
  match v, v.number? with
  | _, some x => Outcome.ofArithmetic x.toDouble?
  | .text s, none => .ok ((leadingDouble? s).getD standIn)
  | _, none => .ok standIn

/-- A value as a number, if it is one or spells one. Truth values are none. -/
def asNumber? (v : Value) : Option Number :=
  match v with
  | .null => none
  | .bool _ => none
  | .int i => some (.int i)
  | .float x => some (.float x)
  | v => toNumber? v.display

/-- A value as a signed whole number, if it is one or begins with one. -/
def asDelta? (v : Value) : Outcome (Option Int) :=
  match v with
  | .null => .ok none
  | .bool _ => .ok none
  | .int i => .ok (some i)
  | .float x => (truncate (.float x)).map some
  | v => leadingInt? v.display

end Gamebook.Attribute
