import Gamebook.Json.Quote
import Gamebook.Number.Numeral
import Gamebook.Value

/-!
Reading structured text. The reader takes one value with white space around it and nothing else; of
two fields with one name the later value counts, at the place of the earlier. Beside malformed text
there is one further fault: a whole number with too many digits.
-/

namespace Gamebook.Json

open Gamebook.Numeral

/-- White space between the parts of a structured text. -/
def isSpace (c : Char) : Bool := c == ' ' || c == '\n' || c == '\r' || c == '\t'

/-- A text without the white space in front. -/
def skipSpace (cs : List Char) : List Char := cs.dropWhile isSpace

def isPlainDigit (c : Char) : Bool := '0' ≤ c && c ≤ '9'

/-- The digits in front of a text and the rest. -/
def spanDigits (cs : List Char) : List Char × List Char := cs.span isPlainDigit

def digitsValue (ds : List Char) : Nat := valueOf (ds.map fun c => c.toNat - 48)

/-- The digits behind a point, if there are any, and the rest. -/
def readFraction : List Char → List Char × List Char
  | '.' :: rest =>
    match spanDigits rest with
    | ([], _) => ([], '.' :: rest)
    | read => read
  | cs => ([], cs)

/-- The exponent, if there is one, and the rest. -/
def readExponent : List Char → Option Int × List Char
  | e :: rest =>
    if e == 'e' || e == 'E' then
      let (negative, body) := splitSign rest
      match spanDigits body with
      | ([], _) => (none, e :: rest)
      | (ds, after) => (some (signedInt negative (digitsValue ds)), after)
    else (none, e :: rest)
  | [] => (none, [])

/-- The digits of a whole part: a lone zero, or digits that do not begin with zero. -/
def readWhole : List Char → List Char × List Char
  | '0' :: rest => (['0'], rest)
  | cs => spanDigits cs

/-- A number with the given sign and the rest. -/
def readNumber (negative : Bool) (cs : List Char) : Except Fault (Value × List Char) :=
  match readWhole cs with
  | ([], _) => .error .malformed
  | (whole, afterWhole) =>
    let (fraction, afterFraction) := readFraction afterWhole
    let (exponent, rest) := readExponent afterFraction
    if fraction.isEmpty && exponent.isNone then
      if maxDigits < whole.length then .error (.tooLong whole.length)
      else .ok (.int (signedInt negative (digitsValue whole)), rest)
    else
      let d : Double.Decimal :=
        ⟨digitsValue (whole ++ fraction), exponent.getD 0 - fraction.length⟩
      .ok (.float (Double.ofDecimal negative d), rest)

/-- What follows a word, if the text begins with it. -/
def afterWord? (word : String) (cs : List Char) : Option (List Char) :=
  if word.toList.isPrefixOf cs then some (cs.drop word.length) else none

/-- The words that stand for values. -/
def wordValues : List (String × Value) :=
  [("null", .null), ("true", .bool true), ("false", .bool false), ("NaN", .float .nan),
    ("Infinity", .float (.infinite false)), ("-Infinity", .float (.infinite true))]

/-- The first of some words that a text begins with, as a value, and the rest. -/
def readWord (cs : List Char) : List (String × Value) → Option (Value × List Char)
  | [] => none
  | (word, v) :: others =>
    match afterWord? word cs with
    | some rest => some (v, rest)
    | none => readWord cs others

/-- A value that is neither a list nor an object, and the rest. -/
def readScalar (cs : List Char) : Except Fault (Value × List Char) :=
  match cs with
  | '"' :: rest =>
    match unquote rest with
    | some (s, after) => .ok (.text (String.ofList s), after)
    | none => .error .malformed
  | _ =>
    match readWord cs wordValues with
    | some read => .ok read
    | none =>
      match cs with
      | '-' :: rest => readNumber true rest
      | _ => readNumber false cs

/-- A key with its colon, up to the value. -/
def readKey (cs : List Char) : Except Fault (String × List Char) :=
  match skipSpace cs with
  | '"' :: rest =>
    match unquote rest with
    | some (key, after) =>
      match skipSpace after with
      | ':' :: value => .ok (String.ofList key, skipSpace value)
      | _ => .error .malformed
    | none => .error .malformed
  | _ => .error .malformed

mutual

/-- Reads a value at the front of a text. The first argument bounds the nesting and the number of
elements; the length of the text is always enough. -/
def readValue : Nat → List Char → Except Fault (Value × List Char)
  | 0, _ => .error .malformed
  | bound + 1, '[' :: rest =>
    match skipSpace rest with
    | ']' :: after => .ok (.list [], after)
    | items => do
      let (vs, after) ← readItems bound items
      return (.list vs, after)
  | bound + 1, '\x7b' :: rest =>
    match skipSpace rest with
    | '\x7d' :: after => .ok (.object [], after)
    | members => do
      let (fields, after) ← readMembers bound members
      return (.object (Keyed.ofPairs fields), after)
  | _ + 1, cs => readScalar cs

/-- Reads the elements of a list up to its end. -/
def readItems : Nat → List Char → Except Fault (List Value × List Char)
  | 0, _ => .error .malformed
  | bound + 1, cs => do
    let (v, after) ← readValue bound cs
    match skipSpace after with
    | ']' :: rest => return ([v], rest)
    | ',' :: rest => do
      let (vs, rest) ← readItems bound (skipSpace rest)
      return (v :: vs, rest)
    | _ => .error .malformed

/-- Reads the fields of an object up to its end. -/
def readMembers : Nat → List Char → Except Fault (List (String × Value) × List Char)
  | 0, _ => .error .malformed
  | bound + 1, cs => do
    let (key, body) ← readKey cs
    let (v, after) ← readValue bound body
    match skipSpace after with
    | '\x7d' :: rest => return ([(key, v)], rest)
    | ',' :: rest => do
      let (fields, rest) ← readMembers bound (skipSpace rest)
      return ((key, v) :: fields, rest)
    | _ => .error .malformed

end

/-- Reads a text that is one value. -/
def read (s : String) : Except Fault Value :=
  let cs := skipSpace s.toList
  match readValue (cs.length + 1) cs with
  | .error fault => .error fault
  | .ok (v, rest) => if (skipSpace rest).isEmpty then .ok v else .error .malformed

end Gamebook.Json
