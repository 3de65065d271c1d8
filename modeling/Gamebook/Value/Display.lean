import Gamebook.Text.Printable
import Gamebook.Value

/-!
The plain display of a value, as shown to a reader: a text is shown as it is, but quoted inside a
list or an object. Single quotes are used unless the text holds one and no double quote.
-/

namespace Gamebook.Value

/-- The low hexadecimal digits of a code. -/
def hexDigits (width code : Nat) : List Char :=
  Double.padZeros width (Nat.toDigits 16 code)

/-- One character inside the given quotes. -/
def displayChar (quote c : Char) : List Char :=
  let n := c.toNat
  if c == quote || c == '\\' then ['\\', c]
  else if c == '\n' then ['\\', 'n']
  else if c == '\r' then ['\\', 'r']
  else if c == '\t' then ['\\', 't']
  else if Text.isPrintable c then [c]
  else if n < 0x100 then '\\' :: 'x' :: hexDigits 2 n
  else if n < 0x10000 then '\\' :: 'u' :: hexDigits 4 n
  else '\\' :: 'U' :: hexDigits 8 n

def displayQuoted (s : String) : List Char :=
  let cs := s.toList
  let quote := if cs.contains '\'' && !cs.contains '"' then '"' else '\''
  quote :: (cs.flatMap (displayChar quote) ++ [quote])

mutual

/-- A value as it stands inside another. -/
def displayInner : Value → List Char
  | .null => "None".toList
  | .bool true => "True".toList
  | .bool false => "False".toList
  | .int i => (toString i).toList
  | .float x => x.chars
  | .text s => displayQuoted s
  | .list [] => ['[', ']']
  | .list (v :: rest) => '[' :: (displayInner v ++ displayItems rest)
  | .object [] => ['\x7b', '\x7d']
  | .object ((k, v) :: rest) =>
    '\x7b' :: (displayQuoted k ++ ':' :: ' ' :: (displayInner v ++ displayFields rest))
  | .objective o =>
    "description=".toList ++ displayQuoted o.description ++
      (if o.completed then " completed=True" else " completed=False").toList

/-- The later elements of a list, with its end. -/
def displayItems : List Value → List Char
  | [] => [']']
  | v :: rest => ',' :: ' ' :: (displayInner v ++ displayItems rest)

/-- The later fields of an object, with its end. -/
def displayFields : List (String × Value) → List Char
  | [] => ['\x7d']
  | (k, v) :: rest =>
    ',' :: ' ' :: (displayQuoted k ++ ':' :: ' ' :: (displayInner v ++ displayFields rest))

end

/-- A value as it is shown by itself. -/
def display : Value → String
  | .text s => s
  | v => String.ofList v.displayInner

end Gamebook.Value
