import Gamebook.Number.Decimal
import Gamebook.Text.Basic
import Gamebook.Text.Class

/-!
Reading numbers. A numeral may have a sign and white space around it; its digits may come from any
script and be grouped by single underscores. A whole numeral of more than `maxDigits` digits is
refused for its length, which is a fault of its own kind.
-/

namespace Gamebook.Numeral

open Gamebook.Text

/-- The longest whole numeral that is read, in digits. -/
def maxDigits : Nat := 4300

/-- Why a whole numeral is refused. -/
inductive Fault where
  | malformed
  | tooLong (digits : Nat)
  deriving DecidableEq

def valueOf (digits : List Nat) : Nat := digits.foldl (fun n d => 10 * n + d) 0

/-- Reads digits as far as they go; an underscore is passed over between two digits. -/
def digitsFrom (afterDigit : Bool) : List Char → List Nat × List Char
  | [] => ([], [])
  | c :: rest =>
    match digitValue? c with
    | some d =>
      let (ds, after) := digitsFrom true rest
      (d :: ds, after)
    | none =>
      if c == '_' && afterDigit && (rest.head?.any isDigit) then digitsFrom false rest
      else ([], c :: rest)

/-- The digits that a text begins with, grouped or not, and the rest. -/
def leadingDigits (cs : List Char) : List Nat × List Char := digitsFrom false cs

/-- The sign in front of a numeral and what follows it. -/
def splitSign : List Char → Bool × List Char
  | '-' :: rest => (true, rest)
  | '+' :: rest => (false, rest)
  | cs => (false, cs)

/-- A whole number from its sign and digits. -/
def signedInt (negative : Bool) (n : Nat) : Int := if negative then -(n : Int) else n

/-- Reads a whole numeral without blanks. -/
def bareInt (cs : List Char) : Except Fault Int :=
  let (negative, body) := splitSign cs
  match leadingDigits body with
  | (d :: ds, []) =>
    if maxDigits < ds.length + 1 then .error (.tooLong (ds.length + 1))
    else .ok (signedInt negative (valueOf (d :: ds)))
  | _ => .error .malformed

/-- Reads a whole numeral with white space around it. -/
def int (s : String) : Except Fault Int := bareInt (trimWhiteSpace s.toList)

/-- The exponent part of a decimal numeral; absent, it is zero. -/
def exponent? : List Char → Option Int
  | [] => some 0
  | e :: rest =>
    if e == 'e' || e == 'E' then
      let (negative, body) := splitSign rest
      match leadingDigits body with
      | ([], _) => none
      | (ds, []) => some (signedInt negative (valueOf ds))
      | _ => none
    else none

/-- A decimal from the digits before and after the point and an exponent. -/
def decimal (whole fraction : List Nat) (exponent : Int) : Double.Decimal :=
  ⟨valueOf (whole ++ fraction), exponent - fraction.length⟩

/-- The words for numbers that are not finite. -/
def namedMagnitude? (cs : List Char) : Option Double :=
  match String.ofList (cs.map Char.toLower) with
  | "inf" => some (.infinite false)
  | "infinity" => some (.infinite false)
  | "nan" => some .nan
  | _ => none

def decimal? (cs : List Char) : Option Double.Decimal :=
  let (whole, afterWhole) := leadingDigits cs
  let (fraction, rest) :=
    match afterWhole with
    | '.' :: more => leadingDigits more
    | _ => ([], afterWhole)
  if whole.isEmpty && fraction.isEmpty then none
  else (exponent? rest).map (decimal whole fraction)

/-- Reads a decimal numeral without blanks. -/
def bareDouble? (cs : List Char) : Option Double :=
  let (negative, body) := splitSign cs
  match namedMagnitude? body with
  | some x => some (if negative then x.neg else x)
  | none => (decimal? body).map (Double.ofDecimal negative)

/-- Reads a decimal numeral with white space around it. -/
def double? (s : String) : Option Double := bareDouble? (trimWhiteSpace s.toList)

end Gamebook.Numeral
