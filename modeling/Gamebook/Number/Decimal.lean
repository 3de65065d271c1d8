import Gamebook.Number.Double

/-!
Decimal notation of doubles. The shortest notation has the fewest digits that read back to the same
double and, among those, stands nearest to it; for each number of digits only the two neighbours on
the decimal grid have to be tried. The layout is positional for magnitudes from `10 ^ -4` to below
`10 ^ 16` and scientific outside, always with a point or an exponent.
-/

namespace Gamebook

namespace Double

/-- A decimal: `digits` times ten to the power of `exponent`. -/
structure Decimal where
  digits : Nat
  exponent : Int

/-- Ten to a power without its sign. -/
def tenTo (power : Int) : Nat := Nat.pow 10 power.natAbs

/-- The quotient of units that a decimal stands for. -/
def Decimal.quotient (d : Decimal) : Nat × Nat :=
  if d.exponent < 0 then (d.digits * unitsPerOne, tenTo d.exponent)
  else (d.digits * tenTo d.exponent * unitsPerOne, 1)

/-- Whether a decimal reads back as the double with the given code. -/
def Decimal.reads (d : Decimal) (code : Nat) : Bool :=
  let (num, den) := d.quotient
  nearestCode num den == code

/-- Whether ten to the given power is at most a magnitude. -/
def powerFits (magnitude : Nat) (power : Int) : Bool :=
  if power < 0 then unitsPerOne ≤ magnitude * tenTo power
  else tenTo power * unitsPerOne ≤ magnitude

/-- The greatest power of ten that is at most a magnitude of at least one unit. The first guess
comes from the number of bits and is short by one at most. -/
def decimalPower (magnitude : Nat) : Int :=
  let guess := ((magnitude.log2 : Int) - 1074) * 30103 / 100000
  if powerFits magnitude (guess + 1) then guess + 1
  else if powerFits magnitude guess then guess else guess - 1

/-- The neighbours of a magnitude on the grid of the given power of ten, nearer one first. -/
def gridNeighbours (magnitude : Nat) (power : Int) : List Decimal :=
  let num := if power < 0 then magnitude * tenTo power else magnitude
  let den := if power < 0 then unitsPerOne else unitsPerOne * tenTo power
  let floor := num / den
  let twice := 2 * (num % den)
  if twice < den || (twice == den && floor % 2 == 0) then [⟨floor, power⟩, ⟨floor + 1, power⟩]
  else [⟨floor + 1, power⟩, ⟨floor, power⟩]

/-- The first decimal that reads back, with `count` digits and then with more. -/
def shortestFrom (code : Nat) (top : Int) : Nat → Nat → Decimal
  | 0, _ => ⟨0, 0⟩
  | fuel + 1, count =>
    match (gridNeighbours (units code) (top - count + 1)).find? (·.reads code) with
    | some d => d
    | none => shortestFrom code top fuel (count + 1)

/-- The shortest decimal that reads back; seventeen digits always do. -/
def shortest (code : Nat) : Decimal :=
  if code = 0 then ⟨0, 0⟩ else shortestFrom code (decimalPower (units code)) 18 1

/-- The digits of a natural number. -/
def digitChars (n : Nat) : List Char := Nat.toDigits 10 n

/-- Digits without the zeros at their end; a lone zero stays. -/
def stripZeros (ds : List Char) : List Char :=
  match (ds.reverse.dropWhile (· == '0')).reverse with
  | [] => ['0']
  | kept => kept

/-- A digit text padded with zeros in front. -/
def padZeros (width : Nat) (ds : List Char) : List Char :=
  List.replicate (width - ds.length) '0' ++ ds

/-- The exponent part of scientific notation: a sign and two digits at least. -/
def exponentChars (e : Int) : List Char :=
  ['e', if e < 0 then '-' else '+'] ++ padZeros 2 (digitChars e.natAbs)

/-- Significant digits with the point after the first `point` of them. -/
def layout (ds : List Char) (point : Int) : List Char :=
  if point ≤ -4 || 16 < point then
    match ds with
    | [] => []
    | [d] => d :: exponentChars (point - 1)
    | d :: rest => d :: '.' :: rest ++ exponentChars (point - 1)
  else if point ≤ 0 then
    ['0', '.'] ++ List.replicate point.natAbs '0' ++ ds
  else
    let whole := point.natAbs
    if ds.length ≤ whole then ds ++ List.replicate (whole - ds.length) '0' ++ ['.', '0']
    else ds.take whole ++ '.' :: ds.drop whole

/-- The shortest notation of a finite magnitude. -/
def magnitudeChars (code : Nat) : List Char :=
  if code = 0 then ['0', '.', '0']
  else
    let d := shortest code
    let ds := digitChars d.digits
    layout (stripZeros ds) (ds.length + d.exponent)

/-- The shortest notation of a double. -/
def chars : Double → List Char
  | .nan => ['n', 'a', 'n']
  | .infinite s => (if s then ['-'] else []) ++ ['i', 'n', 'f']
  | .finite s code _ => (if s then ['-'] else []) ++ magnitudeChars code

/-- The shortest notation of a double. -/
def text (x : Double) : String := String.ofList x.chars

/-- A double with one digit after the point; a half goes to the even neighbour. -/
def oneDecimal : Double → String
  | .finite s code _ =>
    let tenths := roundQuotient (units code * 10) unitsPerOne
    let body := digitChars (tenths / 10) ++ '.' :: digitChars (tenths % 10)
    String.ofList (if s then '-' :: body else body)
  | x => x.text

/-- The double nearest to a decimal. Magnitudes far outside the range are settled by their
number of digits. -/
def ofDecimal (negative : Bool) (d : Decimal) : Double :=
  if d.digits = 0 then signedZero negative
  else
    let size := (digitChars d.digits).length + d.exponent
    if 310 < size then .infinite negative
    else if size < -326 then signedZero negative
    else
      let (num, den) := d.quotient
      ofQuotient negative num den

end Double

end Gamebook
