import Gamebook.Number.Decimal

/-!
Amounts: whole numbers of any size or doubles. Two whole numbers are added exactly; as soon as a
double takes part, the whole number is converted first, which fails for one beyond the range of
doubles. Comparisons never convert and are always exact.
-/

namespace Gamebook

/-- An amount as rules and records state it. -/
inductive Number where
  | int (value : Int)
  | float (value : Double)
  deriving DecidableEq

namespace Number

instance : Inhabited Number := ⟨.int 0⟩

/-- The nearest double, if the amount lies in the range of doubles. -/
def toDouble? : Number → Option Double
  | .float x => some x
  | .int i => let x := Double.ofInt i; if x.isFinite then some x else none

/-- Combines two amounts, exactly if both are whole. -/
def combine (whole : Int → Int → Int) (float : Double → Double → Double) :
    Number → Number → Option Number
  | .int i, .int j => some (.int (whole i j))
  | x, y => do
    let a ← x.toDouble?
    let b ← y.toDouble?
    return .float (float a b)

/-- The sum; it is absent when a whole number is too large for a double. -/
def add? : Number → Number → Option Number := combine (· + ·) Double.add

/-- The difference; it is absent when a whole number is too large for a double. -/
def sub? : Number → Number → Option Number := combine (· - ·) Double.sub

/-- Whether the first amount is below the second. -/
def lt : Number → Number → Bool
  | .int i, .int j => i < j
  | .float x, .float y => x.lt y
  | .int i, .float (.finite s c _) => i * unitsPerOne < Double.signedUnits s c
  | .float (.finite s c _), .int j => Double.signedUnits s c < j * unitsPerOne
  | .int _, .float (.infinite s) => !s
  | .float (.infinite s), .int _ => s
  | _, _ => false

/-- Whether the two amounts have one value. -/
def same : Number → Number → Bool
  | .int i, .int j => i == j
  | .float x, .float y => x.same y
  | .int i, .float (.finite s c _) => i * unitsPerOne == Double.signedUnits s c
  | .float (.finite s c _), .int j => Double.signedUnits s c == j * unitsPerOne
  | _, _ => false

/-- Whether the first amount is at most the second. -/
def le (x y : Number) : Bool := x.lt y || x.same y

def isZero : Number → Bool
  | .int i => i == 0
  | .float x => x.isZero

/-- The amount, unless it is absent or zero. -/
def nonzero? : Option Number → Option Number
  | some x => if x.isZero then none else some x
  | none => none

/-- The greater of two amounts; of equal ones the first. -/
def max (x y : Number) : Number := if x.lt y then y else x

/-- The lesser of two amounts; of equal ones the first. -/
def min (x y : Number) : Number := if y.lt x then y else x

/-- The whole part, if the amount is finite. -/
def truncate? : Number → Option Int
  | .int i => some i
  | .float x => x.truncate?

/-- The notation of an amount: a double always shows a point or an exponent. -/
def text : Number → String
  | .int i => toString i
  | .float x => x.text

end Number

end Gamebook
