/-!
Double-precision numbers with exact arithmetic. Every finite double is a whole number of units of
`2 ^ -1074`, and the finite magnitudes, in ascending order, are numbered by the codes below
`Double.limit`. So the order of magnitudes is the order of codes, and each operation computes its
exact result in units and takes the nearest code.
-/

namespace Gamebook

/-- The units of one: one is `2 ^ 1074` units. -/
def unitsPerOne : Nat := 1 <<< 1074

/-- The codes of one binade: `2 ^ 52`, for a double has that many bits behind its first. -/
def Double.binade : Nat := 0x10000000000000

def Double.limit : Nat := 2047 * binade

/-- A double-precision number. -/
inductive Double where
  | nan
  | infinite (negative : Bool)
  | finite (negative : Bool) (code : Nat) (below : code < Double.limit)
  deriving DecidableEq

namespace Double

/-- The magnitude of a code, in units. -/
def units (code : Nat) : Nat :=
  if code < binade then code else (binade + code % binade) <<< (code / binade - 1)

/-- The whole number nearest to a quotient; a half goes to the even neighbour. -/
def roundQuotient (num den : Nat) : Nat :=
  let floor := num / den
  let twice := 2 * (num % den)
  if twice < den then floor
  else if den < twice then floor + 1
  else if floor % 2 = 0 then floor else floor + 1

/-- The number of low bits that a magnitude of so many units cannot keep. -/
def spareBits (magnitude : Nat) : Nat := magnitude.log2 - 52

/-- The code of the double nearest to a quotient of units; a half goes to the even code. Codes
from `limit` on stand for overflow. -/
def nearestCode (num den : Nat) : Nat :=
  let spare := spareBits (num / den)
  spare * binade + roundQuotient num (den <<< spare)

/-- The double nearest to a quotient of units. -/
def ofQuotient (negative : Bool) (num den : Nat) : Double :=
  let code := nearestCode num den
  if below : code < limit then .finite negative code below else .infinite negative

def signedZero (negative : Bool) : Double := .finite negative 0 (by decide)

instance : OfNat Double 0 := ⟨signedZero false⟩

instance : Inhabited Double := ⟨0⟩

/-- The double nearest to the quotient of two whole numbers. -/
def ofRatio (num : Int) (den : Nat) : Double :=
  ofQuotient (num < 0) (num.natAbs * unitsPerOne) den

/-- The double nearest to a whole number. -/
def ofInt (i : Int) : Double := ofRatio i 1

/-- Whether neither the magnitude nor the sign is lost. -/
def isFinite : Double → Bool
  | .finite .. => true
  | _ => false

/-- Whether it is a zero of either sign. -/
def isZero : Double → Bool
  | .finite _ code _ => code == 0
  | _ => false

/-- The value of a finite double, in units. -/
def signedUnits (negative : Bool) (code : Nat) : Int :=
  if negative then -(units code : Int) else units code

/-- The double with the opposite sign. -/
def neg : Double → Double
  | .nan => .nan
  | .infinite s => .infinite !s
  | .finite s code below => .finite (!s) code below

def abs : Double → Double
  | .nan => .nan
  | .infinite _ => .infinite false
  | .finite _ code below => .finite false code below

/-- The nearest double to the sum. -/
def add : Double → Double → Double
  | .nan, _ => .nan
  | _, .nan => .nan
  | .infinite s, .infinite t => if s = t then .infinite s else .nan
  | .infinite s, _ => .infinite s
  | _, .infinite t => .infinite t
  | .finite s a _, .finite t b _ =>
    let sum := signedUnits s a + signedUnits t b
    if sum = 0 then signedZero (s && t) else ofQuotient (sum < 0) sum.natAbs 1

/-- The nearest double to the difference. -/
def sub (x y : Double) : Double := add x (neg y)

/-- The nearest double to the product. -/
def mul : Double → Double → Double
  | .nan, _ => .nan
  | _, .nan => .nan
  | .infinite s, .infinite t => .infinite (s != t)
  | .infinite s, .finite t b _ => if b = 0 then .nan else .infinite (s != t)
  | .finite s a _, .infinite t => if a = 0 then .nan else .infinite (s != t)
  | .finite s a _, .finite t b _ => ofQuotient (s != t) (units a * units b) unitsPerOne

/-- The nearest double to the quotient by a number other than zero. -/
def div : Double → Double → Double
  | .nan, _ => .nan
  | _, .nan => .nan
  | .infinite _, .infinite _ => .nan
  | .infinite s, .finite t _ _ => .infinite (s != t)
  | .finite s _ _, .infinite t => signedZero (s != t)
  | .finite s a _, .finite t b _ => ofQuotient (s != t) (units a * unitsPerOne) (units b)

/-- The code with its sign: an order key on finite doubles. -/
def rank (negative : Bool) (code : Nat) : Int := if negative then -(code : Int) else code

/-- Whether the first number is below the second; nothing compares with a `nan`. -/
def lt : Double → Double → Bool
  | .nan, _ => false
  | _, .nan => false
  | .infinite s, .infinite t => s && !t
  | .infinite s, .finite .. => s
  | .finite .., .infinite t => !t
  | .finite s a _, .finite t b _ => rank s a < rank t b

/-- Whether the two numbers have one value; the two zeros do. -/
def same : Double → Double → Bool
  | .infinite s, .infinite t => s == t
  | .finite s a _, .finite t b _ => rank s a == rank t b
  | _, _ => false

/-- Whether the first number is at most the second. -/
def le (x y : Double) : Bool := lt x y || same x y

instance : Add Double := ⟨add⟩
instance : Sub Double := ⟨sub⟩
instance : Mul Double := ⟨mul⟩
instance : Neg Double := ⟨neg⟩

/-- The whole part of a finite double. -/
def truncate? : Double → Option Int
  | .finite s code _ =>
    let whole : Int := (units code / unitsPerOne : Nat)
    some (if s then -whole else whole)
  | _ => none

/-- The whole number that a finite double stands for exactly. -/
def exactInt? : Double → Option Int
  | .finite s code below =>
    if units code % unitsPerOne = 0 then truncate? (.finite s code below) else none
  | _ => none

/-- The least whole number that is not below a double; zero for one that is not finite. -/
def ceiling : Double → Int
  | .finite s code _ => -((-(signedUnits s code)) / (unitsPerOne : Int))
  | _ => 0

end Double

end Gamebook
