import Gamebook.Text.CaseTable
import Gamebook.Text.Class

/-!
Small and capital forms of a text. A letter is mapped by its case pair, with three exceptions: the
dotted capital I becomes two characters, the capital sigma depends on its neighbours, and some
small letters have a capital form of several characters.
-/

namespace Gamebook.Text

/-- The small form of one letter, taken alone. -/
def smallLetter (c : Char) : Char :=
  if c == 'İ' then 'i' else Char.ofNat (shiftBy (capitalRuns (c.toNat / 256)) c.toNat)

/-- Whether the nearest neighbour that is not passed over is a cased character. -/
def casedNeighbour : List Char → Bool
  | [] => false
  | c :: rest =>
    if inSpans c.toNat caseNeutralSpans then casedNeighbour rest else inSpans c.toNat casedSpans

/-- The small form of a letter between its neighbours; `before` runs backwards. A sigma that ends
its word takes the final form. -/
def smallAt (before : List Char) (c : Char) (after : List Char) : List Char :=
  if c == 'Σ' then [if casedNeighbour before && !casedNeighbour after then 'ς' else 'σ']
  else if c == 'İ' then ['i', '\u0307']
  else [smallLetter c]

/-- The small form of the characters that follow `before`, which runs backwards. -/
def lowerAfter (before : List Char) : List Char → List Char
  | [] => []
  | c :: rest => smallAt before c rest ++ lowerAfter (c :: before) rest

/-- The small form of a list of characters. -/
def lowerChars (cs : List Char) : List Char := lowerAfter [] cs

/-- The small form of a text. -/
def lower (s : String) : String := String.ofList (lowerChars s.toList)

/-- The capital form of one character. -/
def capitalForm (c : Char) : List Char :=
  match longCapital? c.toNat with
  | some codes => codes.map Char.ofNat
  | none => [Char.ofNat (shiftBy (smallRuns (c.toNat / 256)) c.toNat)]

/-- The capital form of a text. -/
def upper (s : String) : String := String.ofList (s.toList.flatMap capitalForm)

end Gamebook.Text
