import Gamebook.Text.Case
import Gamebook.Text.FoldTable

/-!
Comparison without regard to case. Two characters agree if they have the same small form or if
their small forms share a capital.
-/

namespace Gamebook.Text

/-- The small forms that stand for a character when case is ignored. -/
def foldForms (c : Char) : List Char :=
  let small := smallLetter c
  small :: (siblings small.toNat).map Char.ofNat

/-- Whether two characters agree when case is ignored. -/
def sameLetter (a b : Char) : Bool := (foldForms a).contains (smallLetter b)

/-- What follows an opening, if the characters begin with it when case is ignored. -/
def afterOpeningFold? : List Char → List Char → Option (List Char)
  | [], cs => some cs
  | _ :: _, [] => none
  | o :: os, c :: cs => if sameLetter o c then afterOpeningFold? os cs else none

/-- The characters other than `small` itself whose small form is `small`. -/
def capitalsOf (small : Char) : List Char :=
  let code : Int := small.toNat
  let dotted := if small == 'i' then ['İ'] else []
  dotted ++ capitalBlocks.flatMap fun block =>
    (capitalRuns block).filterMap fun run =>
      let source := (code - run.shift).toNat
      if run.shift ≤ code && run.holds source then some (Char.ofNat source) else none

/-- Every character that agrees with `c` when case is ignored. -/
def variants (c : Char) : List Char :=
  (foldForms c).flatMap fun small => small :: capitalsOf small

end Gamebook.Text
