import Gamebook.Text.Basic

/-!
Scanning for occurrences. A matcher looks at the front of a text and says how long an occurrence
is there; it never says zero. Occurrences are taken from left to right, and the scan goes on behind
each of them.
-/

namespace Gamebook.Text

/-- The occurrences in a text, after the next `skip` characters. -/
def findFrom {α : Type} (matchAt : List Char → Option (α × Nat)) : Nat → List Char → List α
  | _, [] => []
  | skip + 1, _ :: rest => findFrom matchAt skip rest
  | 0, c :: rest =>
    match matchAt (c :: rest) with
    | some (a, n) => a :: findFrom matchAt (n - 1) rest
    | none => findFrom matchAt 0 rest

/-- The occurrences in a text, from left to right. -/
def findAll {α : Type} (matchAt : List Char → Option (α × Nat)) (cs : List Char) : List α :=
  findFrom matchAt 0 cs

/-- A text with every occurrence replaced, after the next `skip` characters are dropped. -/
def replaceFrom (lengthAt : List Char → Option Nat) (replacement : List Char) :
    Nat → List Char → List Char
  | _, [] => []
  | skip + 1, _ :: rest => replaceFrom lengthAt replacement skip rest
  | 0, c :: rest =>
    match lengthAt (c :: rest) with
    | some n => replacement ++ replaceFrom lengthAt replacement (n - 1) rest
    | none => c :: replaceFrom lengthAt replacement 0 rest

/-- A text with every occurrence replaced. -/
def replaceAll (lengthAt : List Char → Option Nat) (replacement cs : List Char) : List Char :=
  replaceFrom lengthAt replacement 0 cs

/-- The number of leading characters in a class. -/
def runLength (inClass : Char → Bool) : List Char → Nat
  | [] => 0
  | c :: rest => if inClass c then runLength inClass rest + 1 else 0

/-- The length of a match together with the blanks on both sides of it. -/
def withBlanks (lengthAt : List Char → Option Nat) (cs : List Char) : Option Nat :=
  let before := runLength isBlank cs
  (lengthAt (cs.drop before)).map fun n => before + n + runLength isBlank (cs.drop (before + n))

/-!
### Phrases

The phrases of a group are tried at each place in order; the first that fits is taken whole.
-/

/-- The length of the first phrase that the characters begin with. -/
def phraseAt? (phrases : List String) (cs : List Char) : Option Nat :=
  (phrases.find? (opensWith ·.toList cs)).map String.length

/-- How often the phrases of a group occur in a text, without overlap. -/
def countPhrases (phrases : List String) (text : String) : Nat :=
  (findAll (fun cs => (phraseAt? phrases cs).map fun n => ((), n)) text.toList).length

end Gamebook.Text
