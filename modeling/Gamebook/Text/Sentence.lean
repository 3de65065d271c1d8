import Gamebook.Text.Fold
import Gamebook.Text.Scan

/-!
Sentences and what is told in them. A sentence ends at full stops, exclamation and question marks. A
telling is a phrase, in any case, with a space and the rest of its sentence.
-/

namespace Gamebook.Text

/-- Whether a character ends a sentence. -/
def endsSentence (c : Char) : Bool := c == '.' || c == '!' || c == '?'

/-- The sentences of a text. A run of end marks at either end leaves an empty sentence there. -/
def sentences (text : String) : List String :=
  (splitRuns endsSentence text.toList).map String.ofList

/-- The length of a telling with the given phrase at the front of a text. -/
def tellingLength (cs phrase : List Char) : Option Nat :=
  match afterOpeningFold? phrase cs with
  | some (' ' :: rest) =>
    let body := runLength (!endsSentence ·) rest
    if body = 0 then none else some (phrase.length + 1 + body)
  | _ => none

/-- The telling at the front of a text under the first phrase that gives one. -/
def tellingAt (phrases : List (List Char)) (cs : List Char) : Option (String × Nat) :=
  (phrases.findSome? (tellingLength cs)).map fun n => (String.ofList (cs.take n), n)

/-- The tellings of a text under a group of phrases. -/
def tellings (phrases : List String) (text : String) : List String :=
  findAll (tellingAt (phrases.map String.toList)) text.toList

end Gamebook.Text
