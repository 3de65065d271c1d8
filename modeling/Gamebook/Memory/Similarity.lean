import Gamebook.Memory.Basic
import Gamebook.Text.Case
import Gamebook.Text.Basic

/-!
Similarity of memories. Two memories are compared by the words that carry meaning; a memory repeats
another if the texts agree, if their words nearly agree, or if their words are alike and so is
everything known about them.
-/

namespace Gamebook

open Text

/-- Words without meaning of their own. -/
def stopWords : List String :=
  ["và", "với", "của", "trong", "để", "cho", "từ", "có", "là", "được", "một", "này", "đó"]

/-- Whether a character is a mark of punctuation that a comparison passes over. -/
def isMark (c : Char) : Bool :=
  c == '.' || c == ',' || c == '!' || c == '?' || c == ';' || c == ':'

/-- A text in small letters, without marks, with single spaces. -/
def normalizeText (text : String) : String :=
  String.ofList (trimChars (collapseChars ((lowerChars text.toList).filter (!isMark ·))))

/-- The words of a normalized text that carry meaning. -/
def keywords (normalized : String) : List String :=
  (splitOn ' ' normalized).filter fun w => 2 < w.length && w ∉ stopWords

/-- The share of words that two lists have in common among all their words. -/
def similarity (xs ys : List String) : Double :=
  if xs.isEmpty && ys.isEmpty then .ofInt 1
  else if xs.isEmpty || ys.isEmpty then 0
  else
    let shared := (distinct xs).filter (· ∈ ys)
    .ofRatio shared.length (distinct (xs ++ ys)).length

/-- Whether at least half of the smaller list is also in the other, whatever the case. -/
def overlaps (xs ys : List String) : Bool :=
  if xs.isEmpty && ys.isEmpty then true
  else if xs.isEmpty || ys.isEmpty then false
  else
    let xs := distinct (xs.map lower)
    let ys := distinct (ys.map lower)
    let shared := xs.filter (· ∈ ys)
    min xs.length ys.length ≤ 2 * shared.length

/-- The similarity above which words alone make a repetition. -/
def repeatSimilarity : Double := .ofRatio 4 5

/-- The similarity above which words and everything else make a repetition. -/
def alikeSimilarity : Double := .ofRatio 3 5

namespace Memory

def repeats (m other : Memory) : Bool :=
  let text := normalizeText m.text
  let otherText := normalizeText other.text
  let share := similarity (keywords text) (keywords otherText)
  text == otherText || repeatSimilarity.lt share ||
    (m.category == other.category && alikeSimilarity.lt share &&
      overlaps m.related other.related && overlaps m.tagList other.tagList)

/-- Whether a memory repeats one of a list. -/
def isDuplicate (m : Memory) (existing : List Memory) : Bool := existing.any m.repeats

end Memory

/-- The memories that repeat none of those kept before them. -/
def deduplicate (memories : List Memory) : List Memory :=
  memories.foldl (fun kept m => if m.isDuplicate kept then kept else kept ++ [m]) []

end Gamebook
