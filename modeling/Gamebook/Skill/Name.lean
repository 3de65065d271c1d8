import Gamebook.Text.Case
import Gamebook.Text.Class
import Gamebook.Text.Scan

/-!
Names of skills. A name may tell the mastery of the skill; without these words it is the base name,
which all masteries of one skill share. The mastery words also give the name its rank.
-/

namespace Gamebook.Skill

open Text

/-- Names that stand for no skill at all. -/
def placeholders : List String :=
  ["chưa có", "chua co", "none", "n/a", "không có", "khong co", "", "null", "undefined"]

/-- Whether a name stands for no skill at all. -/
def isPlaceholder (name : String) : Bool := lower (trim name) ∈ placeholders

/-- The length of a remark in round brackets. -/
def bracketLength : List Char → Option Nat
  | '(' :: rest =>
    let inner := runLength (· != ')') rest
    if (rest.drop inner).isEmpty then none else some (inner + 2)
  | _ => none

def masteryWords : List String :=
  ["viên mãn", "đại thành", "tối cao", "cao cấp", "nâng cao", "trung cấp", "sơ cấp", "cơ bản"]

/-- The length of a numbered level. -/
def levelLength (cs : List Char) : Option Nat :=
  match afterOpening? "cấp độ ".toList cs with
  | none => none
  | some rest =>
    let digits := runLength isDigit rest
    if digits = 0 then none else some (7 + digits)

/-- The length of a mastery word or a numbered level. -/
def masteryLength (cs : List Char) : Option Nat :=
  (phraseAt? masteryWords cs).orElse fun _ => levelLength cs

/-- Drops a colon with everything behind it and the blanks in front of it. -/
def dropAfterColon (cs : List Char) : List Char :=
  if cs.contains ':' then trimEndChars (cs.takeWhile (· != ':')) else cs

/-- The characters of a base name. -/
def baseChars (name : List Char) : List Char :=
  let plain := trimChars (collapseChars (lowerChars name))
  let unbracketed := replaceAll (withBlanks bracketLength) [' '] plain
  let unmastered := replaceAll (withBlanks masteryLength) [' '] unbracketed
  trimChars (collapseChars (dropAfterColon unmastered))

/-- The name without mastery, remarks and what follows a colon. -/
def baseName (name : String) : String := String.ofList (baseChars name.toList)

/-- The rank that mastery words give; the first group with a word in the name counts. -/
def rankWords : List (List String × Nat) :=
  [(["viên mãn"], 5), (["đại thành"], 4), (["cao cấp", "nâng cao"], 3), (["trung cấp"], 2),
    (["sơ cấp", "cơ bản"], 1), (["tối cao"], 4)]

/-- The rank of a name; zero if it tells no mastery. -/
def rank (name : String) : Nat :=
  let lowered := lower name
  match rankWords.find? fun group => occursAny group.1 lowered with
  | some group => group.2
  | none => 0

/-- Whether two names differ at most in case and outer blanks. -/
def sameName (a b : String) : Bool := lower (trim a) == lower (trim b)

end Gamebook.Skill
