import Gamebook.Tag.Kind
import Gamebook.Text.Scan

/-!
The grammar of tags. A tag is a name in capitals, a colon and a body in square brackets; the body
holds no closing bracket. Tags are found from left to right and do not overlap. What the narrator
thinks aloud stands in a block of its own, which is cut out as a whole.
-/

namespace Gamebook

open Text

/-- A tag as it is written, with its name and its body. -/
structure Tag where
  raw : String
  name : String
  body : String
  deriving DecidableEq, Inhabited

namespace Tag

/-- The kind of a tag, if its name is known. -/
def kind? (t : Tag) : Option TagKind := TagKind.ofName? t.name

/-- Whether a character may stand in the name of a tag. -/
def isNameChar (c : Char) : Bool := ('A' ≤ c && c ≤ 'Z') || c == '_'

/-- The body that stands between the colon and the closing bracket: what is there without the
blanks in front, or the last blank if there is nothing else. -/
def bodyOf (segment : List Char) : List Char :=
  match segment.dropWhile isBlank with
  | [] => segment.drop (segment.length - 1)
  | body => body

/-- The name and the segment of a tag at the front of a text. -/
def partsAt? : List Char → Option (List Char × List Char)
  | '[' :: rest =>
    let name := rest.takeWhile isNameChar
    match rest.dropWhile isNameChar with
    | ':' :: more =>
      let segment := more.takeWhile (· != ']')
      if name.isEmpty || segment.isEmpty || (more.dropWhile (· != ']')).isEmpty then none
      else some (name, segment)
    | _ => none
  | _ => none

/-- The length of a tag with the given parts. -/
def lengthOf (name segment : List Char) : Nat := name.length + segment.length + 3

/-- The tag at the front of a text, with its length. -/
def at? (cs : List Char) : Option (Tag × Nat) :=
  (partsAt? cs).map fun (name, segment) =>
    let length := lengthOf name segment
    (⟨String.ofList (cs.take length), String.ofList name, String.ofList (bodyOf segment)⟩, length)

/-- The length of the tag at the front of a text. -/
def lengthAt? (cs : List Char) : Option Nat :=
  (partsAt? cs).map fun (name, segment) => lengthOf name segment

/-- The tags of a text, in order. -/
def find (text : String) : List Tag := findAll at? text.toList

def strip (text : String) : String := String.ofList (replaceAll lengthAt? [] text.toList)

end Tag

/-- What stands before and behind the first occurrence of a mark. -/
def cutAt? (mark : List Char) : List Char → Option (List Char × List Char)
  | [] => if mark.isEmpty then some ([], []) else none
  | c :: rest =>
    match afterOpening? mark (c :: rest) with
    | some behind => some ([], behind)
    | none => (cutAt? mark rest).map fun (before, behind) => (c :: before, behind)

namespace Reasoning

/-- The mark that opens the narrator's reasoning. -/
def opening : String := "[COT_REASONING]"

/-- The mark that closes the narrator's reasoning. -/
def closing : String := "[/COT_REASONING]"

/-- A text without its first block of reasoning and the blanks behind it, and that reasoning. -/
def split (text : String) : String × Option String :=
  match cutAt? opening.toList text.toList with
  | none => (text, none)
  | some (before, more) =>
    match cutAt? closing.toList more with
    | none => (text, none)
    | some (thought, behind) =>
      (String.ofList (before ++ behind.dropWhile isBlank),
        some (String.ofList (trimChars thought)))

end Reasoning

end Gamebook
