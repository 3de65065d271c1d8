import Gamebook.Text.Class

/-!
Plain operations on text: trimming, splitting, searching and joining. Each works on the list of
characters; the version on `String` converts at both ends. Lengths count characters.
-/

namespace Gamebook.Text

/-- A list of characters without the blanks at its end. -/
def trimEndChars (cs : List Char) : List Char := (cs.reverse.dropWhile isBlank).reverse

/-- A list of characters without the blanks at either end. -/
def trimChars (cs : List Char) : List Char := trimEndChars (cs.dropWhile isBlank)

/-- A list of characters without the white space proper at either end. -/
def trimWhiteSpace (cs : List Char) : List Char :=
  ((cs.dropWhile isWhiteSpace).reverse.dropWhile isWhiteSpace).reverse

/-- A text without the blanks at either end. -/
def trim (s : String) : String := String.ofList (trimChars s.toList)

/-- A text without the blanks at its end. -/
def trimEnd (s : String) : String := String.ofList (trimEndChars s.toList)

/-- Whether nothing but blanks is written. -/
def isBlankText (s : String) : Bool := s.toList.all isBlank

/-- Every run of blanks becomes one space. -/
def collapseChars : List Char → List Char
  | [] => []
  | c :: rest =>
    if isBlank c then
      match rest with
      | [] => [' ']
      | d :: _ => if isBlank d then collapseChars rest else ' ' :: collapseChars rest
    else c :: collapseChars rest

/-- Cut at every character of a class; adjacent cuts leave empty pieces. -/
def splitChars (cut : Char → Bool) : List Char → List (List Char)
  | [] => [[]]
  | c :: rest =>
    if cut c then [] :: splitChars cut rest
    else
      match splitChars cut rest with
      | [] => [[c]]
      | piece :: pieces => (c :: piece) :: pieces

/-- Cut at every run of characters of a class; a run at an end leaves an empty piece there. -/
def splitRuns (cut : Char → Bool) : List Char → List (List Char)
  | [] => [[]]
  | c :: rest =>
    if cut c then
      match rest with
      | [] => [[], []]
      | d :: _ => if cut d then splitRuns cut rest else [] :: splitRuns cut rest
    else
      match splitRuns cut rest with
      | [] => [[c]]
      | piece :: pieces => (c :: piece) :: pieces

/-- The pieces of a text between the occurrences of a character. -/
def splitOn (sep : Char) (s : String) : List String :=
  (splitChars (· == sep) s.toList).map String.ofList

/-- The words of a list of characters. -/
def wordChars (cs : List Char) : List (List Char) :=
  (splitChars isBlank cs).filter (! ·.isEmpty)

/-- The words of a text: the longest pieces without blanks. -/
def words (s : String) : List String := (wordChars s.toList).map String.ofList

/-- What follows an opening, if the characters begin with it. -/
def afterOpening? : List Char → List Char → Option (List Char)
  | [], cs => some cs
  | _ :: _, [] => none
  | o :: os, c :: cs => if o == c then afterOpening? os cs else none

/-- Whether the characters begin with an opening. -/
def opensWith (opening cs : List Char) : Bool := (afterOpening? opening cs).isSome

/-- Whether some rest of the characters begins with the needle. -/
def occursIn (needle : List Char) : List Char → Bool
  | [] => needle.isEmpty
  | c :: rest => opensWith needle (c :: rest) || occursIn needle rest

def occurs (needle text : String) : Bool := occursIn needle.toList text.toList

/-- Whether a text contains one of the needles. -/
def occursAny (needles : List String) (text : String) : Bool := needles.any (occurs · text)

/-- A text, or a stand-in for an absent or empty one. -/
def textOr (standIn : String) : Option String → String
  | some s => if s.isEmpty then standIn else s
  | none => standIn

/-- The first characters of a text. -/
def take (n : Nat) (s : String) : String := String.ofList (s.toList.take n)

/-- A text of at most `limit` characters: a longer one ends in three points. -/
def ellipsize (limit : Nat) (s : String) : String :=
  if limit < s.length then take (limit - 3) s ++ "..." else s

/-- Texts in a row with a separator between them. -/
def join (sep : String) : List String → String
  | [] => ""
  | [s] => s
  | s :: rest => s ++ sep ++ join sep rest

/-- Each text once, at its first place. -/
def distinct (xs : List String) : List String :=
  xs.foldl (fun seen x => if x ∈ seen then seen else seen ++ [x]) []

end Gamebook.Text
