import Gamebook.Text.Class
import Gamebook.Text.Fold
import Gamebook.Text.Word

/-!
Patterns as trees. A pattern consumes characters from left to right; where a character is compared
without regard to case, or a class means ASCII only, the tree says so at that place.
-/

namespace Gamebook.Pattern

open Text

/-- How a part of a pattern is read. -/
structure Mode where
  ignoreCase : Bool := false
  multiline : Bool := false
  dotAll : Bool := false
  ascii : Bool := false
  deriving DecidableEq

/-- Classes of characters with a name of their own. -/
inductive Category where
  | digit
  | space
  | word
  deriving DecidableEq

namespace Category

/-- Whether a character is an ASCII letter or digit. -/
def isPlainAlnum (c : Char) : Bool := c.isAlpha || c.isDigit

/-- Whether a character belongs to a class. -/
def holds (ascii : Bool) (c : Char) : Category → Bool
  | .digit => if ascii then c.isDigit else isDigit c
  | .space => isBlank c && (!ascii || (c.toNat < 128 && isWhiteSpace c))
  | .word => if ascii then isPlainAlnum c || c == '_' else isWord c

end Category

/-- One item of a set of characters. Codes need not be those of characters. -/
inductive SetItem where
  | one (code : Nat)
  | range (first last : Nat)
  | category (category : Category) (negated : Bool)
  deriving DecidableEq

/-- A set of characters. -/
structure CharSet where
  items : List SetItem
  negated : Bool := false
  deriving DecidableEq

/-- The characters that count as equal to a character in a mode. -/
def formsOf (mode : Mode) (c : Char) : List Char :=
  if mode.ignoreCase then
    if mode.ascii then [c, c.toLower, c.toUpper] else c :: variants c
  else [c]

namespace SetItem

/-- Whether an item admits one of the forms of a character. -/
def admits (mode : Mode) (forms : List Char) (c : Char) : SetItem → Bool
  | .one code => forms.any (·.toNat == code)
  | .range first last => forms.any fun x => first ≤ x.toNat && x.toNat ≤ last
  | .category k negated => k.holds mode.ascii c != negated

end SetItem

namespace CharSet

/-- Whether a set admits a character. -/
def admits (s : CharSet) (mode : Mode) (c : Char) : Bool :=
  s.items.any (·.admits mode (formsOf mode c) c) != s.negated

end CharSet

/-- Places that a pattern can ask for. -/
inductive Anchor where
  | textStart
  | textEnd
  | lineStart
  | lineEnd
  | finalEnd
  | boundary (ascii negated : Bool)
  deriving DecidableEq

/-- How often a repetition tries before it goes on: as often as possible, as rarely as possible, or
as often as possible without ever giving back. -/
inductive Greed where
  | greedy
  | lazy
  | possessive
  deriving DecidableEq

/-- A pattern. -/
inductive Node where
  | empty
  | one (set : CharSet) (mode : Mode)
  | any (dotAll : Bool)
  | anchor (a : Anchor)
  | seq (first second : Node)
  | alt (first second : Node)
  | repetition (greed : Greed) (low : Nat) (high : Option Nat) (body : Node)
  | group (index : Nat) (body : Node)
  | backref (index : Nat) (width : Nat × Nat) (mode : Mode)
  | look (negated : Bool) (behind : Bool) (body : Node)
  | atomic (body : Node)
  | choice (index : Nat) (present absent : Node)
  | onlyIf (index : Nat) (present : Node)

namespace Node

def maxWidth : Nat := 0x10000000000000000

/-- The least and the greatest number of characters that a pattern consumes. -/
def width : Node → Nat × Nat
  | .empty => (0, 0)
  | .one .. => (1, 1)
  | .any _ => (1, 1)
  | .anchor _ => (0, 0)
  | .seq a b => (min (a.width.1 + b.width.1) maxWidth, min (a.width.2 + b.width.2) maxWidth)
  | .alt a b => (min a.width.1 b.width.1, max a.width.2 b.width.2)
  | .repetition _ low high body =>
    let top := match high with
      | some n => body.width.2 * n
      | none => if body.width.2 = 0 then 0 else maxWidth
    (min (body.width.1 * low) maxWidth, min top maxWidth)
  | .group _ body => body.width
  | .backref _ w _ => w
  | .look .. => (0, 0)
  | .atomic body => body.width
  | .choice _ a b => (min a.width.1 b.width.1, max a.width.2 b.width.2)
  | .onlyIf _ a => (0, a.width.2)

/-- The first fault of a pattern that is well written: a look behind whose width is not fixed, or is
too large. -/
def widthFault? : Node → Option String
  | .seq a b => a.widthFault?.orElse fun _ => b.widthFault?
  | .alt a b => a.widthFault?.orElse fun _ => b.widthFault?
  | .repetition _ _ _ body => body.widthFault?
  | .group _ body => body.widthFault?
  | .look _ true body =>
    if 0xFFFFFFFF < body.width.1 then some "looks too much behind"
    else if body.width.1 ≠ body.width.2 then some "look-behind requires fixed-width pattern"
    else body.widthFault?
  | .look _ false body => body.widthFault?
  | .atomic body => body.widthFault?
  | .choice _ a b => a.widthFault?.orElse fun _ => b.widthFault?
  | .onlyIf _ a => a.widthFault?
  | _ => none

end Node

end Gamebook.Pattern
