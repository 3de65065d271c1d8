import Gamebook.Pattern.Matcher

/-!
Replacing what a pattern matches. The scan goes from left to right and stands at each place of the
text at most twice: a match of nothing is replaced where it stands, and a longer match is then
looked for at the same place. What no match covers is kept as it is.
-/

namespace Gamebook.Pattern

/-- A match at some place: how many characters it covers and what its groups have matched. -/
structure Hit where
  length : Nat
  captures : Captures

namespace Node

/-- The match at a place, if there is one. -/
def hitAt? (node : Node) (text : Subject) (place : Nat) (mayBeEmpty : Bool) : Option Hit :=
  (node.matchAt text place mayBeEmpty).map fun r => ⟨r.place - place, r.captures⟩

/-- The matches to be replaced at a place: one of nothing, one of something, or both in this
order. -/
def hitsAt (node : Node) (text : Subject) (place : Nat) : List Hit :=
  match node.hitAt? text place true with
  | none => []
  | some hit =>
    if hit.length = 0 then hit :: (node.hitAt? text place false).toList else [hit]

end Node

/-- The matches to be replaced at a place, but at most `limit` of them. -/
def hitsUpTo (limit : Option Nat) (hitsAt : Nat → List Hit) (place : Nat) : List Hit :=
  match limit with
  | none => hitsAt place
  | some 0 => []
  | some n => (hitsAt place).take n

/-- A replacement: it is given the rest of the text from the match on, and the match. -/
abbrev Replacement (m : Type → Type) := List Char → Hit → m (List Char)

/-- The replacements of some matches at one place, in a row. -/
def replaceHits {m : Type → Type} [Monad m] (replacement : Replacement m) (rest : List Char) :
    List Hit → m (List Char)
  | [] => pure []
  | hit :: hits => do
    let first ← replacement rest hit
    let others ← replaceHits replacement rest hits
    pure (first ++ others)

/-- The number of characters that the last of some matches covers. -/
def coveredBy : List Hit → Nat
  | [] => 0
  | [hit] => hit.length
  | _ :: hits => coveredBy hits

/-- The rest of a text from a place on, with at most `limit` matches replaced; the first `skip`
characters are covered by a match already. -/
def replaceFrom {m : Type → Type} [Monad m] (hitsAt : Nat → List Hit)
    (replacement : Replacement m) : Option Nat → Nat → Nat → List Char → m (List Char)
  | limit, _, place, [] => replaceHits replacement [] (hitsUpTo limit hitsAt place)
  | limit, skip + 1, place, _ :: rest => replaceFrom hitsAt replacement limit skip (place + 1) rest
  | limit, 0, place, c :: rest => do
    let hits := hitsUpTo limit hitsAt place
    let limit := limit.map (· - hits.length)
    let inserted ← replaceHits replacement (c :: rest) hits
    match coveredBy hits with
    | 0 =>
      let others ← replaceFrom hitsAt replacement limit 0 (place + 1) rest
      pure (inserted ++ c :: others)
    | n + 1 =>
      let others ← replaceFrom hitsAt replacement limit n (place + 1) rest
      pure (inserted ++ others)

/-- A text with at most `limit` matches of a pattern replaced. -/
def Node.replace {m : Type → Type} [Monad m] (node : Node) (limit : Option Nat)
    (replacement : Replacement m) (text : List Char) : m (List Char) :=
  replaceFrom (node.hitsAt text.toArray) replacement limit 0 0 text

end Gamebook.Pattern
