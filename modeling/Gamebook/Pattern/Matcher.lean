import Gamebook.Pattern.Node

/-!
Matching by trial and retreat. A pattern is run at a place with a continuation for what follows it;
the first way through that satisfies the continuation counts. The recursion is on the pattern, and
a repetition cannot go round more often than its minimum and the rest of the text allow, because
beyond the minimum it never goes round twice at one place.
-/

namespace Gamebook.Pattern

open Text

/-- The stretches of text that groups have matched, latest first: index, start and end. -/
abbrev Captures := List (Nat × Nat × Nat)

namespace Captures

/-- The stretch that a group has matched. -/
def get? (caps : Captures) (index : Nat) : Option (Nat × Nat) :=
  match caps with
  | [] => none
  | (i, stretch) :: rest => if i = index then some stretch else get? rest index

end Captures

/-- A place in the text with what groups have matched on the way there. -/
structure Reached where
  place : Nat
  captures : Captures

/-- What is to be matched after a part of a pattern. -/
abbrev Continuation := Reached → Option Reached

/-- The part of a text that a matcher looks at. -/
abbrev Subject := Array Char

namespace Subject

/-- Whether a place has a word character behind it. -/
def wordAt (text : Subject) (ascii : Bool) (place : Nat) : Bool :=
  (text[place]?).any (Category.word.holds ascii)

/-- Whether a place has a word character before it. -/
def wordBefore (text : Subject) (ascii : Bool) (place : Nat) : Bool :=
  0 < place && text.wordAt ascii (place - 1)

/-- Whether a place is what an anchor asks for. In an empty text there is neither a word boundary
nor its opposite. -/
def isAt (text : Subject) (place : Nat) : Anchor → Bool
  | .textStart => place = 0
  | .textEnd => place = text.size
  | .lineStart => place = 0 || text[place - 1]? == some '\n'
  | .lineEnd => place = text.size || text[place]? == some '\n'
  | .finalEnd =>
    place = text.size || (place + 1 = text.size && text[place]? == some '\n')
  | .boundary ascii negated =>
    text.size ≠ 0 && (text.wordBefore ascii place != text.wordAt ascii place) != negated

/-- Whether two characters are the same in a mode, as far as a back reference is concerned. -/
def sameChar (mode : Mode) (a b : Char) : Bool :=
  if mode.ignoreCase then
    if mode.ascii then a.toLower == b.toLower else smallLetter a == smallLetter b
  else a == b

/-- Whether the text repeats a stretch at a place. -/
def repeatsAt (text : Subject) (mode : Mode) (start length place : Nat) : Bool :=
  place + length ≤ text.size && (List.range length).all fun i =>
    match text[start + i]?, text[place + i]? with
    | some a, some b => sameChar mode a b
    | _, _ => false

end Subject

/-- A part of a pattern that is ready to run. -/
abbrev Runner := Reached → Continuation → Option Reached

/-- Goes round a body as often as possible; `last` is the place of the last round beyond the
minimum. -/
def runGreedy (body : Runner) (low : Nat) (high : Option Nat) (next : Continuation) :
    Nat → Nat → Option Nat → Reached → Option Reached
  | 0, _, _, r => next r
  | fuel + 1, count, last, r =>
    if count < low then body r (runGreedy body low high next fuel (count + 1) last)
    else
      let another :=
        if high.all (count < ·) && last ≠ some r.place then
          body r (runGreedy body low high next fuel (count + 1) (some r.place))
        else none
      another.orElse fun _ => next r

/-- Goes round a body as rarely as possible. -/
def runLazy (body : Runner) (low : Nat) (high : Option Nat) (next : Continuation) :
    Nat → Nat → Option Nat → Reached → Option Reached
  | 0, _, _, r => next r
  | fuel + 1, count, last, r =>
    if count < low then body r (runLazy body low high next fuel (count + 1) last)
    else
      (next r).orElse fun _ =>
        if high.all (count < ·) && last ≠ some r.place then
          body r (runLazy body low high next fuel (count + 1) (some r.place))
        else none

/-- Goes round a body as often as possible, each round settled once and for all. -/
def runPossessive (body : Runner) (low : Nat) (high : Option Nat) :
    Nat → Nat → Option Nat → Reached → Option Reached
  | 0, _, _, r => some r
  | fuel + 1, count, last, r =>
    if count < low then
      match body r some with
      | some r => runPossessive body low high fuel (count + 1) last r
      | none => none
    else if high.all (count < ·) && last ≠ some r.place then
      match body r some with
      | some next => runPossessive body low high fuel (count + 1) (some r.place) next
      | none => some r
    else some r

namespace Node

def run (text : Subject) : Node → Runner
  | .empty, r, next => next r
  | .one set mode, r, next =>
    match text[r.place]? with
    | some c => if set.admits mode c then next { r with place := r.place + 1 } else none
    | none => none
  | .any dotAll, r, next =>
    match text[r.place]? with
    | some c => if dotAll || c != '\n' then next { r with place := r.place + 1 } else none
    | none => none
  | .anchor a, r, next => if text.isAt r.place a then next r else none
  | .seq a b, r, next => a.run text r fun r => b.run text r next
  | .alt a b, r, next => (a.run text r next).orElse fun _ => b.run text r next
  | .repetition greed low high body, r, next =>
    let fuel := low + (text.size - r.place) + 2
    match greed with
    | .greedy => runGreedy (fun r k => body.run text r k) low high next fuel 0 none r
    | .lazy => runLazy (fun r k => body.run text r k) low high next fuel 0 none r
    | .possessive =>
      (runPossessive (fun r k => body.run text r k) low high fuel 0 none r).bind next
  | .group index body, r, next =>
    body.run text r fun reached =>
      next { reached with captures := (index, r.place, reached.place) :: reached.captures }
  | .backref index _ mode, r, next =>
    match r.captures.get? index with
    | some (start, stop) =>
      if text.repeatsAt mode start (stop - start) r.place then
        next { r with place := r.place + (stop - start) }
      else none
    | none => none
  | .look negated behind body, r, next =>
    let back := if behind then body.width.1 else 0
    let found :=
      if r.place < back then none else body.run text { r with place := r.place - back } some
    match found, negated with
    | some reached, false => next { reached with place := r.place }
    | none, true => next r
    | _, _ => none
  | .atomic body, r, next => (body.run text r some).bind next
  | .choice index present absent, r, next =>
    if (r.captures.get? index).isSome then present.run text r next else absent.run text r next
  | .onlyIf index present, r, next =>
    if (r.captures.get? index).isSome then present.run text r next else next r

/-- Matches a pattern at a place. An empty match may be ruled out. -/
def matchAt (node : Node) (text : Subject) (place : Nat) (mayBeEmpty : Bool) : Option Reached :=
  node.run text ⟨place, []⟩ fun r => if mayBeEmpty || r.place ≠ place then some r else none

end Node

end Gamebook.Pattern
