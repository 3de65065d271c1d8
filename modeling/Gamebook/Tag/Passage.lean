import Gamebook.Memory.Enhancement
import Gamebook.Status.Basic
import Gamebook.Substitution.Run
import Gamebook.Tag.Scene

/-!
Tags for what passes: time, the entries of the chronicle, and statuses that come and go. A turn's
entry also becomes a memory, after the rules for memories have been run over it.
-/

namespace Gamebook.Scene

open Text Attribute

/-- The stretch of time that attributes tell. -/
def spanOf (attrs : Fields) : Outcome GameTime.Span := do
  let years ← asInt 0 (Value.field attrs "years")
  let months ← asInt 0 (Value.field attrs "months")
  let days ← asInt 0 (Value.field attrs "days")
  let hours ← asInt 0 (Value.field attrs "hours")
  let minutes ← asInt 0 (Value.field attrs "minutes")
  return { years, months, days, hours, minutes }

/-- Lets time pass, be it none at all. -/
def passTime (attrs : Fields) (c : Scene) : Play Played := do
  let span ← Play.ofOutcome (spanOf attrs)
  let gameTime ← Play.ofOutcome (Outcome.ofChecked (c.state.gameTime.advance span))
  return (c.onState fun s => { s with gameTime }).changed

/-- The memory of a chronicled turn, as it is at first. -/
def turnMemory (text : String) (turn : Nat) : Memory :=
  { text
    source := some .chronicle
    createdAt := some turn
    lastAccessed := some turn }

/-- Enters the summary of a turn into the chronicle and remembers it. -/
def chronicleTurn (attrs : Fields) (c : Scene) : Play Played := do
  match text? attrs "text" with
  | none => return c.kept
  | some text =>
    let next := c.onState fun s =>
      { s with chronicle := { s.chronicle with turn := s.chronicle.turn ++ [text] } }
    let turn := next.state.turnCount
    let macros ← Play.ofOutcome (Outcome.ofChecked (MacroContext.ofState next.state none))
    let processed ← Play.ofOutcome
      (processText macros { depth := some turn } .memoryProcessing c.rules text)
    let memory ← Play.ofOutcome ((turnMemory processed turn).enhanced next.state)
    return (next.onState fun s => { s with memories := s.memories ++ [memory] }).changed

/-- Enters the summary of a chapter into the chronicle. -/
def chronicleChapter (attrs : Fields) (c : Scene) : Played :=
  match text? attrs "text" with
  | none => c.kept
  | some text =>
    (c.onState fun s =>
      { s with chronicle := { s.chronicle with chapter := s.chronicle.chapter ++ [text] } }).changed

/-- Enters a memoir into the chronicle. -/
def chronicleMemoir (attrs : Fields) (c : Scene) : Played :=
  match text? attrs "text" with
  | none => c.kept
  | some text =>
    (c.onState fun s =>
      { s with chronicle := { s.chronicle with memoir := s.chronicle.memoir ++ [text] } }).changed

/-- A status from attributes, with its owner. -/
def statusOf (attrs : Fields) (owner : String) : Outcome Status :=
  Outcome.ofChecked
    (Status.ofFields (Keyed.put (attrs.without ["npcName"]) "owner" (.text owner)))

/-- Applies a status to an owner, if both have a name. -/
def applyStatus (owner : Option String) (attrs : Fields) (c : Scene) : Play Played := do
  match owner, text? attrs "name" with
  | some owner, some _ =>
    let status ← Play.ofOutcome (statusOf attrs owner)
    return (c.onState fun s => { s with statuses := Status.addLimited s.statuses status }).changed
  | _, _ => return c.kept

/-- Cures an owner of the statuses with a name. -/
def cureStatus (owner : Option String) (attrs : Fields) (c : Scene) : Played :=
  let statuses := Status.cure c.state.statuses (text? attrs "name") owner
  ⟨statuses.length != c.state.statuses.length, c.onState fun s => { s with statuses }⟩

end Gamebook.Scene
