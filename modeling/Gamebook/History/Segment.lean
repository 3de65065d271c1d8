import Gamebook.History.Moment
import Gamebook.Record.Field
import Gamebook.Record.Reading

/-!
Compressed history: a segment stands for a run of entries that are no longer kept.
-/

namespace Gamebook

/-- The summary of a run of entries. -/
structure Segment where
  turnRange : String
  summary : String
  keyActions : List String := []
  importantEvents : List String := []
  recentChoices : List String := []
  storyFlow : List String := []
  tokenCount : Nat := 0
  deriving DecidableEq, Inhabited

namespace Segment

/-- Reads a segment from its fields; the moment at which it was made is checked and dropped. -/
def ofFields (f : Fields) : Checked Segment :=
  (fun s (_ : Unit) => s) <$>
    (mk <$> f.need ⟨"turnRange", some "turn_range"⟩ Read.text
      <*> f.need "summary" Read.text
      <*> f.get ⟨"keyActions", some "key_actions"⟩ Read.texts []
      <*> f.get ⟨"importantEvents", some "important_events"⟩ Read.texts []
      <*> f.get ⟨"recentChoices", some "recent_choices"⟩ Read.texts []
      <*> f.get ⟨"storyFlow", some "story_flow"⟩ Read.texts []
      <*> f.get ⟨"tokenCount", some "token_count"⟩ (Read.natFrom 0) 0)
    <*> f.get ⟨"compressedAt", some "compressed_at"⟩ Moment.check ()

def read (v : Value) : Checked Segment := (Read.object v).andThen ofFields

def toValue (s : Segment) : Value :=
  .object
    [("turnRange", .text s.turnRange), ("summary", .text s.summary),
      ("keyActions", .texts s.keyActions), ("importantEvents", .texts s.importantEvents),
      ("recentChoices", .texts s.recentChoices), ("storyFlow", .texts s.storyFlow),
      ("tokenCount", .int s.tokenCount)]

end Segment

end Gamebook
