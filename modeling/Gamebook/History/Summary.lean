import Gamebook.History.Action
import Gamebook.History.Entry
import Gamebook.History.Segment
import Gamebook.Text.Sentence

/-!
Summaries of history: what was done, what happened, what could be chosen and how the story went on,
each cut to a few items.
-/

namespace Gamebook

open Text

/-- The groups of phrases that tell an important event. -/
def eventPhrases : List (List String) :=
  [["nhận được"], ["tìm thấy"], ["thu thập"], ["đánh bại", "chiến thắng", "thua", "chết"],
    ["học được"], ["nâng cấp"], ["phát hiện"], ["gặp"], ["bị", "được"]]

/-- The first important events of a story, at most five, leaving out the long ones. -/
def importantEvents (story : String) : List String :=
  ((eventPhrases.flatMap (tellings · story)).filter (·.length < 100) |>.map trim).take 5

/-- The cost of a text in tokens: four fifths of its length, rounded up. -/
def estimateTokens (length : Nat) : Nat :=
  (Double.ofInt length * .ofRatio 4 5).ceiling.toNat

/-- What a run of entries holds, item by item. -/
structure Digest where
  actions : List String := []
  events : List String := []
  choices : List String := []
  flow : List String := []

/-- The last sentence of a story with more than ten characters. -/
def lastLine? (story : String) : Option String :=
  (((sentences story).map trim).filter fun line => 10 < line.length).getLast?

namespace Digest

def add (d : Digest) (e : Entry) : Outcome Digest :=
  match e.role with
  | .user => .ok { d with actions := d.actions ++ (keyAction? e.text).toList }
  | .model => do
    let story := (← e.story?).getD ""
    let choices ← e.choices
    return { d with
      events := d.events ++ importantEvents story
      flow := d.flow ++ (lastLine? story).toList
      choices := d.choices ++ (choices.map trim).filter (!·.isEmpty) }

/-- Cuts every list to its size. -/
def cut (d : Digest) : Digest :=
  { actions := d.actions.take 10
    events := d.events.take 10
    choices := d.choices.take 8
    flow := d.flow.take 3 }

def items (d : Digest) : List String := d.actions ++ d.events ++ d.choices ++ d.flow

end Digest

/-- One sentence on a run of turns, of at most `limit` characters if that is three or more. -/
def createSummary (actions events : Nat) (first last : Int) (limit : Int) : String :=
  let parts :=
    (if actions = 0 then [] else [toString actions ++ " hành động quan trọng"]) ++
    (if events = 0 then [] else [toString events ++ " sự kiện đáng chú ý"])
  let body := if parts.isEmpty then "các hoạt động thường ngày" else join ", " parts
  let summary := "Lượt: " ++ toString first ++ "-" ++ toString last ++ ": " ++ body ++ "."
  if limit < summary.length then
    let kept := limit - 3
    let kept := if kept < 0 then summary.length + kept else kept
    take kept.toNat summary ++ "..."
  else summary

/-- The segment of a run of entries over the given turns. -/
def compress (entries : List Entry) (first last : Int) (summaryLength : Nat) : Outcome Segment := do
  let d ← entries.foldlM Digest.add {}
  let d := d.cut
  let summary := createSummary d.actions.length d.events.length first last summaryLength
  return {
    turnRange := toString first ++ "-" ++ toString last
    summary
    keyActions := d.actions
    importantEvents := d.events
    recentChoices := d.choices
    storyFlow := d.flow
    tokenCount := estimateTokens (join " " (summary :: d.items)).length }

end Gamebook
