import Gamebook.Cleanup.Config
import Gamebook.Cleanup.Coordinator
import Gamebook.Cleanup.Partition
import Gamebook.Cleanup.Restore
import Gamebook.Draws
import Gamebook.Entity.Basic
import Gamebook.Entity.Record
import Gamebook.Failure
import Gamebook.History.Action
import Gamebook.History.Entry
import Gamebook.History.Moment
import Gamebook.History.Segment
import Gamebook.History.Summary
import Gamebook.History.Window
import Gamebook.Json.Quote
import Gamebook.Json.Reader
import Gamebook.Json.Writer
import Gamebook.Keyed
import Gamebook.Memory.Basic
import Gamebook.Memory.Enhancement
import Gamebook.Memory.Generation
import Gamebook.Memory.Importance
import Gamebook.Memory.Similarity
import Gamebook.Narrator.Canned
import Gamebook.Narrator.Decoding
import Gamebook.Narrator.Message
import Gamebook.Narrator.Remote
import Gamebook.Number.Basic
import Gamebook.Number.Decimal
import Gamebook.Number.Double
import Gamebook.Number.Numeral
import Gamebook.Pattern.Matcher
import Gamebook.Pattern.Node
import Gamebook.Pattern.Parser
import Gamebook.Pattern.Replace
import Gamebook.Proofs.Number.Rounding
import Gamebook.Quest.Basic
import Gamebook.Quest.Objective
import Gamebook.Quest.Record
import Gamebook.Record.Checked
import Gamebook.Record.Field
import Gamebook.Record.Reading
import Gamebook.ReferenceId
import Gamebook.Skill.Holders
import Gamebook.Skill.Merge
import Gamebook.Skill.Name
import Gamebook.Skill.Progress
import Gamebook.Skill.Usage
import Gamebook.Snapshots
import Gamebook.State.Basic
import Gamebook.State.Record
import Gamebook.Status.Basic
import Gamebook.Substitution.Find
import Gamebook.Substitution.Macro
import Gamebook.Substitution.Rule
import Gamebook.Substitution.Run
import Gamebook.Tag.Attribute
import Gamebook.Tag.Definition
import Gamebook.Tag.Grammar
import Gamebook.Tag.Interpretation
import Gamebook.Tag.Inventory
import Gamebook.Tag.Journal
import Gamebook.Tag.Kind
import Gamebook.Tag.Learning
import Gamebook.Tag.Passage
import Gamebook.Tag.Practice
import Gamebook.Tag.Scene
import Gamebook.Tag.Update
import Gamebook.Text.Basic
import Gamebook.Text.Class
import Gamebook.Text.Case
import Gamebook.Text.CaseTable
import Gamebook.Text.Fold
import Gamebook.Text.FoldTable
import Gamebook.Text.Identifier
import Gamebook.Text.Scan
import Gamebook.Text.Printable
import Gamebook.Text.Sentence
import Gamebook.Text.Word
import Gamebook.Turn.Config
import Gamebook.Turn.Pipeline
import Gamebook.Turn.Transcript
import Gamebook.Value
import Gamebook.Value.Display
import Gamebook.World.Calendar
import Gamebook.World.Realm
import Gamebook.World.Setting
import Gamebook.Proofs.Number.Height
import Gamebook.Proofs.Number.Amount
import Gamebook.Proofs.Memory.Importance
import Gamebook.Proofs.Memory.Enhancement
import Gamebook.Proofs.Cleanup.Partition
import Gamebook.Proofs.Cleanup.Pass
import Gamebook.Proofs.Cleanup.Conservation
import Gamebook.Proofs.Cleanup.Bounds
import Gamebook.Proofs.Cleanup.Idempotence
import Gamebook.Proofs.Cleanup.Failure
import Gamebook.Proofs.Memory.Reach
import Gamebook.Proofs.Memory.Generation
import Gamebook.Proofs.Entity.Reading
import Gamebook.Proofs.Play
import Gamebook.Proofs.Cast.Keys
import Gamebook.Proofs.Cast.Retelling
import Gamebook.Proofs.Tag.Retelling
import Gamebook.Proofs.Tag.Recasting
import Gamebook.Proofs.Tag.Definition
import Gamebook.Proofs.Tag.Inventory
import Gamebook.Proofs.Tag.Learning
import Gamebook.Proofs.Tag.Run
import Gamebook.Proofs.Skill.Synchronization
import Gamebook.Proofs.ReferenceId
import Gamebook.Proofs.Interpretation.Player
import Gamebook.Proofs.Cast.Party
import Gamebook.Proofs.Interpretation.Party
import Gamebook.Proofs.Turn.Ceiling
import Gamebook.Proofs.Skill.Name
import Gamebook.Proofs.Skill.Holding
import Gamebook.Proofs.Skill.Mending
import Gamebook.Proofs.Cast.Standing
import Gamebook.Proofs.Acting.Touching
import Gamebook.Proofs.Acting.Cast
import Gamebook.Proofs.Acting.Course
import Gamebook.Proofs.Acting.Player
import Gamebook.Proofs.Acting.Run
import Gamebook.Proofs.Skill.Sustaining
import Gamebook.Proofs.Interpretation.Frame
import Gamebook.Proofs.Interpretation.Realm
import Gamebook.Proofs.Interpretation.Report
import Gamebook.Proofs.Interpretation.Skills
import Gamebook.Proofs.Tag.Occurrence
import Gamebook.Proofs.Skill.Resolution
import Gamebook.Proofs.History.Turns
import Gamebook.Proofs.Cleanup.Dating
import Gamebook.Proofs.Turn.Tiling
import Gamebook.Proofs.Acting.Speech
import Gamebook.Proofs.Tag.Residue
import Gamebook.Proofs.Tag.Loss
import Gamebook.Proofs.Json.Legible
import Gamebook.Proofs.Json.Faults
import Gamebook.Proofs.Narrator.Decoding
import Gamebook.Proofs.Narrator.Returning
import Gamebook.Proofs.Turn.Rehydration
import Gamebook.Proofs.Tag.Filing
import Gamebook.Proofs.Tag.Omission
import Gamebook.Proofs.Tag.Ownership
import Gamebook.Proofs.Tag.Addressing
import Gamebook.Proofs.Tag.Identity
import Gamebook.Proofs.Interpretation.Identity
import Gamebook.Proofs.History.Action
import Gamebook.Proofs.Number.Units
import Gamebook.Proofs.Skill.Practice
import Gamebook.Proofs.Cast.Leading
import Gamebook.Proofs.Interpretation.Steps
import Gamebook.Proofs.Tag.Reward
import Gamebook.Proofs.Tag.Journal
import Gamebook.Proofs.Interpretation.Quests
import Gamebook.Proofs.Skill.Settling
import Gamebook.Proofs.Skill.Outranking
import Gamebook.Proofs.Skill.Gathering
import Gamebook.Proofs.Skill.Schooling
import Gamebook.Proofs.Tag.Lesson
import Gamebook.Proofs.Interpretation.Lessons
import Gamebook.Proofs.World.Calendar
import Gamebook.Proofs.Interpretation.Statuses
import Gamebook.Proofs.Cleanup.Selection
import Gamebook.Proofs.Tag.Stock
import Gamebook.Proofs.Skill.Setback
import Gamebook.Proofs.Number.Nearest
import Gamebook.Proofs.Tag.Spelling
import Gamebook.Proofs.Tag.Breakthrough
import Gamebook.Proofs.Distinct
import Gamebook.Proofs.Number.Difference
import Gamebook.Proofs.Skill.Usage
import Gamebook.Proofs.Memory.Keeping
import Gamebook.Proofs.Memory.Similarity
import Gamebook.Proofs.Memory.Novelty
import Gamebook.Proofs.Text.Scan
import Gamebook.Proofs.Memory.Origin
import Gamebook.Proofs.Memory.Mention
import Gamebook.Proofs.Pattern.Replace
import Gamebook.Proofs.Substitution.Verbatim
import Gamebook.Proofs.Number.Percent
import Gamebook.Proofs.Substitution.Order
import Gamebook.Proofs.Tag.Body
import Gamebook.Proofs.Tag.Durability
import Gamebook.Proofs.Snapshots
import Gamebook.Proofs.Narrator.Retrying
import Gamebook.Proofs.Skill.Renaming
import Gamebook.Proofs.Entity.Merging
import Gamebook.Proofs.World.Realm
