import Gamebook.Record.Field
import Gamebook.Record.Reading

/-!
Substitution rules: find-and-replace rules that a user writes for certain points of a turn.
-/

namespace Gamebook

/-- The points of a turn at which rules run. -/
inductive Placement where
  | playerInput
  | narratorOutput
  | memoryProcessing
  | entityDetection
  | questProcessing
  | dialogueFormatting
  | statExtraction
  | combatFormatting
  deriving DecidableEq, Inhabited

namespace Placement

def number : Placement → Nat
  | .playerInput => 1
  | .narratorOutput => 2
  | .memoryProcessing => 3
  | .entityDetection => 4
  | .questProcessing => 5
  | .dialogueFormatting => 6
  | .statExtraction => 7
  | .combatFormatting => 8

def ofNumber? (i : Int) : Option Placement :=
  [playerInput, narratorOutput, memoryProcessing, entityDetection, questProcessing,
    dialogueFormatting, statExtraction, combatFormatting].find? fun p => (p.number : Int) = i

end Placement

/-- How macro references in a find pattern are expanded. -/
inductive MacroMode where
  | keep
  | raw
  | escaped
  deriving DecidableEq, Inhabited

namespace MacroMode

def number : MacroMode → Nat
  | .keep => 0
  | .raw => 1
  | .escaped => 2

def ofNumber? (i : Int) : Option MacroMode :=
  [keep, raw, escaped].find? fun m => (m.number : Int) = i

end MacroMode

/-- A find-and-replace rule. -/
structure Rule where
  id : String
  name : String := ""
  findRegex : String
  replaceString : String := ""
  trimStrings : List String := []
  placement : List Placement := []
  disabled : Bool := false
  markdownOnly : Bool := false
  promptOnly : Bool := false
  runOnEdit : Bool := true
  macroMode : MacroMode := .keep
  minDepth : Option Int := none
  maxDepth : Option Int := none
  createdAt : Int := 0
  deriving DecidableEq, Inhabited

namespace Rule

def readPlacement (v : Value) : Checked Placement :=
  (Read.int v).andThen fun i => .ofOption (Placement.ofNumber? i)

def readMode (v : Value) : Checked MacroMode :=
  (Read.int v).andThen fun i => .ofOption (MacroMode.ofNumber? i)

/-- Reads a rule from its fields. -/
def ofFields (f : Fields) : Checked Rule :=
  mk <$> f.need "id" Read.text
    <*> f.get "name" Read.text ""
    <*> f.need ⟨"findRegex", some "find_regex"⟩ Read.text
    <*> f.get ⟨"replaceString", some "replace_string"⟩ Read.text ""
    <*> f.get ⟨"trimStrings", some "trim_strings"⟩ Read.texts []
    <*> f.get "placement" (Read.list readPlacement) []
    <*> f.get "disabled" Read.bool false
    <*> f.get ⟨"markdownOnly", some "markdown_only"⟩ Read.bool false
    <*> f.get ⟨"promptOnly", some "prompt_only"⟩ Read.bool false
    <*> f.get ⟨"runOnEdit", some "run_on_edit"⟩ Read.bool true
    <*> f.get ⟨"substituteRegex", some "substitute_regex"⟩ readMode .keep
    <*> f.get ⟨"minDepth", some "min_depth"⟩ (Read.optional Read.int) none
    <*> f.get ⟨"maxDepth", some "max_depth"⟩ (Read.optional Read.int) none
    <*> f.get ⟨"createdAt", some "created_at"⟩ Read.int 0

def read (v : Value) : Checked Rule := (Read.object v).andThen ofFields

/-- The fields of a rule with their defaults. -/
def slots (r : Rule) : List Slot :=
  [⟨"id", .text r.id, false⟩,
    .text "name" r.name,
    ⟨"findRegex", .text r.findRegex, false⟩,
    .text "replaceString" r.replaceString,
    .texts "trimStrings" r.trimStrings,
    ⟨"placement", .list (r.placement.map fun p => .int p.number), r.placement.isEmpty⟩,
    .bool "disabled" false r.disabled,
    .bool "markdownOnly" false r.markdownOnly,
    .bool "promptOnly" false r.promptOnly,
    .bool "runOnEdit" true r.runOnEdit,
    .nat "substituteRegex" 0 r.macroMode.number,
    .optInt "minDepth" r.minDepth,
    .optInt "maxDepth" r.maxDepth,
    .int "createdAt" 0 r.createdAt]

def toValue (r : Rule) : Value := .object (Slot.full r.slots)

end Rule

end Gamebook
