import Gamebook.History.Window
import Gamebook.Memory.Generation

/-!
The bounds that cleanup keeps: how many memories stay active, how much they may cost, how long
history may grow, and what is generated on the way.
-/

namespace Gamebook

/-- The bounds of cleanup. At least one memory may stay active. -/
structure CleanupConfig where
  maxActiveMemories : Nat := 120
  memoryThreshold : Nat := 150
  lowImportance : Number := .int 40
  lowImportanceLimit : Nat := 10
  history : HistoryConfig := default
  maxTokenBudget : Nat := 10000
  memoryTokenRatio : Double := .ofRatio 3 10
  generatesMemories : Bool := true
  generation : GenerationConfig := { lookbackTurns := 5 }
  one_le_maxActiveMemories : 1 ≤ maxActiveMemories := by decide
  deriving DecidableEq

instance : Inhabited CleanupConfig := ⟨{}⟩

namespace CleanupConfig

/-- The fields of a configuration that are single values. -/
def scalarNames : List String :=
  ["max_active_memories", "memory_cleanup_threshold", "low_importance_threshold",
    "low_importance_limit", "max_active_history_entries", "history_compression_threshold",
    "summary_length", "max_token_budget", "memory_token_ratio", "enable_smart_memory_generation"]

/-- The configuration with the given bounds, if they fit together. -/
def make (maxActiveMemories memoryThreshold : Nat) (lowImportance : Number)
    (lowImportanceLimit maxActiveHistory historyThreshold summaryLength maxTokenBudget : Nat)
    (memoryTokenRatio : Double) (generatesMemories : Bool) (generation : GenerationConfig) :
    Checked CleanupConfig :=
  if one_le_maxActiveMemories : 1 ≤ maxActiveMemories then
    (HistoryConfig.make maxActiveHistory historyThreshold summaryLength).map fun history => {
      maxActiveMemories, memoryThreshold, lowImportance, lowImportanceLimit, history,
      maxTokenBudget, memoryTokenRatio, generatesMemories, generation, one_le_maxActiveMemories }
  else .fault

/-- Reads a configuration from its fields. -/
def ofFields (f : Fields) : Checked CleanupConfig :=
  (make <$> f.get "max_active_memories" (Read.natFrom 1) 120
    <*> f.get "memory_cleanup_threshold" (Read.natFrom 1) 150
    <*> f.get "low_importance_threshold" (Read.amountBetween 0 (some 100)) (.int 40)
    <*> f.get "low_importance_limit" (Read.natFrom 0) 10
    <*> f.get "max_active_history_entries" (Read.natFrom 2) 70
    <*> f.get "history_compression_threshold" (Read.natFrom 2) 72
    <*> f.get "summary_length" (Read.natFrom 10) 200
    <*> f.get "max_token_budget" (Read.natFrom 0) 10000
    <*> f.get "memory_token_ratio" (Read.doubleBetween 0 (some 1)) (.ofRatio 3 10)
    <*> f.get "enable_smart_memory_generation" Read.bool true
    <*> f.get "smart_memory" GenerationConfig.read { lookbackTurns := 5 }).andThen id

def read (v : Value) : Checked CleanupConfig := (Read.object v).andThen ofFields

/-- The environment variable of a field. -/
def variableName (field : String) : String := "SAGA_" ++ Text.upper field

/-- Reads a configuration from environment variables, with fields that override them. -/
def ofEnvironment (env : Keyed String) (overrides : Fields) : Checked CleanupConfig :=
  let given := scalarNames.filterMap fun name =>
    (env.get? (variableName name)).map fun s => (name, Value.text s)
  ofFields (Keyed.update given overrides)

def toFields (c : CleanupConfig) : Fields :=
  [("max_active_memories", .int c.maxActiveMemories),
    ("memory_cleanup_threshold", .int c.memoryThreshold),
    ("low_importance_threshold", .ofNumber c.lowImportance),
    ("low_importance_limit", .int c.lowImportanceLimit),
    ("max_active_history_entries", .int c.history.maxActive),
    ("history_compression_threshold", .int c.history.threshold),
    ("summary_length", .int c.history.summaryLength),
    ("max_token_budget", .int c.maxTokenBudget),
    ("memory_token_ratio", .float c.memoryTokenRatio),
    ("enable_smart_memory_generation", .bool c.generatesMemories),
    ("smart_memory", c.generation.toValue)]

/-- The tokens that memories may cost together. -/
def memoryTokenBudget (c : CleanupConfig) : Outcome Double := do
  let budget ← Outcome.ofArithmetic (Number.int c.maxTokenBudget).toDouble?
  return budget * c.memoryTokenRatio

end CleanupConfig

end Gamebook
