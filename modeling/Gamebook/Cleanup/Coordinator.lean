import Gamebook.Cleanup.Partition

/-!
Cleanup once per turn: old history is compressed, memories are generated, and all memories are
scored anew and chosen from. The coordinator remembers the last turn it saw and does nothing when
it is asked again for the same turn or while a pass is under way. A pass decides; `applyCleanup`
makes the next state from what was decided.
-/

namespace Gamebook

/-- What the coordinator is doing. -/
inductive CleanupPhase where
  | idle
  | evaluating
  | noop
  | processing
  | applied
  deriving DecidableEq, Inhabited

namespace CleanupPhase

def name : CleanupPhase → String
  | .idle => "idle"
  | .evaluating => "evaluating"
  | .noop => "noop"
  | .processing => "processing"
  | .applied => "applied"

def ofName? (s : String) : Option CleanupPhase :=
  [idle, evaluating, noop, processing, applied].find? (·.name = s)

/-- Whether a pass is under way. -/
def isBusy : CleanupPhase → Bool
  | .evaluating => true
  | .processing => true
  | _ => false

end CleanupPhase

/-- What one pass decided. -/
structure CleanupResult where
  phase : CleanupPhase := .noop
  triggered : Bool := false
  turn : Nat := 0
  kept : List Memory := []
  enhanced : List Memory := []
  archived : List Memory := []
  activeMemories : List Memory := []
  segment : Option Segment := none
  activeHistory : List Entry := []
  historyOriginalSize : Nat := 0
  historyNewSize : Nat := 0
  generation : Option Generation := none
  tokensSaved : Nat := 0
  categoryCounts : Keyed Nat := []

/-- The number of memories that a pass moved or changed. -/
def CleanupResult.totalProcessed (r : CleanupResult) : Nat := r.archived.length + r.enhanced.length

/-- The result of a pass that changes nothing. -/
def CleanupResult.unchanged (s : GameState) : CleanupResult :=
  { turn := s.turnCount
    kept := s.memories
    activeMemories := s.memories
    activeHistory := s.gameHistory
    historyOriginalSize := s.gameHistory.length
    historyNewSize := s.gameHistory.length }

namespace CleanupConfig

/-- Whether history has grown beyond its threshold. -/
def historyDue (c : CleanupConfig) (s : GameState) : Bool :=
  c.history.threshold < s.gameHistory.length

/-- Whether there are too many memories, or too many unimportant ones. -/
def memoriesDue (c : CleanupConfig) (memories : List Memory) : Bool :=
  let low := memories.countP (·.importanceBelow c.lowImportance)
  c.maxActiveMemories < memories.length || c.memoryThreshold < memories.length ||
    c.lowImportanceLimit < low

/-- A memory with its importance in the present state. -/
def rescore (s : GameState) (m : Memory) : Outcome Memory := do
  let score ← m.score s
  return { m with importance := some score }

/-- The memories generated in a pass, if generation is switched on. -/
def generated (c : CleanupConfig) (s : GameState) : Outcome (Option Generation) :=
  if c.generatesMemories then (c.generation.generate s).map some else .ok none

/-- How many memories there are of each category. -/
def countCategories (memories : List Memory) : Keyed Nat :=
  (memories.map fun m => ((m.category.map (·.name)).getD "uncategorized")).foldl countKey []

/-- Chooses among scored memories if there is a reason to, and otherwise keeps them all. -/
def choose (c : CleanupConfig) (scored : List Memory) (s : GameState) : Outcome Choice :=
  if c.memoriesDue scored then partition c scored s
  else .ok { kept := scored, admitted := scored.zipIdx.map fun (m, i) => (i, m) }

def process (c : CleanupConfig) (s : GameState) : Outcome CleanupResult := do
  let history ← manageHistory s.gameHistory s.turnCount c.history
  let generation ← c.generated s
  let fresh := (generation.map (·.memories)).getD []
  let scored ← (s.memories ++ fresh).mapM (rescore s)
  let chosen ← c.choose scored s
  let triggered := history.segment.isSome || !chosen.archived.isEmpty ||
    !chosen.enhanced.isEmpty || !fresh.isEmpty
  return {
    phase := if triggered then .applied else .noop
    triggered
    turn := s.turnCount
    kept := chosen.kept
    enhanced := chosen.enhanced
    archived := chosen.archived
    activeMemories := chosen.active
    segment := history.segment
    activeHistory := history.active
    historyOriginalSize := history.originalSize
    historyNewSize := history.newSize
    generation
    tokensSaved := history.savedEntries * tokensPerEntry + totalCost chosen.archived
    categoryCounts := countCategories chosen.active }

/-- A pass over a state: it works only if history or memories are due. -/
def pass (c : CleanupConfig) (s : GameState) : Outcome CleanupResult :=
  if c.historyDue s || c.memoriesDue s.memories then c.process s else .ok (.unchanged s)

end CleanupConfig

/-- The coordinator: its bounds, what it is doing and the last turn it saw. -/
structure Coordinator where
  config : CleanupConfig
  phase : CleanupPhase := .idle
  lastTurn : Option Nat := none

namespace Coordinator

/-- Runs a pass, unless one is under way or the turn was seen already. -/
def run (k : Coordinator) (s : GameState) : Outcome CleanupResult × Coordinator :=
  if k.phase.isBusy || k.lastTurn = some s.turnCount then (.ok (.unchanged s), k)
  else
    match k.config.pass s with
    | .ok r => (.ok r, { k with phase := r.phase, lastTurn := some s.turnCount })
    | .error e => (.error e, { k with phase := .idle, lastTurn := some s.turnCount })

end Coordinator

/-- The state after a pass. A pass that was not triggered leaves it as it is. -/
def applyCleanup (s : GameState) (r : CleanupResult) : GameState :=
  if r.triggered then
    { s with
      memories := r.activeMemories
      archivedMemories := s.archivedMemories ++ r.archived
      gameHistory := r.activeHistory
      compressedHistory := s.compressedHistory ++ r.segment.toList }
  else s

/-- A single pass with a coordinator of its own. -/
def coordinatedCleanup (s : GameState) (c : CleanupConfig) : Outcome CleanupResult :=
  ({ config := c : Coordinator }.run s).1

end Gamebook
