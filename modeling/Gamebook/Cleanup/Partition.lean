import Gamebook.Cleanup.Config

/-!
The choice of active memories. Memories are taken in order of importance, the more recent of equal
ones first: pinned ones up to the ceiling, the others while they fit the token budget as well.
Everything else is archived.
-/

namespace Gamebook

namespace Memory

/-- What a memory costs in tokens, with what is known about it. -/
def tokenCost (m : Memory) : Nat :=
  estimateTokens m.text.length + 2 * m.tagList.length + 3 * m.related.length

/-- The turn of the last use, or else of the making. -/
def recency (m : Memory) : Int :=
  let used := m.lastAccessed.getD 0
  if used = 0 then m.createdAt.getD 0 else used

/-- The memory as it is put away in a turn. -/
def archivedIn (m : Memory) (turn : Nat) : Memory :=
  { m with category := some .archived, lastAccessed := some turn }

/-- Whether a memory comes before another when memories are chosen: it is more important, or as
important and not less recent. -/
def precedes (a b : Memory) : Bool :=
  if a.weight.same b.weight then b.recency ≤ a.recency else !a.weight.lt b.weight

end Memory

def totalCost (memories : List Memory) : Nat := memories.foldr (fun m n => m.tokenCost + n) 0

/-- Whether a name occurs in one of the last ten entries. -/
def isRecentlyActive (s : GameState) (name : String) : Bool :=
  let lowered := Text.lower name
  (s.gameHistory.drop (s.gameHistory.length - 10)).any fun e =>
    Text.occurs lowered (Text.lower e.text)

/-- Whether a memory lacks something, is older than ten turns or concerns somebody recently
active. -/
def Memory.needsEnhancement (m : Memory) (s : GameState) : Bool :=
  m.category.isNone || m.relatedEntities.isNone || m.tags.isNone ||
    10 < (s.turnCount : Int) - m.recency || m.related.any (isRecentlyActive s)

/-- A choice under way: the memories taken as they were, taken after enhancement and put away, the
active ones with their original places, and what these cost. -/
structure Choice where
  kept : List Memory := []
  enhanced : List Memory := []
  archived : List Memory := []
  admitted : List (Nat × Memory) := []
  usage : Nat := 0

namespace Choice

def archive (ch : Choice) (turn : Nat) (m : Memory) : Choice :=
  { ch with archived := ch.archived ++ [m.archivedIn turn] }

/-- Takes a memory as it is. -/
def keep (ch : Choice) (place : Nat) (m : Memory) : Choice :=
  { ch with
    kept := ch.kept ++ [m]
    admitted := ch.admitted ++ [(place, m)]
    usage := ch.usage + m.tokenCost }

def refresh (ch : Choice) (place : Nat) (m : Memory) : Choice :=
  { ch with
    enhanced := ch.enhanced ++ [m]
    admitted := ch.admitted ++ [(place, m)]
    usage := ch.usage + m.tokenCost }

/-- Whether there is room for another memory. -/
def hasRoom (ch : Choice) (c : CleanupConfig) : Bool := ch.admitted.length < c.maxActiveMemories

/-- Decides on a pinned memory: the ceiling alone counts. -/
def addPinned (c : CleanupConfig) (turn : Nat) (ch : Choice) (entry : Memory × Nat) : Choice :=
  if ch.hasRoom c then ch.keep entry.2 entry.1 else ch.archive turn entry.1

/-- Whether a memory fits the budget and the ceiling. -/
def fits (ch : Choice) (c : CleanupConfig) (budget : Double) (m : Memory) : Bool :=
  (Number.int (ch.usage + m.tokenCost : Nat)).le (.float budget) && ch.hasRoom c

/-- Decides on a memory that is not pinned. -/
def addOther (c : CleanupConfig) (budget : Double) (s : GameState) (ch : Choice)
    (entry : Memory × Nat) : Outcome Choice :=
  let (m, place) := entry
  if m.importanceBelow c.lowImportance then .ok (ch.archive s.turnCount m)
  else if m.needsEnhancement s then do
    let candidate ← m.enhanced s
    return if ch.fits c budget candidate then ch.refresh place candidate
      else ch.archive s.turnCount m
  else .ok (if ch.fits c budget m then ch.keep place m else ch.archive s.turnCount m)

/-- The active memories in their original order. -/
def active (ch : Choice) : List Memory :=
  (ch.admitted.mergeSort fun a b => a.1 ≤ b.1).map (·.2)

end Choice

/-- Memories with their places, in the order in which they are chosen. -/
def ranked (memories : List Memory) : List (Memory × Nat) :=
  memories.zipIdx.mergeSort fun a b => a.1.precedes b.1

def partition (c : CleanupConfig) (memories : List Memory) (s : GameState) : Outcome Choice := do
  let budget ← c.memoryTokenBudget
  let order := ranked memories
  let pinned := (order.filter (·.1.pinned)).foldl (Choice.addPinned c s.turnCount) {}
  (order.filter (!·.1.pinned)).foldlM (Choice.addOther c budget s) pinned

end Gamebook
