import Gamebook.Cleanup.Partition

/-!
Archived memories come back when recent activity mentions them again. Also the statistics of the
active memories.
-/

namespace Gamebook

/-- The words of a story that can bring memories back: the first ten of more than three
characters. -/
def storyTerms (story : String) : List String :=
  ((Text.words story).filter (3 < ·.length)).take 10

/-- The words of the last five entries, the names of the party and the last three places. -/
def recentTerms (s : GameState) : Outcome (List String) := do
  let stories ← (s.gameHistory.drop (s.gameHistory.length - 5)).mapM (·.story?)
  let told := stories.flatMap fun story => storyTerms (story.getD "")
  let places := s.locationDiscoveryOrder.drop (s.locationDiscoveryOrder.length - 3)
  return Text.distinct (told ++ s.party.map (·.name) ++ places)

/-- Whether a memory or one of its entities contains one of the terms. -/
def Memory.matchesTerms (terms : List String) (m : Memory) : Bool :=
  let text := Text.lower m.text
  let entities := m.related.map Text.lower
  terms.any fun term => Text.occurs term text || entities.any (Text.occurs term)

/-- The memory as it is brought back in a turn. -/
def Memory.restoredIn (m : Memory) (turn : Nat) : Memory :=
  { m with
    lastAccessed := some turn
    category := if m.category = some .archived then some .general else m.category }

/-- The first elements of a list; a negative number leaves out so many at the end. -/
def takeSlice {α : Type} (n : Int) (xs : List α) : List α :=
  xs.take (if n < 0 then xs.length + n else n).toNat

/-- The archived memories that recent activity mentions, most important first, brought back. -/
def restoreRelevant (archived : List Memory) (s : GameState) (limit : Int) :
    Outcome (List Memory) :=
  if archived.isEmpty then .ok []
  else do
    let terms := (← recentTerms s).map Text.lower
    let found := byImportance (archived.filter (·.matchesTerms terms))
    return (takeSlice limit found).map (·.restoredIn s.turnCount)

/-- Figures on the active memories. -/
structure MemoryStats where
  active : Nat
  archived : Nat
  average : Double
  categories : Keyed Nat
  pinned : Nat
  tokens : Nat

/-- The figures of a set of active memories beside a number of archived ones. -/
def memoryStats (memories : List Memory) (archived : Nat) : MemoryStats :=
  { active := memories.length
    archived
    average := averageImportance memories
    categories := (memories.filterMap fun m => m.category.map (·.name)).foldl countKey []
    pinned := memories.countP (·.pinned)
    tokens := totalCost memories }

end Gamebook
