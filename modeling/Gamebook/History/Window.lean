import Gamebook.History.Summary

/-!
The sliding window of history. When there are more entries than the threshold, all but the newest
are folded into one segment. History has two entries for a turn, so the turns of the folded entries
follow from the number of entries.
-/

namespace Gamebook

/-- The sizes of the window. It holds one turn at least and fits below the threshold. -/
structure HistoryConfig where
  maxActive : Nat := 70
  threshold : Nat := 72
  summaryLength : Nat := 200
  two_le_maxActive : 2 ≤ maxActive := by decide
  maxActive_le_threshold : maxActive ≤ threshold := by decide
  deriving DecidableEq

instance : Inhabited HistoryConfig := ⟨{}⟩

namespace HistoryConfig

/-- The configuration with the given sizes, if they fit together. -/
def make (maxActive threshold summaryLength : Nat) : Checked HistoryConfig :=
  if h : 2 ≤ maxActive ∧ maxActive ≤ threshold then
    .ok ⟨maxActive, threshold, summaryLength, h.1, h.2⟩
  else .fault

/-- Reads a configuration from its fields. -/
def ofFields (f : Fields) : Checked HistoryConfig :=
  ((fun m t l => (m, t, l)) <$> f.get "max_active_entries" (Read.natFrom 2) 70
    <*> f.get "compression_threshold" (Read.natFrom 2) 72
    <*> f.get "summary_length" (Read.natFrom 10) 200).andThen fun (m, t, l) => make m t l

def read (v : Value) : Checked HistoryConfig := (Read.object v).andThen ofFields

def toValue (c : HistoryConfig) : Value :=
  .object
    [("max_active_entries", .int c.maxActive), ("compression_threshold", .int c.threshold),
      ("summary_length", .int c.summaryLength)]

end HistoryConfig

/-- The turns that the oldest `folded` of `size` entries belong to, when history ends at `turn`. -/
def coveredTurns (size folded turn : Int) : Int × Int :=
  let first := max 1 (turn - (size + 1) / 2 + 1)
  let last := max first (first + (folded + 1) / 2 - 1)
  (first, min last (max turn first))

/-- The outcome of one pass over history. -/
structure Windowed where
  active : List Entry
  segment : Option Segment := none
  originalSize : Nat
  newSize : Nat
  savedEntries : Nat := 0

def manageHistory (history : List Entry) (turn : Int) (c : HistoryConfig) : Outcome Windowed :=
  let size := history.length
  if size ≤ c.threshold then
    .ok { active := history, originalSize := size, newSize := size }
  else do
    let folded := size - c.maxActive
    let (first, last) := coveredTurns size folded turn
    let segment ← compress (history.take folded) first last c.summaryLength
    return {
      active := history.drop folded
      segment := some segment
      originalSize := size
      newSize := size - folded
      savedEntries := folded }

/-- The first and last turn of a written range; a range that cannot be read is empty. -/
def parseTurnRange (range : String) : Int × Int :=
  let cs := range.toList
  let start := String.ofList (cs.takeWhile (· != '-'))
  let rest := String.ofList ((cs.dropWhile (· != '-')).drop 1)
  match Numeral.int start with
  | .error _ => (0, -1)
  | .ok first =>
    if rest.isEmpty then (first, first)
    else
      match Numeral.int rest with
      | .error _ => (0, -1)
      | .ok last => (first, last)

/-- Sizes of history and an estimate of what compression saves. -/
structure HistoryStats where
  activeEntries : Nat
  compressedSegments : Nat
  totalOriginal : Int
  ratio : Double
  tokensSaved : Int

/-- The tokens that one entry is counted for. -/
def tokensPerEntry : Nat := 500

/-- The number of entries that a segment stands for. -/
def originalEntries (segment : Segment) : Int :=
  let (first, last) := parseTurnRange segment.turnRange
  max 0 (last - first + 1) * 2

/-- Estimates what the segments save. The estimate fails if the segments claim more entries than a
double can count. -/
def historyStats (active : List Entry) (segments : List Segment) : Outcome HistoryStats := do
  let original := segments.foldl (fun n segment => n + originalEntries segment) 0
  let saved := segments.foldl (fun n segment =>
    n + (originalEntries segment * tokensPerEntry - segment.tokenCount)) 0
  let units := segments.foldl (fun (x : Double) segment =>
    x + .ofRatio segment.tokenCount tokensPerEntry) 0
  let total := active.length + original
  let count ← Outcome.ofArithmetic (Number.int total).toDouble?
  return {
    activeEntries := active.length
    compressedSegments := segments.length
    totalOriginal := total
    ratio := if total = 0 then .ofInt 1 else (Double.ofInt active.length + units).div count
    tokensSaved := saved }

end Gamebook
