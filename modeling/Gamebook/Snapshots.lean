import Gamebook.Failure
import Gamebook.State.Basic

/-!
Snapshots: the states that were saved, one for each turn, in ascending order of turns. Going back to
a turn forgets all later ones.
-/

namespace Gamebook

/-- The saved states with their turns. -/
structure Snapshots where
  saved : List (Nat × GameState) := []
  deriving Inhabited

namespace Snapshots

/-- Puts a state at the place of its turn. -/
def insert (turn : Nat) (s : GameState) : List (Nat × GameState) → List (Nat × GameState)
  | [] => [(turn, s)]
  | (t, other) :: rest =>
    if turn < t then (turn, s) :: (t, other) :: rest
    else if turn = t then (turn, s) :: rest
    else (t, other) :: insert turn s rest

/-- Saves a state under its turn, in the place of any other. -/
def save (k : Snapshots) (s : GameState) : Snapshots := ⟨insert s.turnCount s k.saved⟩

/-- The state saved under a turn. -/
def load? (k : Snapshots) (turn : Int) : Option GameState :=
  (k.saved.find? fun entry => (entry.1 : Int) = turn).map (·.2)

/-- The turns under which states are saved, in ascending order. -/
def turns (k : Snapshots) : List Nat := k.saved.map (·.1)

/-- The state of the latest turn. -/
def latest? (k : Snapshots) : Option GameState := k.saved.getLast?.map (·.2)

/-- Forgets every turn after a given one. -/
def upTo (k : Snapshots) (turn : Int) : Snapshots :=
  ⟨k.saved.filter fun entry => (entry.1 : Int) ≤ turn⟩

/-- Goes back to a saved turn. -/
def rollback (k : Snapshots) (turn : Int) : Outcome (GameState × Snapshots) :=
  match k.load? turn with
  | some s => .ok (s, k.upTo turn)
  | none => .error (.noSnapshot turn)

end Snapshots

end Gamebook
