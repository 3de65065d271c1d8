import Gamebook.Failure
import Gamebook.Token
import Gamebook.Value

/-!
The sources that play draws from: rolls between zero and one, and tokens for reference ids. A draw
is never given back, not even when what asked for it fails afterwards.
-/

namespace Gamebook

/-- Rolls and tokens still to come. When the rolls are used up, every roll is one half; when the
tokens are used up, they come from a supply that never repeats itself, of which some may have been
issued already. -/
structure Draws where
  rolls : List Number := []
  tokens : List String := []
  later : TokenSupply := .counted
  issued : Nat := 0
  deriving Inhabited

namespace Draws

/-- The roll when none is prepared. -/
def evenRoll : Number := .float (.ofRatio 1 2)

def roll (d : Draws) : Number × Draws :=
  match d.rolls with
  | r :: rest => (r, { d with rolls := rest })
  | [] => (evenRoll, d)

def token (d : Draws) : String × Draws :=
  match d.tokens with
  | t :: rest => (t, { d with tokens := rest })
  | [] => (d.later.token (d.issued + 1), { d with issued := d.issued + 1 })

end Draws

/-- Something that draws and may fail. Draws made before a failure stay made. -/
abbrev Play := ExceptT Failure (StateM Draws)

namespace Play

def ofOutcome {α : Type} (x : Outcome α) : Play α := fun d => (x, d)

def draw {α : Type} (f : Draws → α × Draws) : Play α := fun d =>
  let (a, d) := f d
  (.ok a, d)

def roll : Play Number := draw Draws.roll

end Play

end Gamebook
