import Gamebook.Entity.Record
import Gamebook.ReferenceId
import Gamebook.Substitution.Rule
import Gamebook.Tag.Attribute

/-!
The scene that a tag plays in: the state it works on, the rules in force, and what it tells beside
its effect. Playing a tag says whether the tag changed anything and how the scene is afterwards.
-/

namespace Gamebook

/-- What a tag works on. -/
structure Scene where
  state : GameState
  rules : List Rule := []
  events : List String := []
  appended : List String := []

/-- The outcome of playing a tag. -/
structure Played where
  changed : Bool
  scene : Scene

namespace Scene

/-- The scene after a tag that changed nothing. -/
def kept (c : Scene) : Played := ⟨false, c⟩

/-- The scene after a tag that changed something. -/
def changed (c : Scene) : Played := ⟨true, c⟩

def tell (c : Scene) (event : String) : Scene := { c with events := c.events ++ [event] }

/-- Appends to the text that is shown. -/
def append (c : Scene) (text : String) : Scene := { c with appended := c.appended ++ [text] }

/-- Applies a function to the state. -/
def onState (c : Scene) (f : GameState → GameState) : Scene := { c with state := f c.state }

/-- The known entity with a name; the empty name is nobody's. -/
def find? (c : Scene) (name : Option String) : Option Entity :=
  match name with
  | some n => if n.isEmpty then none else c.state.find? n
  | none => none

/-- The player's item with a name. -/
def ownedItem? (c : Scene) (name : Option String) : Option Entity :=
  (c.find? name).filter (·.isOwnedItem)

def skill? (c : Scene) (name : Option String) : Option Entity :=
  (c.find? name).filter (·.kind = .skill)

/-- Stores an entity under its name and refreshes its party copy. -/
def put (c : Scene) (e : Entity) : Scene := c.onState (·.put e)

/-- Draws a reference id for an entity of a kind. -/
def newId (c : Scene) (kind : EntityKind) : Play Value := do
  return .text (← ReferenceId.forState c.state kind)

/-- The id that an entity keeps, or a new one if it has none. -/
def keptId (e : Entity) (kind : EntityKind) (c : Scene) : Play Value :=
  match e.referenceId with
  | some id => if id.isEmpty then c.newId kind else pure (.text id)
  | none => c.newId kind

end Scene

/-- The attributes of an entity with its kind. -/
def withKind (kind : EntityKind) (attrs : Fields) : Fields :=
  Keyed.put attrs "type" (.text kind.name)

/-- The attributes with a given reference id, unless they bring their own. -/
def withDefaultId (id : Value) (attrs : Fields) : Fields := Keyed.putNew attrs "referenceId" id

/-- The attributes with a given reference id in any case. -/
def withId (id : Value) (attrs : Fields) : Fields := Keyed.put attrs "referenceId" id

def entityOf (attrs : Fields) : Play Entity :=
  Play.ofOutcome (Outcome.ofChecked (Entity.ofFields attrs))

/-- An entity with attributes laid over it. -/
def mergedWith (e : Entity) (attrs : Fields) : Play Entity :=
  Play.ofOutcome (Outcome.ofChecked (e.merged attrs))

end Gamebook
