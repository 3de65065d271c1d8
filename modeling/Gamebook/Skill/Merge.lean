import Gamebook.Skill.Name

/-!
Merging skills into a list. A higher rank takes the place of a lower one with the same base name, a
lower rank is rejected, and an equal rank is added unless it is the same name.
-/

namespace Gamebook.Skill

/-- The outcome of a merge. -/
structure Merge where
  skills : List String := []
  added : List String := []
  upgraded : List (String × String) := []
  rejected : List String := []
  deriving DecidableEq, Inhabited

namespace Merge

/-- Whether the merge changed the list. -/
def changed (m : Merge) : Bool := !m.added.isEmpty || !m.upgraded.isEmpty

/-- Adds a name unless the list has it already. -/
def add (m : Merge) (name : String) : Merge :=
  if m.skills.any (sameName · name) then m
  else { m with skills := m.skills ++ [name], added := m.added ++ [name] }

/-- Puts a name in the place of another. -/
def upgrade (m : Merge) (old name : String) : Merge :=
  { m with
    skills := m.skills.replace old name
    upgraded := m.upgraded ++ [(old, name)] }

def step (m : Merge) (raw : String) : Merge :=
  let name := Text.trim raw
  if isPlaceholder name then m
  else
    match m.skills.find? fun s => baseName s = baseName name with
    | none => m.add name
    | some held =>
      if sameName held name then m.add name
      else if rank held < rank name then m.upgrade held name
      else if rank name < rank held then { m with rejected := m.rejected ++ [name] }
      else m.add name

end Merge

/-- Merges names into a list, one after another. -/
def merge (existing new : List String) : Merge :=
  new.foldl Merge.step { skills := existing }

end Gamebook.Skill
