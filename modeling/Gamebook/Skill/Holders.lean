import Gamebook.ReferenceId
import Gamebook.Skill.Merge

/-!
Skills by name across the state. A skill is held by name in the lists of characters and of their
party copies; these references follow when a skill is renamed or upgraded.
-/

namespace Gamebook.Skill

/-- A list with one name for another, each name once; none if the old name is not in the list. -/
def replaceIn (skills : List String) (old new : String) : Option (List String) :=
  if old ∈ skills then some (Text.distinct (skills.map fun s => if s = old then new else s))
  else none

/-- Whether a restriction to certain holders admits a name. -/
def admits (holders : Option (List String)) (name : String) : Bool :=
  match holders with
  | none => true
  | some names => name ∈ names

/-- A holder with one skill name for another; none if nothing changes. -/
def renameFor (holders : Option (List String)) (old new : String) (e : Entity) : Option Entity :=
  if admits holders e.name then (replaceIn e.skillNames old new).map e.withSkills else none

/-- A known entity with one skill name for another; only characters hold skills. -/
def renameKnownHolder (holders : Option (List String)) (old new : String) (e : Entity) :
    Option Entity :=
  if e.isCharacter then renameFor holders old new e else none

/-- Adds a name unless it is listed. -/
def listOnce (names : List String) (name : String) : List String :=
  if name ∈ names then names else names ++ [name]

/-- Renames a skill for the given holders, or for all of them, and names those who held it. -/
def replaceReferences (s : GameState) (old new : String) (holders : Option (List String) := none) :
    GameState × List String :=
  let known := s.knownEntities.map fun (key, e) =>
    (key, (renameKnownHolder holders old new e).getD e)
  let party := s.party.map fun e => (renameFor holders old new e).getD e
  let fromKnown :=
    (s.knownEntities.values.filter fun e => (renameKnownHolder holders old new e).isSome).map
      (·.name)
  let fromParty :=
    (s.party.filter fun e => (renameFor holders old new e).isSome).map (·.name)
  ({ s with knownEntities := known, party }, fromParty.foldl listOnce fromKnown)

/-- Merges a skill into a holder's list and into that of its party copy. The result is that of the
known entity, or else of the party copy. -/
def addToHolder (s : GameState) (holder skill : String) : GameState × Merge :=
  let (s₁, known) :=
    match s.find? holder with
    | some e =>
      let m := merge e.skillNames [skill]
      (s.putKnown holder (e.withSkills m.skills), some m)
    | none => (s, none)
  match s₁.partyMember? holder with
  | some member =>
    let m := merge member.skillNames [skill]
    (s₁.refreshParty (member.withSkills m.skills), known.getD m)
  | none => (s₁, known.getD {})

/-- Whether some character among the known entities and in the party holds a skill. -/
def isHeld (s : GameState) (name : String) : Bool :=
  (s.knownEntities.values ++ s.party).any fun e => e.isCharacter && name ∈ e.skillNames

/-- Renames a skill entity at its place; any other entry under the new name is dropped. -/
def renameEntity (s : GameState) (old new : String) : GameState :=
  { s with
    knownEntities := s.knownEntities.filterMap fun (key, e) =>
      if key = old then some (new, { e with name := new })
      else if key = new then none
      else some (key, e) }

/-- The best skill entity for each base name: of the highest rank the first. -/
def bestByBase (names : List String) : Keyed String :=
  names.foldl (fun best name =>
    let base := baseName name
    match best.get? base with
    | some held => if rank held < rank name then best.put base name else best
    | none => best.put base name) []

/-- A synchronization under way: the state, the best entity for each base name and the rewrites
made so far. -/
structure Sync where
  state : GameState
  best : Keyed String
  rewrites : List (String × String) := []

namespace Sync

/-- A held name that outranks its entity: the entity is renamed forward, or, if somebody still
holds the lower rank, a second entity is defined beside it. -/
def outrank (y : Sync) (base held target : String) : Play Sync := do
  if isHeld y.state target then
    let lower ← Play.ofOutcome (match y.state.find? target with
      | some e => .ok e
      | none => .error (.unknownKey target))
    let id ← ReferenceId.forState y.state .skill
    return { y with
      state := y.state.putKnown held { lower with name := held, referenceId := some id }
      best := y.best.put base held }
  else
    let (state, _) := replaceReferences (renameEntity y.state target held) target held
    return {
      state
      best := y.best.put base held
      rewrites := y.rewrites ++ [(target, held)] }

def resolve (holder : String) (y : Sync) (held : String) : Play Sync := do
  if y.state.knownEntities.has held then return y
  let base := baseName held
  match y.best.get? base with
  | none => return y
  | some target =>
    if target.isEmpty || target = held then return y
    else if rank target < rank held then y.outrank base held target
    else
      let (state, _) := replaceReferences y.state held target (some [holder])
      return { y with state, rewrites := y.rewrites ++ [(held, target)] }

/-- Resolves the names that a holder holds at the start of its turn. -/
def resolveHolder (y : Sync) (holder : String) : Play Sync :=
  match (y.state.find? holder).orElse fun _ => y.state.partyMember? holder with
  | none => pure y
  | some e => e.skillNames.foldlM (resolve holder) y

end Sync

/-- The names of all holders: known characters, then party members that are not among them. -/
def holderNames (s : GameState) : List String :=
  let known := (s.knownEntities.values.filter (·.isCharacter)).map (·.name)
  known ++ (s.party.map (·.name)).filter (· ∉ known)

/-- Points held names without an entity of their own at the best entity with their base name, and
gives the rewrites made. -/
def synchronize (s : GameState) : Play (GameState × List (String × String)) := do
  let best := bestByBase ((s.ofKind .skill).map (·.name))
  let done ← (holderNames s).foldlM Sync.resolveHolder { state := s, best }
  return (done.state, done.rewrites)

end Gamebook.Skill
