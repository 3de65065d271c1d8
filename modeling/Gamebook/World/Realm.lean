import Gamebook.State.Basic

/-!
The realm of the player follows from experience: it is the highest tier whose requirement is met.
-/

namespace Gamebook

/-- Of two tiers the one with the greater requirement, of equal ones the first. -/
def higherTier (best tier : RealmTier) : RealmTier :=
  if best.requiredExp.lt tier.requiredExp then tier else best

/-- The tiers that an experience total reaches. -/
def reachedTiers (exp : Number) (tiers : List RealmTier) : List RealmTier :=
  tiers.filter fun t => (Number.float t.requiredExp).le exp

/-- The name of the highest tier that an experience total reaches. -/
def evaluateRealm (exp : Number) (tiers : List RealmTier) : Option String :=
  match reachedTiers exp tiers with
  | [] => none
  | t :: rest => some (rest.foldl higherTier t).name

namespace GameState

/-- The realm that the player's experience gives, where it differs from the present one. Without
tiers or experience no realm is given. -/
def newRealm? (s : GameState) : Option (Entity × String) := do
  let pc ← s.pc?
  if s.worldData.realmTiers.isEmpty then none
  else
    let exp ← Number.nonzero? pc.currentExp
    let realm ← evaluateRealm exp s.worldData.realmTiers
    if pc.realm = some realm then none else some (pc, realm)

/-- Brings the player's realm up to date. -/
def progressRealm (s : GameState) : GameState :=
  match s.newRealm? with
  | some (pc, realm) => s.put { pc with realm := some realm }
  | none => s

end GameState

end Gamebook
