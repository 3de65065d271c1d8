import Mathlib.Logic.Relation
import Gamebook.Proofs.Cast.Retelling
import Gamebook.Tag.Update

/-!
Changes of the cast that leave the player's realm in line with experience. The cast is the known
entities and the party; nothing else of a state is touched. An entity that is stored anew is no
player, or a player in line, or stands as the record that it comes from.
-/

namespace Gamebook

open Skill

variable {s t u : GameState} {e updated : Entity} {name : String}

/-! ### The cast -/

/-- Whether two states differ in their known entities and parties only. -/
def CastOnly (s t : GameState) : Prop :=
  ∃ known party, t = { s with knownEntities := known, party := party }

theorem CastOnly.refl (s : GameState) : CastOnly s s := ⟨s.knownEntities, s.party, rfl⟩

theorem CastOnly.trans (first : CastOnly s t) (second : CastOnly t u) : CastOnly s u := by
  obtain ⟨known, party, rfl⟩ := first
  obtain ⟨known', party', rfl⟩ := second
  exact ⟨known', party', rfl⟩

theorem CastOnly.put (s : GameState) (e : Entity) : CastOnly s (s.put e) := ⟨_, _, rfl⟩

theorem CastOnly.rename (s : GameState) (old : String) (e : Entity) : CastOnly s (s.rename old e) :=
  ⟨_, _, rfl⟩

theorem CastOnly.rewrite (s : GameState) (old new : String) (holders : Option (List String)) :
    CastOnly s (replaceReferences s old new holders).1 :=
  ⟨_, _, rfl⟩

theorem CastOnly.teach (s : GameState) (holder skill : String) :
    CastOnly s (addToHolder s holder skill).1 := by
  rw [addToHolder]
  cases s.find? holder <;> dsimp only <;> split <;> exact ⟨_, _, rfl⟩

theorem CastOnly.progressRealm (s : GameState) : CastOnly s s.progressRealm := by
  rw [GameState.progressRealm]
  split
  · exact .put s _
  · exact .refl s

/-! ### Realms in line with experience -/

namespace Entity

/-- Whether an entity, if it is a player, has the realm that the tiers give for its experience,
where they give one. -/
def InLine (tiers : List RealmTier) (e : Entity) : Prop :=
  e.kind = .pc → ∀ exp, Number.nonzero? e.currentExp = some exp →
    ∀ realm, evaluateRealm exp tiers = some realm → e.realm = some realm

/-- Whether an entity has the kind, the experience and the realm of another. -/
structure StandsAs (updated e : Entity) : Prop where
  kind : updated.kind = e.kind
  exp : updated.currentExp = e.currentExp
  realm : updated.realm = e.realm

variable {tiers : List RealmTier}

theorem inLine_of_ne (other : e.kind ≠ .pc) : e.InLine tiers := fun player => absurd player other

theorem StandsAs.inLine (same : updated.StandsAs e) (h : e.InLine tiers) : updated.InLine tiers := by
  rw [InLine, same.kind, same.exp, same.realm]
  exact h

theorem withSkills_standsAs (e : Entity) (names : List String) : (e.withSkills names).StandsAs e := by
  rw [withSkills]
  split_ifs <;> exact ⟨rfl, rfl, rfl⟩

end Entity

open Entity (InLine StandsAs inLine_of_ne)

theorem Skill.renamedMember_standsAs (holders : Option (List String)) (old new : String)
    (e : Entity) : (renamedMember holders old new e).StandsAs e := by
  rw [renamedMember]
  cases renamed : renameFor holders old new e with
  | none => exact ⟨rfl, rfl, rfl⟩
  | some changed =>
    rw [renameFor] at renamed
    split_ifs at renamed
    obtain ⟨names, -, rfl⟩ := Option.map_eq_some_iff.mp renamed
    exact e.withSkills_standsAs names

theorem Skill.renamedHolder_standsAs (holders : Option (List String)) (old new : String)
    (e : Entity) : (renamedHolder holders old new e).StandsAs e := by
  rw [renamedHolder_eq]
  split_ifs
  · exact renamedMember_standsAs holders old new e
  · exact ⟨rfl, rfl, rfl⟩

/-- Whether every known player has the realm that its experience gives. -/
def GameState.AllInLine (s : GameState) : Prop :=
  ∀ name e, s.find? name = some e → e.InLine s.worldData.realmTiers

theorem GameState.AllInLine.mono (h : s.AllInLine) (world : t.worldData = s.worldData)
    (known : ∀ name e, t.find? name = some e → e.InLine s.worldData.realmTiers ∨
      ∃ other old, s.find? other = some old ∧ e.StandsAs old) : t.AllInLine := by
  intro name e found
  rw [world]
  rcases known name e found with inLine | ⟨other, old, before, same⟩
  · exact inLine
  · exact same.inLine (h other old before)

/-! ### Moves -/

/-- A change of the cast that leaves no player with another realm than its experience gives. -/
inductive Moves : GameState → GameState → Prop
  | put {s : GameState} {e : Entity} (inLine : e.InLine s.worldData.realmTiers) : Moves s (s.put e)
  | amend {s : GameState} {name : String} {e updated : Entity} (found : s.find? name = some e)
    (same : updated.StandsAs e) : Moves s (s.put updated)
  | join {s : GameState} {e : Entity} (inLine : e.InLine s.worldData.realmTiers) :
    Moves s ((Scene.joinParty e s).putKnown e.name e)
  | forget (s : GameState) (name : String) : Moves s (s.forget name)
  | rename {s : GameState} {e : Entity} (old : String) (inLine : e.InLine s.worldData.realmTiers) :
    Moves s (s.rename old e)
  | rewrite (s : GameState) (old new : String) (holders : Option (List String)) :
    Moves s (replaceReferences s old new holders).1
  | teach (s : GameState) (holder skill : String) : Moves s (addToHolder s holder skill).1

theorem Moves.castOnly (move : Moves s t) : CastOnly s t := by
  cases move with
  | put inLine => exact .put s _
  | amend found same => exact .put s _
  | join inLine => exact ⟨_, _, rfl⟩
  | forget name => exact ⟨_, _, rfl⟩
  | rename old inLine => exact .rename s old _
  | rewrite old new holders => exact .rewrite s old new holders
  | teach holder skill => exact .teach s holder skill

theorem CastOnly.worldData (h : CastOnly s t) : t.worldData = s.worldData := by
  obtain ⟨known, party, rfl⟩ := h
  rfl

/-- What is found after a move was stored by it, in line, or comes from a record found before. -/
theorem Moves.found (move : Moves s t) (here : t.find? name = some e) :
    e.InLine s.worldData.realmTiers ∨ ∃ other old, s.find? other = some old ∧ e.StandsAs old := by
  have before (found : s.find? name = some e) : e.InLine s.worldData.realmTiers ∨
      ∃ other old, s.find? other = some old ∧ e.StandsAs old :=
    .inr ⟨name, e, found, rfl, rfl, rfl⟩
  cases move with
  | put inLine =>
    rw [GameState.find?_put] at here
    split_ifs at here
    · exact .inl (Option.some.inj here ▸ inLine)
    · exact before here
  | amend found same =>
    rw [GameState.find?_put] at here
    split_ifs at here
    · exact .inr ⟨_, _, found, Option.some.inj here ▸ same⟩
    · exact before here
  | join inLine =>
    change (s.put _).find? name = some e at here
    rw [GameState.find?_put] at here
    split_ifs at here
    · exact .inl (Option.some.inj here ▸ inLine)
    · exact before here
  | forget forgotten =>
    rw [GameState.find?_forget] at here
    split_ifs at here
    exact before here
  | rename old inLine =>
    rw [GameState.find?_rename] at here
    split_ifs at here
    · exact .inl (Option.some.inj here ▸ inLine)
    · exact before here
  | rewrite old new holders =>
    rw [GameState.find?_replaceReferences] at here
    obtain ⟨source, found, rfl⟩ := Option.map_eq_some_iff.mp here
    exact .inr ⟨name, source, found, renamedHolder_standsAs holders old new source⟩
  | teach holder skill =>
    rw [GameState.find?_addToHolder] at here
    split_ifs at here
    · obtain ⟨source, found, rfl⟩ := Option.map_eq_some_iff.mp here
      exact .inr ⟨name, source, found, source.withSkills_standsAs _⟩
    · exact before here

theorem Moves.allInLine (move : Moves s t) (h : s.AllInLine) : t.AllInLine :=
  h.mono move.castOnly.worldData fun _ _ => move.found

end Gamebook
