import Mathlib.Logic.Relation
import Gamebook.Proofs.Cast.Keys
import Gamebook.World.Realm

/-!
Changes that leave every known entity its name and its kind. Most tags do no more than such changes,
one after another, and what a tag does beyond is followed by them.
-/

namespace Gamebook

open Skill

/-! ### Teaching -/

namespace Skill

/-- An entity after it was taught a skill. -/
def taught (skill : String) (e : Entity) : Entity :=
  e.withSkills (merge e.skillNames [skill]).skills

variable {s : GameState} {holder skill : String}

theorem addToHolder_known : (addToHolder s holder skill).1.knownEntities =
    match s.find? holder with
    | some e => s.knownEntities.put holder (taught skill e)
    | none => s.knownEntities := by
  rw [addToHolder]
  cases s.find? holder <;> dsimp only <;> split <;> rfl

theorem addToHolder_party : (addToHolder s holder skill).1.party =
    match s.partyMember? holder with
    | some member => replaceNamed (taught skill member) s.party
    | none => s.party := by
  have same : ∀ e, (s.putKnown holder e).partyMember? holder = s.partyMember? holder :=
    fun _ => rfl
  rw [addToHolder]
  cases s.find? holder with
  | none =>
    dsimp only
    cases s.partyMember? holder <;> rfl
  | some e =>
    dsimp only
    rw [same]
    cases s.partyMember? holder <;> rfl

end Skill

namespace GameState

variable {s : GameState} {e : Entity} {holder skill name : String}

theorem find?_addToHolder : (addToHolder s holder skill).1.find? name =
    if name = holder then (s.find? name).map (taught skill) else s.find? name := by
  rw [find?, addToHolder_known]
  by_cases same : name = holder
  · rw [if_pos same, same]
    cases found : s.find? holder with
    | none => exact found
    | some e => exact Keyed.get?_put_self s.knownEntities holder (taught skill e)
  · rw [if_neg same]
    cases s.find? holder with
    | none => rfl
    | some e => exact Keyed.get?_put_of_ne (Ne.symm same)

theorem WellKeyed.addToHolder (h : s.WellKeyed) (holder skill : String) :
    (addToHolder s holder skill).1.WellKeyed := by
  rw [WellKeyed, addToHolder_known]
  cases found : s.find? holder with
  | none => exact h
  | some e =>
    have named : (taught skill e).name = holder :=
      (e.withSkills_name _).trans (h.name_eq found)
    simpa only [named] using ByName.put h (taught skill e)

/-! ### Kinds -/

/-- The kind of the known entity with a name. -/
def kindOf? (s : GameState) (name : String) : Option EntityKind := (s.find? name).map (·.kind)

theorem kindOf?_of_find? (h : s.find? name = some e) : s.kindOf? name = some e.kind := by
  rw [kindOf?, h, Option.map_some]

theorem kindOf?_put (s : GameState) (e : Entity) (name : String) :
    (s.put e).kindOf? name = if e.name = name then some e.kind else s.kindOf? name := by
  rw [kindOf?, find?_put, apply_ite (Option.map _)]
  rfl

theorem kindOf?_forget (s : GameState) (forgotten name : String) :
    (s.forget forgotten).kindOf? name = if name = forgotten then none else s.kindOf? name := by
  rw [kindOf?, find?_forget, apply_ite (Option.map _)]
  rfl

theorem kindOf?_rename (s : GameState) (old : String) (e : Entity) (name : String) :
    (s.rename old e).kindOf? name =
      if name = e.name then some e.kind else if name = old then none else s.kindOf? name := by
  rw [kindOf?, find?_rename, apply_ite (Option.map _), apply_ite (Option.map _)]
  rfl

theorem kindOf?_replaceReferences (s : GameState) (old new : String)
    (holders : Option (List String)) (name : String) :
    (replaceReferences s old new holders).1.kindOf? name = s.kindOf? name := by
  rw [kindOf?, find?_replaceReferences, Option.map_map]
  exact congrArg (Option.map · _) (funext renamedHolder_kind)

theorem kindOf?_addToHolder : (addToHolder s holder skill).1.kindOf? name = s.kindOf? name := by
  rw [kindOf?, find?_addToHolder]
  split_ifs
  · rw [Option.map_map]
    exact congrArg (Option.map · _) (funext fun e => e.withSkills_kind _)
  · rfl

theorem pc?_eq_some {pc : Entity} (h : s.pc? = some pc) :
    pc ∈ s.knownEntities.values ∧ pc.kind = .pc :=
  ⟨List.mem_of_find?_eq_some h, by simpa using List.find?_some h⟩

theorem newRealm?_player {new : Entity × String} (h : s.newRealm? = some new) :
    s.pc? = some new.1 := by
  rw [newRealm?] at h
  obtain ⟨pc, player, h⟩ := Option.bind_eq_some_iff.mp h
  split_ifs at h
  obtain ⟨exp, -, h⟩ := Option.bind_eq_some_iff.mp h
  obtain ⟨realm, -, h⟩ := Option.bind_eq_some_iff.mp h
  split_ifs at h
  obtain rfl := Option.some.inj h
  exact player

end GameState

/-! ### Retelling -/

/-- A change that leaves every known entity its name and its kind. -/
inductive Retells : GameState → GameState → Prop
  | aside {s t : GameState} (known : t.knownEntities = s.knownEntities) (party : t.party = s.party) :
    Retells s t
  | put {s : GameState} {e updated : Entity} (found : s.find? updated.name = some e)
    (kind : updated.kind = e.kind) : Retells s (s.put updated)
  | rewrite (s : GameState) (old new : String) (holders : Option (List String)) :
    Retells s (replaceReferences s old new holders).1
  | teach (s : GameState) (holder skill : String) : Retells s (addToHolder s holder skill).1

/-- Any number of such changes, one after another. -/
abbrev Retold : GameState → GameState → Prop := Relation.ReflTransGen Retells

variable {s t : GameState}

theorem Retells.wellKeyed (step : Retells s t) (h : s.WellKeyed) : t.WellKeyed := by
  cases step with
  | aside known party =>
    rw [GameState.WellKeyed, known]
    exact h
  | put found kind => exact h.put _
  | rewrite old new holders => exact h.replaceReferences old new holders
  | teach holder skill => exact h.addToHolder holder skill

theorem Retells.kindOf? (step : Retells s t) (name : String) :
    t.kindOf? name = s.kindOf? name := by
  cases step with
  | aside known party => rw [GameState.kindOf?, GameState.kindOf?, GameState.find?, known]; rfl
  | put found kind =>
    rw [GameState.kindOf?_put]
    split_ifs with same
    · rw [← same, GameState.kindOf?_of_find? found, kind]
    · rfl
  | rewrite old new holders => exact GameState.kindOf?_replaceReferences s old new holders name
  | teach holder skill => exact GameState.kindOf?_addToHolder

theorem Retold.wellKeyed (run : Retold s t) (h : s.WellKeyed) : t.WellKeyed := by
  induction run with
  | refl => exact h
  | tail _ step ih => exact step.wellKeyed ih

theorem Retold.kindOf? (run : Retold s t) (name : String) : t.kindOf? name = s.kindOf? name := by
  induction run with
  | refl => rfl
  | tail _ step ih => exact (step.kindOf? name).trans ih

theorem Retold.aside (known : t.knownEntities = s.knownEntities) (party : t.party = s.party) :
    Retold s t :=
  .single (.aside known party)

theorem Retold.put {e updated : Entity} (found : s.find? updated.name = some e)
    (kind : updated.kind = e.kind) : Retold s (s.put updated) :=
  .single (.put found kind)

/-- The realm of the player is brought up to date in the player's own record. -/
theorem Retold.progressRealm (h : s.WellKeyed) : Retold s s.progressRealm := by
  rw [GameState.progressRealm]
  cases new : s.newRealm? with
  | none => exact .refl
  | some found =>
    have player := (GameState.pc?_eq_some (GameState.newRealm?_player new)).1
    exact .put (e := found.1) (h.find?_name player) rfl

end Gamebook
