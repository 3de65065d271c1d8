import Mathlib.Data.List.Pairwise
import Gamebook.Proofs.Cast.Retelling
import Gamebook.ReferenceId

/-!
Reference ids of known entities. A state is well identified if each id belongs to one name only. It
stays so when names lose their ids, and when an entity is stored whose id nothing else has.
-/

namespace Gamebook

open Skill

/-- The reference id of an entity; an empty one is none. -/
def Entity.id? (e : Entity) : Option String := e.referenceId.filter (!·.isEmpty)

/-- What is read off the values of a map is distinct if no two keys have the same. -/
theorem Keyed.nodup_filterMap_values {α β : Type} {m : Keyed α} (distinct : (keys m).Nodup)
    (f : α → Option β) : ((values m).filterMap f).Nodup ↔ ∀ key other b,
      (get? m key).bind f = some b → (get? m other).bind f = some b → key = other := by
  rw [List.Nodup, List.pairwise_filterMap, values, List.pairwise_map]
  constructor
  · intro apart key other b first second
    obtain ⟨v, found, read⟩ := Option.bind_eq_some_iff.mp first
    obtain ⟨w, foundOther, readOther⟩ := Option.bind_eq_some_iff.mp second
    by_contra different
    have symmetric : Std.Symm fun p q : String × α =>
        ∀ b, f p.2 = some b → ∀ b', f q.2 = some b' → b ≠ b' :=
      ⟨fun _ _ disjoint b read b' read' same => disjoint b' read' b read same.symm⟩
    exact apart.forall (mem_of_get? found) (mem_of_get? foundOther)
      (fun same => different (congrArg Prod.fst same)) b read b readOther rfl
  · intro injective
    refine List.Pairwise.imp_of_mem ?_ (List.pairwise_map.mp distinct)
    rintro ⟨key, v⟩ ⟨other, w⟩ member memberOther apart b read b' read' rfl
    refine apart (injective key other b ?_ ?_)
    · rw [get?_of_mem distinct member, Option.bind_some, read]
    · rw [get?_of_mem distinct memberOther, Option.bind_some, read']

namespace GameState

variable {s t : GameState} {e : Entity} {name old new holder skill : String}
  {holders : Option (List String)}

/-- The reference id of the known entity with a name. -/
def idAt? (s : GameState) (name : String) : Option String := (s.find? name).bind Entity.id?

/-- Whether no two known entities have the same reference id. -/
def Identified (s : GameState) : Prop :=
  ∀ name other id, s.idAt? name = some id → s.idAt? other = some id → name = other

/-- Whether nothing but what an entity replaces has its reference id. -/
def Admits (s : GameState) (e : Entity) : Prop :=
  ∀ name id, e.id? = some id → s.idAt? name = some id → name = e.name

theorem nodup_idsOf (keyed : s.WellKeyed) : (ReferenceId.idsOf s).Nodup ↔ s.Identified :=
  Keyed.nodup_filterMap_values keyed.distinct Entity.id?

theorem mem_idsOf {id : String} (known : s.idAt? name = some id) : id ∈ ReferenceId.idsOf s := by
  obtain ⟨e, found, given⟩ := Option.bind_eq_some_iff.mp known
  exact List.mem_filterMap.mpr ⟨e, Keyed.mem_values found, given⟩

theorem idAt?_of_find? (found : s.find? name = some e) : s.idAt? name = e.id? := by
  rw [idAt?, found, Option.bind_some]

/-! ### Ids after a change -/

theorem idAt?_congr (same : t.knownEntities = s.knownEntities) (name : String) :
    t.idAt? name = s.idAt? name := by
  rw [idAt?, idAt?, find?, find?, same]

theorem idAt?_put (s : GameState) (e : Entity) (name : String) :
    (s.put e).idAt? name = if e.name = name then e.id? else s.idAt? name := by
  rw [idAt?, find?_put]
  split_ifs <;> rfl

theorem idAt?_forget (s : GameState) (forgotten name : String) :
    (s.forget forgotten).idAt? name = if name = forgotten then none else s.idAt? name := by
  rw [idAt?, find?_forget]
  split_ifs <;> rfl

theorem idAt?_rename (s : GameState) (old : String) (e : Entity) (name : String) :
    (s.rename old e).idAt? name = ((s.forget old).put e).idAt? name := by
  rw [idAt?_put, idAt?_forget, idAt?, find?_rename]
  simp only [eq_comm (a := name) (b := e.name)]
  split_ifs <;> rfl

end GameState

theorem Entity.withSkills_id (e : Entity) (names : List String) :
    (e.withSkills names).id? = e.id? := by
  rw [withSkills]
  split_ifs <;> rfl

theorem Skill.renamedHolder_id (holders : Option (List String)) (old new : String) (e : Entity) :
    (renamedHolder holders old new e).id? = e.id? := by
  rw [renamedHolder_eq]
  split_ifs
  · rw [renamedMember]
    cases h : renameFor holders old new e with
    | none => rfl
    | some renamed =>
      rw [renameFor] at h
      split_ifs at h
      obtain ⟨names, -, rfl⟩ := Option.map_eq_some_iff.mp h
      exact e.withSkills_id names
  · rfl

namespace GameState

variable {s t : GameState} {e : Entity} {name old new holder skill : String}
  {holders : Option (List String)}

theorem idAt?_replaceReferences :
    (replaceReferences s old new holders).1.idAt? name = s.idAt? name := by
  rw [idAt?, find?_replaceReferences, idAt?]
  cases s.find? name with
  | none => rfl
  | some e => exact renamedHolder_id holders old new e

theorem idAt?_addToHolder : (addToHolder s holder skill).1.idAt? name = s.idAt? name := by
  rw [idAt?, find?_addToHolder, idAt?]
  split_ifs
  · cases s.find? name with
    | none => rfl
    | some e => exact e.withSkills_id _
  · rfl

/-! ### Well identified states -/

namespace Identified

/-- Names that keep their ids or lose them clash as little as before. -/
theorem of_inherited (h : s.Identified)
    (inherited : ∀ name id, t.idAt? name = some id → s.idAt? name = some id) : t.Identified := by
  intro name other id first second
  exact h name other id (inherited name id first) (inherited other id second)

theorem congr (h : s.Identified) (same : ∀ name, t.idAt? name = s.idAt? name) : t.Identified :=
  h.of_inherited fun name _ known => (same name).symm.trans known

theorem forget (h : s.Identified) (forgotten : String) : (s.forget forgotten).Identified := by
  refine h.of_inherited fun name _ known => ?_
  rw [idAt?_forget] at known
  split_ifs at known
  exact known

theorem put (h : s.Identified) (admits : s.Admits e) : (s.put e).Identified := by
  intro name other id first second
  rw [idAt?_put] at first second
  split_ifs at first second with here there there
  · exact here.symm.trans there
  · exact here.symm.trans (admits other id first second).symm
  · exact (admits name id second first).trans there
  · exact h name other id first second

theorem rename (h : s.Identified) (admits : (s.forget old).Admits e) :
    (s.rename old e).Identified :=
  ((h.forget old).put admits).congr (idAt?_rename s old e)

/-- What is stored only has to be admitted besides the record that it replaces. -/
theorem replace (h : s.Identified) (admits : (s.forget e.name).Admits e) :
    (s.put e).Identified := by
  refine ((h.forget e.name).put admits).congr fun name => ?_
  rw [idAt?_put, idAt?_put, idAt?_forget]
  split_ifs with here gone
  · rfl
  · exact absurd gone.symm here
  · rfl

/-- An entity that keeps its id is in nobody's way. -/
theorem admits (h : s.Identified) (same : s.idAt? e.name = e.id?) : s.Admits e :=
  fun name id given known => h name e.name id known (same.trans given)

/-- Once the old record is gone, nothing has its id. -/
theorem admits_moved (h : s.Identified) (same : s.idAt? old = e.id?) : (s.forget old).Admits e := by
  intro name id given known
  rw [idAt?_forget] at known
  split_ifs at known with gone
  exact absurd (h name old id known (same.trans given)) gone

end Identified

/-- A new id is in nobody's way. -/
theorem admits_of_spare {id : String} (spare : id ∉ ReferenceId.idsOf s)
    (issued : e.referenceId = some id) : s.Admits e := by
  intro name other given found
  rw [Entity.id?, issued] at given
  obtain rfl : id = other := Option.some.inj (Option.filter_eq_some_iff.mp given).1
  exact absurd (mem_idsOf found) spare

theorem Admits.forget (h : s.Admits e) (forgotten : String) : (s.forget forgotten).Admits e := by
  intro name id given known
  rw [idAt?_forget] at known
  split_ifs at known
  exact h name id given known

end GameState

/-! ### Rewording -/

/-- A change that leaves every known entity its name, its kind and its reference id. -/
inductive Rewords : GameState → GameState → Prop
  | aside {s t : GameState} (known : t.knownEntities = s.knownEntities)
    (party : t.party = s.party) : Rewords s t
  | put {s : GameState} {e updated : Entity} (found : s.find? updated.name = some e)
    (kind : updated.kind = e.kind) (id : updated.id? = e.id?) : Rewords s (s.put updated)
  | teach (s : GameState) (holder skill : String) : Rewords s (addToHolder s holder skill).1

/-- Any number of such changes, one after another. -/
abbrev Reworded : GameState → GameState → Prop := Relation.ReflTransGen Rewords

variable {s t : GameState}

theorem Rewords.retells (step : Rewords s t) : Retells s t := by
  cases step with
  | aside known party => exact .aside known party
  | put found kind id => exact .put found kind
  | teach holder skill => exact .teach s holder skill

theorem Rewords.idAt? (step : Rewords s t) (name : String) : t.idAt? name = s.idAt? name := by
  cases step with
  | aside known party => exact GameState.idAt?_congr known name
  | put found kind id =>
    rw [GameState.idAt?_put]
    split_ifs with same
    · rw [← same, GameState.idAt?_of_find? found, id]
    · rfl
  | teach holder skill => exact GameState.idAt?_addToHolder

theorem Reworded.retold (run : Reworded s t) : Retold s t := by
  induction run with
  | refl => exact .refl
  | tail _ step ih => exact ih.tail step.retells

theorem Reworded.idAt? (run : Reworded s t) (name : String) : t.idAt? name = s.idAt? name := by
  induction run with
  | refl => rfl
  | tail _ step ih => exact (step.idAt? name).trans ih

theorem Reworded.identified (run : Reworded s t) (h : s.Identified) : t.Identified :=
  h.congr run.idAt?

theorem Reworded.aside (known : t.knownEntities = s.knownEntities) (party : t.party = s.party) :
    Reworded s t :=
  .single (.aside known party)

/-- The realm of the player is brought up to date in the player's own record. -/
theorem Reworded.progressRealm (h : s.WellKeyed) : Reworded s s.progressRealm := by
  rw [GameState.progressRealm]
  cases new : s.newRealm? with
  | none => exact .refl
  | some found =>
    have player := (GameState.pc?_eq_some (GameState.newRealm?_player new)).1
    exact .single (.put (e := found.1) (h.find?_name player) rfl rfl)

end Gamebook
