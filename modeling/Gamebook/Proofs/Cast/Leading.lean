import Gamebook.Proofs.Cast.Standing
import Gamebook.Proofs.Skill.Synchronization

/-!
The player among the known entities: the first of that kind, however many there are. The player stays
the first through every change that keeps its record at its place, and through all changes of skills.
-/

namespace Gamebook

variable {s t : GameState} {pc e : Entity} {name : String}

namespace Keyed

variable {α : Type} {m : Keyed α} {key : String} {value first : α} {fits : α → Bool}

theorem find?_values (m : Keyed α) (fits : α → Bool) :
    (values m).find? fits = (m.find? fun pair => fits pair.2).map (·.2) := List.find?_map

/-- The first value that fits stays the first when another one is put that does not fit. -/
theorem find?_values_put_of_ne (found : (values m).find? fits = some first)
    (unfit : fits value = false) (other : get? m key ≠ some first) :
    (values (put m key value)).find? fits = some first := by
  induction m with
  | nil => exact nomatch found
  | cons pair m ih =>
    obtain ⟨k, old⟩ := pair
    rw [get?_cons] at other
    change (old :: values m).find? fits = some first at found
    rw [put]
    split_ifs at other ⊢ with here
    · have passed : fits old = false := Bool.eq_false_iff.mpr fun fit => by
        rw [List.find?_cons_of_pos fit] at found
        exact other found
      rw [List.find?_cons_of_neg (Bool.eq_false_iff.mp passed)] at found
      exact (List.find?_cons_of_neg (Bool.eq_false_iff.mp unfit)).trans found
    · change (old :: values (put m key value)).find? fits = some first
      rw [List.find?_cons] at found ⊢
      split at found
      · exact found
      · exact ih found other

/-- A value that fits takes the place of the first one that does. -/
theorem find?_values_put_self (found : (values m).find? fits = some first)
    (fit : fits value = true) (here : get? m key = some first)
    (alone : ∀ pair ∈ m, pair.2 = first → pair.1 = key) :
    (values (put m key value)).find? fits = some value := by
  induction m with
  | nil => exact nomatch found
  | cons pair m ih =>
    obtain ⟨k, old⟩ := pair
    rw [get?_cons] at here
    change (old :: values m).find? fits = some first at found
    rw [put]
    split_ifs at here ⊢ with same
    · exact List.find?_cons_of_pos fit
    · change (old :: values (put m key value)).find? fits = some value
      have passed : ¬fits old = true := fun fit => by
        rw [List.find?_cons_of_pos fit] at found
        exact same (alone (k, old) List.mem_cons_self (Option.some.inj found))
      rw [List.find?_cons_of_neg passed] at found ⊢
      exact ih found here fun pair member => alone pair (List.mem_cons_of_mem _ member)

end Keyed

namespace GameState

theorem find?_pc (h : s.WellKeyed) (player : s.pc? = some pc) : s.find? pc.name = some pc :=
  h.find?_name (pc?_eq_some player).1

theorem pc?_put_other (player : s.pc? = some pc) (h : s.WellKeyed) (other : e.kind ≠ .pc)
    (apart : e.name ≠ pc.name) : (s.put e).pc? = some pc :=
  Keyed.find?_values_put_of_ne player (decide_eq_false other) fun found =>
    apart (h.name_eq found).symm

theorem pc?_put_self (player : s.pc? = some pc) (h : s.WellKeyed) (kind : e.kind = .pc)
    (same : e.name = pc.name) : (s.put e).pc? = some e := by
  refine Keyed.find?_values_put_self player (decide_eq_true kind) ?_ fun pair member equal => ?_
  · rw [same]
    exact find?_pc h player
  · rw [← h.named pair member, equal, same]

/-- Where no player is moved or left out and none is added, the first one stays the first. -/
theorem pc?_of_filterMap {f : String × Entity → Option (String × Entity)}
    (known : t.knownEntities = s.knownEntities.filterMap f) (player : s.pc? = some pc)
    (keeps : ∀ pair ∈ s.knownEntities, pair.2.kind = .pc → f pair = some pair)
    (adds : ∀ pair ∈ s.knownEntities, pair.2.kind ≠ .pc → ∀ moved, f pair = some moved →
      moved.2.kind ≠ .pc) : t.pc? = some pc := by
  rw [pc?, Keyed.find?_values] at player ⊢
  obtain ⟨pair, found, rfl⟩ := Option.map_eq_some_iff.mp player
  have same : ∀ pair ∈ s.knownEntities,
      (f pair).any (·.2.kind = .pc) = decide (pair.2.kind = .pc) := by
    intro pair member
    by_cases isPlayer : pair.2.kind = .pc
    · rw [keeps pair member isPlayer]
      rfl
    · rw [decide_eq_false isPlayer]
      cases moved : f pair with
      | none => rfl
      | some next => exact decide_eq_false (adds pair member isPlayer next moved)
  have first : s.knownEntities.find? (fun pair => (f pair).any (·.2.kind = .pc)) = some pair := by
    rw [← found, ← List.head?_filter, ← List.head?_filter, List.filter_congr same]
  have isPlayer : pair.2.kind = .pc := by simpa using List.find?_some found
  rw [known, List.find?_filterMap, first, Option.bind_some,
    keeps pair (List.mem_of_find?_eq_some found) isPlayer, Option.map_some]

theorem pc?_forget (player : s.pc? = some pc) (h : s.WellKeyed) (found : s.find? name = some e)
    (other : e.kind ≠ .pc) : (s.forget name).pc? = some pc := by
  refine pc?_of_filterMap (f := Option.guard (·.1 ≠ name)) ?_ player ?_ ?_
  · exact congrFun List.filterMap_eq_filter.symm s.knownEntities
  · intro pair member isPlayer
    refine Option.guard_eq_some_iff.mpr ⟨rfl, decide_eq_true fun same => other ?_⟩
    have here : s.find? pair.1 = some pair.2 := Keyed.get?_of_mem h.distinct member
    rw [same, found] at here
    rw [Option.some.inj here, isPlayer]
  · intro pair _ unfit moved given
    exact (Option.guard_eq_some_iff.mp given).1 ▸ unfit

/-- An entity that is no player may take any name that is free. -/
theorem pc?_renameEntity {new : String} (player : s.pc? = some pc) (h : s.WellKeyed)
    (found : s.find? e.name = some e) (other : e.kind ≠ .pc) (free : s.find? new = none) :
    (Skill.renameEntity s e.name new).pc? = some pc := by
  have present : s.knownEntities.has e.name = true := Option.isSome_iff_exists.mpr ⟨e, found⟩
  have known := renameEntity_known h found new
  rw [renameKnown_eq, if_pos present] at known
  refine pc?_of_filterMap known player ?_ ?_
  · intro pair member isPlayer
    have here : s.find? pair.1 = some pair.2 := Keyed.get?_of_mem h.distinct member
    rw [renamedPair, if_neg, if_neg]
    · intro same
      rw [same] at here
      cases free.symm.trans here
    · intro same
      rw [same, found] at here
      exact other (Option.some.inj here ▸ isPlayer)
  · intro pair _ unfit moved given
    rw [renamedPair] at given
    split_ifs at given
    · exact Option.some.inj given ▸ other
    · exact Option.some.inj given ▸ unfit

theorem pc?_replaceReferences (player : s.pc? = some pc) (old new : String)
    (holders : Option (List String)) :
    (Skill.replaceReferences s old new holders).1.pc? =
      some (Skill.renamedHolder holders old new pc) := by
  have known : (Skill.replaceReferences s old new holders).1.knownEntities.values =
      s.knownEntities.values.map (Skill.renamedHolder holders old new) := by
    change (s.knownEntities.map _).map _ = (s.knownEntities.map _).map _
    rw [List.map_map, List.map_map]
    rfl
  have kinds : (fun e : Entity => decide (e.kind = .pc)) ∘ Skill.renamedHolder holders old new =
      fun e => decide (e.kind = .pc) :=
    funext fun e => congrArg (decide <| · = EntityKind.pc) (Skill.renamedHolder_kind e)
  rw [pc?, known, List.find?_map, kinds, ← pc?, player, Option.map_some]

theorem pc?_addToHolder (player : s.pc? = some pc) (h : s.WellKeyed) (skill : String) :
    (Skill.addToHolder s pc.name skill).1.pc? = some (Skill.taught skill pc) := by
  have name : (Skill.taught skill pc).name = pc.name := pc.withSkills_name _
  have kind : (Skill.taught skill pc).kind = pc.kind := pc.withSkills_kind _
  have known : (Skill.addToHolder s pc.name skill).1.knownEntities =
      (s.put (Skill.taught skill pc)).knownEntities := by
    rw [Skill.addToHolder_known, find?_pc h player]
    change _ = s.knownEntities.put (Skill.taught skill pc).name _
    rw [name]
  rw [pc?, known]
  exact pc?_put_self player h (kind.trans (pc?_eq_some player).2) name

end GameState

/-! ### Synchronization -/

open Skill (Settles Settled)
open Entity (StandsAs)

theorem Settles.leads (step : Settles s t) (h : s.WellKeyed) (player : s.pc? = some pc) :
    ∃ later, t.pc? = some later ∧ later.name = pc.name ∧ later.StandsAs pc := by
  have same : pc.StandsAs pc := ⟨rfl, rfl, rfl⟩
  cases step with
  | rewrite old new holders =>
    exact ⟨_, GameState.pc?_replaceReferences player old new holders, Skill.renamedHolder_name pc,
      Skill.renamedHolder_standsAs holders old new pc⟩
  | @beside e free skill =>
    refine ⟨pc, GameState.pc?_put_other player h (by rw [skill]; decide) fun equal => ?_, rfl, same⟩
    have known := GameState.find?_pc h player
    rw [← equal, free] at known
    exact nomatch known
  | forward found skill free =>
    exact ⟨pc, GameState.pc?_renameEntity player h found (by rw [skill]; decide) free, rfl, same⟩

/-- Synchronization leaves the player in place, with the same kind, experience and realm. -/
theorem Settled.leads (run : Settled s t) (h : s.WellKeyed) (player : s.pc? = some pc) :
    ∃ later, t.pc? = some later ∧ later.name = pc.name ∧ later.StandsAs pc := by
  induction run with
  | refl => exact ⟨pc, player, rfl, rfl, rfl, rfl⟩
  | tail before step ih =>
    obtain ⟨mid, present, name, stands⟩ := ih
    obtain ⟨later, last, named, same⟩ :=
      Settles.leads step (Skill.Settled.wellKeyed before h) present
    exact ⟨later, last, named.trans name, same.kind.trans stands.kind,
      same.exp.trans stands.exp, same.realm.trans stands.realm⟩

end Gamebook
