import Gamebook.Proofs.Skill.Holding

/-!
Renaming a skill for those who hold it. In every list with the old name the new one takes its place,
once, and the other names stay in the order in which they first came; all else about the holders, and
everybody else, stays as it was. The names that are reported are those of the holders of the old name.
-/

namespace Gamebook

namespace Skill

variable {holders : Option (List String)} {old new name : String} {e : Entity}

/-- A list after one name took the place of another. -/
structure Renames (old new : String) (names renamed : List String) : Prop where
  gone : old ∉ renamed
  once : renamed.count new = 1
  others : renamed.filter (· ≠ new) = (names.filter fun name => name ≠ old ∧ name ≠ new).eraseDups

theorem filter_replaced (apart : old ≠ new) (names : List String) :
    (names.map fun name => if name = old then new else name).filter (· ≠ new) =
      names.filter fun name => name ≠ old ∧ name ≠ new := by
  induction names with
  | nil => rfl
  | cons name names ih =>
    rw [List.map_cons, List.filter_cons, List.filter_cons, ih]
    by_cases here : name = old <;> by_cases there : name = new <;> simp_all

theorem replaceIn_renames (apart : old ≠ new) {names renamed : List String}
    (done : replaceIn names old new = some renamed) : Renames old new names renamed := by
  rw [replaceIn] at done
  split_ifs at done with held
  obtain rfl := Option.some.inj done
  constructor
  · intro listed
    obtain ⟨name, -, replaced⟩ := List.mem_map.mp (Text.mem_distinct_iff.mp listed)
    split_ifs at replaced with here
    · exact apart replaced.symm
    · exact here replaced
  · apply List.count_eq_one_of_mem (Text.nodup_distinct _)
    exact Text.mem_distinct_iff.mpr (List.mem_map.mpr ⟨old, held, if_pos rfl⟩)
  · rw [Text.distinct_eq_eraseDups, filter_eraseDups, filter_replaced apart]

theorem isSome_renameFor : (renameFor holders old new e).isSome ↔
    admits holders e.name = true ∧ old ∈ e.skillNames := by
  rw [renameFor, replaceIn]
  split_ifs <;> simp_all

theorem isSome_renameKnownHolder : (renameKnownHolder holders old new e).isSome ↔
    e.isCharacter = true ∧ admits holders e.name = true ∧ old ∈ e.skillNames := by
  rw [renameKnownHolder]
  split_ifs with character
  · rw [isSome_renameFor, and_iff_right character]
  · simp [character]

/-- A holder after a skill was renamed: nothing but the list of names changes, and that only where the
old name was in it. -/
structure Follows (old new : String) (e renamed : Entity) : Prop where
  record : renamed = e.withSkills renamed.skillNames
  list : old ∈ e.skillNames → Renames old new e.skillNames renamed.skillNames
  spared : old ∉ e.skillNames → renamed = e

theorem Follows.forgets {renamed : Entity} (h : Follows old new e renamed) :
    old ∉ renamed.skillNames := by
  by_cases held : old ∈ e.skillNames
  · exact (h.list held).gone
  · rwa [h.spared held]

theorem renamedMember_follows (apart : old ≠ new) (admitted : admits holders e.name = true) :
    Follows old new e (renamedMember holders old new e) := by
  rw [renamedMember, renameFor, if_pos admitted]
  cases done : replaceIn e.skillNames old new with
  | none =>
    have missing : old ∉ e.skillNames := fun held => by simp [replaceIn, held] at done
    exact ⟨e.withSkills_skillNames.symm, fun held => absurd held missing, fun _ => rfl⟩
  | some names =>
    have held : old ∈ e.skillNames := by
      by_contra missing
      simp [replaceIn, missing] at done
    rw [Option.map_some, Option.getD_some]
    refine ⟨?_, fun _ => ?_, fun missing => absurd held missing⟩
    · rw [skillNames_withSkills]
    · rw [skillNames_withSkills]
      exact replaceIn_renames apart done

theorem renamedMember_of_barred (barred : ¬admits holders e.name = true) :
    renamedMember holders old new e = e := by
  rw [renamedMember, renameFor, if_neg barred, Option.getD_none]

end Skill

namespace GameState

open Skill

variable {s : GameState} {holders : Option (List String)} {old new : String}

/-- All who may hold skills: the known characters and the party members. -/
def skillHolders (s : GameState) : List Entity :=
  s.knownEntities.values.filter (·.isCharacter) ++ s.party

/-- A state after a skill was renamed for the holders that a restriction admits. -/
structure Renamed (holders : Option (List String)) (old new : String) (s t : GameState) : Prop where
  known : List.Forall₂ (fun before after => after.1 = before.1 ∧
    if before.2.isCharacter ∧ admits holders before.2.name then Follows old new before.2 after.2
    else after.2 = before.2) s.knownEntities t.knownEntities
  party : List.Forall₂ (fun before after =>
    if admits holders before.name then Follows old new before after else after = before)
    s.party t.party
  rest : t = { s with knownEntities := t.knownEntities, party := t.party }

theorem renamed_replaceReferences (s : GameState) (holders : Option (List String))
    (apart : old ≠ new) : s.Renamed holders old new (replaceReferences s old new holders).1 where
  known := by
    refine List.forall₂_map_right_iff.mpr (List.forall₂_same.mpr fun pair _ => ⟨rfl, ?_⟩)
    change if _ then Follows old new pair.2 (renamedHolder holders old new pair.2) else
      renamedHolder holders old new pair.2 = pair.2
    rw [renamedHolder_eq]
    by_cases character : pair.2.isCharacter = true
    · rw [if_pos character]
      split_ifs with admitted
      · exact renamedMember_follows apart admitted.2
      · exact renamedMember_of_barred fun admitted' => admitted ⟨character, admitted'⟩
    · rw [if_neg character, if_neg fun admitted => character admitted.1]
  party := by
    refine List.forall₂_map_right_iff.mpr (List.forall₂_same.mpr fun e _ => ?_)
    split_ifs with admitted
    · exact renamedMember_follows apart admitted
    · exact renamedMember_of_barred admitted
  rest := rfl

theorem forgets_renamedMember {e : Entity} (apart : old ≠ new)
    (admitted : admits holders (renamedMember holders old new e).name = true) :
    old ∉ (renamedMember holders old new e).skillNames := by
  rw [renamedMember_name] at admitted
  exact (renamedMember_follows apart admitted).forgets

theorem forgets_replaceReferences (apart : old ≠ new) {e : Entity}
    (holder : e ∈ (replaceReferences s old new holders).1.skillHolders)
    (admitted : admits holders e.name = true) : old ∉ e.skillNames := by
  rcases List.mem_append.mp holder with known | partner
  · obtain ⟨listed, character⟩ := List.mem_filter.mp known
    obtain ⟨_, member, rfl⟩ := List.mem_map.mp listed
    obtain ⟨pair, -, rfl⟩ := List.mem_map.mp member
    change (renamedHolder holders old new pair.2).isCharacter = true at character
    change admits holders (renamedHolder holders old new pair.2).name = true at admitted
    change old ∉ (renamedHolder holders old new pair.2).skillNames
    rw [renamedHolder_isCharacter] at character
    rw [renamedHolder_eq, if_pos character] at admitted ⊢
    exact forgets_renamedMember apart admitted
  · obtain ⟨source, -, rfl⟩ := List.mem_map.mp partner
    exact forgets_renamedMember apart admitted

theorem mem_replaceReferences {name : String} :
    name ∈ (replaceReferences s old new holders).2 ↔
      ∃ e ∈ s.skillHolders, e.name = name ∧ admits holders name = true ∧ old ∈ e.skillNames := by
  rw [replaceReferences, foldl_listOnce, mem_keepFrom_mem]
  simp only [skillHolders, List.mem_map, List.mem_filter, List.mem_append, isSome_renameFor,
    isSome_renameKnownHolder]
  constructor
  · rintro (⟨e, ⟨known, character, admitted, held⟩, rfl⟩ | ⟨e, ⟨partner, admitted, held⟩, rfl⟩)
    · exact ⟨e, .inl ⟨known, character⟩, rfl, admitted, held⟩
    · exact ⟨e, .inr partner, rfl, admitted, held⟩
  · rintro ⟨e, ⟨known, character⟩ | partner, rfl, admitted, held⟩
    · exact .inl ⟨e, ⟨known, character, admitted, held⟩, rfl⟩
    · exact .inr ⟨e, ⟨partner, admitted, held⟩, rfl⟩

theorem nodup_replaceReferences (keyed : s.WellKeyed) :
    (replaceReferences s old new holders).2.Nodup := by
  rw [replaceReferences, foldl_listOnce]
  exact nodup_keepFrom_mem (keyed.nodup_names.sublist (List.filter_sublist.map _))

end GameState

namespace Skill

open GameState

/-- Renaming a skill for the holders that a restriction admits, or for all of them, takes the old name
out of every list that has it and puts the new one in once, changes nothing else, and reports each
holder of the old name once. -/
theorem replaceReferences_renames {s : GameState} (keyed : s.WellKeyed) {old new : String}
    (apart : old ≠ new) (holders : Option (List String)) :
    s.Renamed holders old new (replaceReferences s old new holders).1 ∧
    (∀ e ∈ (replaceReferences s old new holders).1.skillHolders,
      admits holders e.name = true → old ∉ e.skillNames) ∧
    (replaceReferences s old new holders).2.Nodup ∧
    ∀ name, name ∈ (replaceReferences s old new holders).2 ↔
      ∃ e ∈ s.skillHolders, e.name = name ∧ admits holders name = true ∧ old ∈ e.skillNames :=
  ⟨renamed_replaceReferences s holders apart, fun _ => forgets_replaceReferences apart,
    nodup_replaceReferences keyed, fun _ => mem_replaceReferences⟩

/-- Somebody who holds skills. -/
def fighter (name : String) (names : List String) : Entity :=
  { name, kind := .companion, skills := names }

/-- A garrison of two, one of them in the party beside a guest whom nobody else knows. -/
def garrison : GameState where
  knownEntities :=
    [("Lan", fighter "Lan" ["Sword", "Bow", "Blade", "Sword"]), ("Minh", fighter "Minh" ["Bow"])]
  party := [fighter "Lan" ["Sword", "Bow", "Blade", "Sword"], fighter "An" ["Blade", "Sword"]]

theorem garrison_renames : garrison.WellKeyed ∧ "Sword" ≠ "Blade" ∧
    garrison.Renamed none "Sword" "Blade" (replaceReferences garrison "Sword" "Blade").1 ∧
    "An" ∈ (replaceReferences garrison "Sword" "Blade").2 ∧
    "Minh" ∉ (replaceReferences garrison "Sword" "Blade").2 ∧
    (replaceReferences garrison "Sword" "Blade").1.party =
      [fighter "Lan" ["Blade", "Bow"], fighter "An" ["Blade"]] := by
  have keyed : garrison.WellKeyed := by decide
  have apart : "Sword" ≠ "Blade" := by decide
  obtain ⟨renamed, -, -, reported⟩ := replaceReferences_renames keyed apart none
  refine ⟨keyed, apart, renamed, (reported "An").mpr ?_, ?_, rfl⟩
  · have partner : fighter "An" ["Blade", "Sword"] ∈ garrison.party :=
      List.mem_cons_of_mem _ List.mem_cons_self
    exact ⟨_, List.mem_append_right _ partner, rfl, rfl, by decide⟩
  · intro listed
    obtain ⟨e, holder, named, -, held⟩ := (reported "Minh").mp listed
    have others : ∀ e ∈ garrison.skillHolders, e.name = "Minh" → "Sword" ∉ e.skillNames := by decide
    exact others e holder named held

end Skill

end Gamebook
