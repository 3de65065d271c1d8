import Gamebook.Proofs.Cast.Party
import Gamebook.Proofs.Distinct
import Gamebook.Proofs.Skill.Name

/-!
The skill names that characters hold. A name rests on the known skills if it is the name of one, or if
nothing is known under it and a known skill shares its base name. What renames, teaches, stores and
forgets skills is told by the names that are held afterwards. Names that differ in case and outer blanks
only are of one base name and one rank, so where no other spelling of a name is listed a merge lists the
name, and takes none away.
-/

namespace Gamebook

open Skill Text

variable {s : GameState} {e : Entity} {name holder old new : String} {holders : Option (List String)}

/-! ### Lists of names -/

theorem mem_of_replace {names : List String} (member : name ∈ names.replace old new) :
    name ∈ names ∨ name = new := by
  induction names with
  | nil => exact nomatch member
  | cons first names ih =>
    rw [List.replace_cons] at member
    split at member
    · exact (List.mem_cons.mp member).symm.imp_left (List.mem_cons_of_mem first)
    · rcases List.mem_cons.mp member with rfl | later
      · exact .inl List.mem_cons_self
      · exact (ih later).imp_left (List.mem_cons_of_mem first)

namespace Skill

theorem foldl_listOnce (names more : List String) :
    more.foldl listOnce names = keepFrom (fun seen x => decide (x ∈ seen)) names more := by
  simp only [keepFrom, decide_eq_true_eq]
  rfl

@[simp] theorem skillNames_withSkills (e : Entity) (names : List String) :
    (e.withSkills names).skillNames = names := by
  rw [Entity.skillNames, Entity.withSkills_kind, Entity.withSkills]
  split_ifs <;> rfl

/-- A merged name is an old one, or the new one without outer blanks. -/
theorem mem_merge {names : List String} (member : name ∈ (merge names [new]).skills) :
    name ∈ names ∨ name = trim new := by
  rw [merge, List.foldl_cons, List.foldl_nil, Merge.step] at member
  have added (m : Merge) (present : name ∈ (m.add (trim new)).skills) :
      name ∈ m.skills ∨ name = trim new := by
    rw [Merge.add] at present
    split_ifs at present
    · exact .inl present
    · exact (List.mem_append.mp present).imp_right List.mem_singleton.mp
  dsimp only at member
  split_ifs at member
  · exact .inl member
  · split at member
    · exact added _ member
    · split_ifs at member
      · exact added _ member
      · exact mem_of_replace member
      · exact .inl member
      · exact added _ member

theorem mem_taught (member : name ∈ (taught new e).skillNames) :
    name ∈ e.skillNames ∨ name = trim new := by
  rw [taught, skillNames_withSkills] at member
  exact mem_merge member

/-- A renamed list holds the other names, and the new one if the old one was renamed. -/
theorem mem_renamedMember
    (member : name ∈ (renamedMember holders old new e).skillNames) :
    name ∈ e.skillNames ∧ (name = old → admits holders e.name = false) ∨
      name = new ∧ old ∈ e.skillNames ∧ admits holders e.name = true := by
  rw [renamedMember, renameFor] at member
  cases admitted : admits holders e.name with
  | false =>
    rw [admitted] at member
    exact .inl ⟨member, fun _ => rfl⟩
  | true =>
    rw [admitted, if_pos rfl, replaceIn] at member
    split_ifs at member with held
    · rw [Option.map_some, Option.getD_some, skillNames_withSkills] at member
      obtain ⟨source, listed, renamed⟩ := List.mem_map.mp (mem_distinct_iff.mp member)
      split_ifs at renamed with here
      · exact .inr ⟨renamed.symm, held, rfl⟩
      · exact .inl ⟨renamed ▸ listed, fun same => absurd (renamed.trans same) here⟩
    · exact .inl ⟨member, fun same => absurd (same ▸ member) held⟩

theorem mem_renamedHolder (character : e.isCharacter = true)
    (member : name ∈ (renamedHolder holders old new e).skillNames) :
    name ∈ e.skillNames ∧ (name = old → admits holders e.name = false) ∨
      name = new ∧ old ∈ e.skillNames ∧ admits holders e.name = true := by
  rw [renamedHolder_eq, if_pos character] at member
  exact mem_renamedMember member

theorem renamedHolder_isCharacter (e : Entity) :
    (renamedHolder holders old new e).isCharacter = e.isCharacter := by
  rw [Entity.isCharacter, renamedHolder_kind]
  rfl

end Skill

/-! ### Holding -/

namespace GameState

/-- Whether the known character of a name holds a skill name. -/
def HeldBy (s : GameState) (holder name : String) : Prop :=
  ∃ e, s.find? holder = some e ∧ e.isCharacter = true ∧ name ∈ e.skillNames

/-- Whether some known character holds a skill name. -/
def Holds (s : GameState) (name : String) : Prop := ∃ holder, s.HeldBy holder name

/-- Whether every skill name that a character holds, known or in the party, is that of a known
skill. -/
def SkillsKnown (s : GameState) : Prop :=
  ∀ name, isHeld s name = true → s.kindOf? name = some .skill

/-- Whether a name is that of a known skill, or is free and shares its base name with one. -/
def Rests (s : GameState) (name : String) : Prop :=
  s.kindOf? name = some .skill ∨
    s.kindOf? name = none ∧ ∃ other, s.kindOf? other = some .skill ∧ baseName other = baseName name

/-- Whether every held skill name rests on the known skills, in a game with names for all known
entities and without doubles in the party. -/
structure Sustained (s : GameState) : Prop extends s.Mirrored where
  named : s.find? "" = none
  rests : ∀ name, s.Holds name → s.Rests name

theorem kindOf?_eq_none : s.kindOf? name = none ↔ s.find? name = none := Option.map_eq_none_iff

theorem Holds.isHeld (h : s.Holds name) : isHeld s name = true := by
  obtain ⟨holder, e, found, character, held⟩ := h
  exact List.any_eq_true.mpr ⟨e, List.mem_append_left _ (Keyed.mem_values found),
    by simp [character, held]⟩

/-- The party holds no other names than the known characters. -/
theorem Mirrored.holds (h : s.Mirrored) (held : isHeld s name = true) : s.Holds name := by
  obtain ⟨e, listed, holds⟩ := List.any_eq_true.mp held
  obtain ⟨character, member⟩ := Bool.and_eq_true_iff.mp holds
  refine ⟨e.name, e, ?_, character, of_decide_eq_true member⟩
  rcases List.mem_append.mp listed with known | partner
  · exact h.keyed.find?_name known
  · exact h.copies e partner character

theorem SkillsKnown.sustained (h : s.SkillsKnown) (inStep : s.InStep) (named : s.find? "" = none) :
    s.Sustained where
  toMirrored := inStep.mirrored
  named := named
  rests name holds := .inl (h name holds.isHeld)

theorem HeldBy.of_put (thing : e.isCharacter = false) (h : (s.put e).HeldBy holder name) :
    s.HeldBy holder name := by
  obtain ⟨bearer, found, character, held⟩ := h
  rw [find?_put] at found
  split_ifs at found
  · obtain rfl := Option.some.inj found
    exact nomatch thing.symm.trans character
  · exact ⟨bearer, found, character, held⟩

theorem HeldBy.of_forget {forgotten : String} (h : (s.forget forgotten).HeldBy holder name) :
    s.HeldBy holder name := by
  obtain ⟨bearer, found, character, held⟩ := h
  rw [find?_forget] at found
  split_ifs at found
  exact ⟨bearer, found, character, held⟩

/-- Among those for whom a skill is renamed, nobody holds the old name any more. -/
theorem HeldBy.of_replaceReferences (keyed : s.WellKeyed)
    (h : (replaceReferences s old new holders).1.HeldBy holder name) :
    s.HeldBy holder name ∧ (name = old → admits holders holder = false) ∨
      name = new ∧ s.HeldBy holder old := by
  obtain ⟨bearer, found, character, held⟩ := h
  rw [find?_replaceReferences] at found
  obtain ⟨source, before, rfl⟩ := Option.map_eq_some_iff.mp found
  rw [renamedHolder_isCharacter] at character
  rcases mem_renamedHolder character held with ⟨kept, spared⟩ | ⟨renamed, replaced, -⟩
  · exact .inl ⟨⟨source, before, character, kept⟩, fun same => keyed.name_eq before ▸ spared same⟩
  · exact .inr ⟨renamed, source, before, character, replaced⟩

theorem HeldBy.of_addToHolder {learner skill : String}
    (h : (addToHolder s learner skill).1.HeldBy holder name) :
    s.HeldBy holder name ∨ name = trim skill := by
  obtain ⟨bearer, found, character, held⟩ := h
  rw [find?_addToHolder] at found
  split_ifs at found
  · obtain ⟨source, before, rfl⟩ := Option.map_eq_some_iff.mp found
    rw [Entity.isCharacter, taught, Entity.withSkills_kind] at character
    exact (mem_taught held).imp_left fun kept => ⟨source, before, character, kept⟩
  · exact .inl ⟨bearer, found, character, held⟩

theorem HeldBy.of_renameEntity (keyed : s.WellKeyed) (found : s.find? e.name = some e)
    (thing : e.isCharacter = false) (h : (renameEntity s e.name new).HeldBy holder name) :
    s.HeldBy holder name := by
  obtain ⟨bearer, here, character, held⟩ := h
  rw [find?_renameEntity keyed found] at here
  split_ifs at here
  · obtain rfl := Option.some.inj here
    exact nomatch thing.symm.trans character
  · exact ⟨bearer, here, character, held⟩

end GameState

namespace Skill

variable {a b : String} {names : List String}

/-! ### Other spellings -/

theorem sameName_comm : sameName a b = sameName b a := Bool.beq_comm

theorem sameName_trim (a b : String) : sameName (trim a) (trim b) = sameName a b := by
  rw [sameName, sameName, trim_trim, trim_trim]

theorem baseName_of_lower (same : lower a = lower b) : baseName a = baseName b := by
  rw [baseName, baseName, baseChars, baseChars, String.ofList_injective same]

theorem baseName_of_sameName (same : sameName a b = true) : baseName a = baseName b := by
  rw [← baseName_trim a, ← baseName_trim b]
  exact baseName_of_lower (beq_iff_eq.mp same)

theorem rank_of_sameName (same : sameName a b = true) : rank a = rank b := by
  have lowered : lower (trim a) = lower (trim b) := beq_iff_eq.mp same
  rw [← rank_trim a, ← rank_trim b, rank, rank, lowered]

/-! ### Merging -/

/-- A name that is neither outranked nor outranks anything is added unless it is listed. -/
theorem step_of_level (trimmed : trim new = new) (filled : isPlaceholder new = false) {m : Merge}
    (level : ∀ held ∈ m.skills, baseName held = baseName new → rank held = rank new) :
    m.step new = m.add new := by
  rw [Merge.step, trimmed, if_neg (Bool.eq_false_iff.mp filled)]
  split
  · rfl
  · rename_i held found
    have shared := List.find?_some found
    have same := level held (List.mem_of_find?_eq_some found) (of_decide_eq_true shared)
    split_ifs <;> first | rfl | omega

theorem mem_merge_iff (trimmed : trim new = new) (filled : isPlaceholder new = false)
    (level : ∀ held ∈ names, baseName held = baseName new → rank held = rank new)
    (apart : ∀ held ∈ names, sameName held new = true → held = new) :
    name ∈ (merge names [new]).skills ↔ name ∈ names ∨ name = new := by
  rw [merge, List.foldl_cons, List.foldl_nil, step_of_level trimmed filled level, Merge.add]
  split_ifs with listed
  · obtain ⟨held, member, same⟩ := List.any_eq_true.mp listed
    have present : new ∈ names := apart held member same ▸ member
    exact ⟨.inl, fun either => either.elim id (· ▸ present)⟩
  · exact List.mem_append.trans (or_congr_right List.mem_singleton)

theorem mem_taught_iff (trimmed : trim new = new) (filled : isPlaceholder new = false)
    (level : ∀ held ∈ e.skillNames, baseName held = baseName new → rank held = rank new)
    (apart : ∀ held ∈ e.skillNames, sameName held new = true → held = new) :
    name ∈ (taught new e).skillNames ↔ name ∈ e.skillNames ∨ name = new := by
  rw [taught, skillNames_withSkills]
  exact mem_merge_iff trimmed filled level apart

end Skill

end Gamebook
