import Mathlib.Data.List.Nodup
import Gamebook.Proofs.Keyed
import Gamebook.Skill.Holders

/-!
Known entities under their own names. The map of known entities has each name once, and under it the
entity of that name; what changes the map keeps it so. Each change is also told by what is found
under a name afterwards.
-/

namespace Gamebook

/-- Entities under their own names, each name once. -/
structure ByName (known : Keyed Entity) : Prop where
  distinct : known.keys.Nodup
  named : ∀ pair ∈ known, pair.2.name = pair.1

instance (known : Keyed Entity) : Decidable (ByName known) :=
  decidable_of_iff (known.keys.Nodup ∧ ∀ pair ∈ known, pair.2.name = pair.1)
    ⟨fun h => ⟨h.1, h.2⟩, fun h => ⟨h.distinct, h.named⟩⟩

namespace ByName

variable {known : Keyed Entity} {e : Entity} {name : String}

theorem name_eq (h : ByName known) (found : known.get? name = some e) : e.name = name :=
  h.named _ (Keyed.mem_of_get? found)

theorem get?_name (h : ByName known) (member : e ∈ known.values) : known.get? e.name = some e := by
  obtain ⟨pair, listed, rfl⟩ := List.mem_map.mp member
  rw [h.named pair listed]
  exact Keyed.get?_of_mem h.distinct listed

/-- The entities with a name are what is found under it. -/
theorem filter_name (h : ByName known) (name : String) :
    known.values.filter (·.name = name) = (known.get? name).toList := by
  induction known with
  | nil => rfl
  | cons pair known ih =>
    obtain ⟨new, distinct⟩ := List.nodup_cons.mp h.distinct
    have named : pair.2.name = pair.1 := h.named pair List.mem_cons_self
    have rest := ih ⟨distinct, fun later member => h.named later (List.mem_cons_of_mem pair member)⟩
    rw [Keyed.values] at rest ⊢
    rw [List.map_cons, List.filter_cons, Keyed.get?_cons, named, rest]
    by_cases here : pair.1 = name
    · rw [if_pos (decide_eq_true here), if_pos here, Keyed.get?_eq_none.mpr (here ▸ new)]
      rfl
    · rw [if_neg (by simpa using here), if_neg here]

theorem put (h : ByName known) (e : Entity) : ByName (known.put e.name e) where
  distinct := Keyed.nodup_put h.distinct e.name e
  named pair member := by
    rcases Keyed.mem_put member with rfl | old
    · rfl
    · exact h.named pair old

theorem erase (h : ByName known) (name : String) : ByName (known.erase name) where
  distinct := Keyed.nodup_erase h.distinct name
  named pair member := h.named pair (List.mem_of_mem_filter member)

theorem concat (h : ByName known) (new : e.name ∉ known.keys) :
    ByName (known ++ [(e.name, e)]) where
  distinct := by
    rw [Keyed.keys, List.map_append]
    exact List.concat_eq_append ▸ h.distinct.concat new
  named pair member := by
    rcases List.mem_append.mp member with old | last
    · exact h.named pair old
    · rw [List.mem_singleton.mp last]

theorem map (h : ByName known) {f : Entity → Entity} (keeps : ∀ e, (f e).name = e.name) :
    ByName (known.map fun pair => (pair.1, f pair.2)) where
  distinct := by
    rw [Keyed.keys_map]
    exact h.distinct
  named pair member := by
    obtain ⟨old, listed, rfl⟩ := List.mem_map.mp member
    exact (keeps old.2).trans (h.named old listed)

end ByName

/-! ### Renaming -/

section Renaming

variable {known : Keyed Entity} {old name : String} {e : Entity}

/-- Where a renamed entity goes: to the place of its old name. -/
def renamedPair (old : String) (e : Entity) (pair : String × Entity) : Option (String × Entity) :=
  if pair.1 = old then some (e.name, e) else if pair.1 = e.name then none else some pair

theorem renameKnown_eq (old : String) (e : Entity) (known : Keyed Entity) :
    renameKnown old e known =
      if known.has old then known.filterMap (renamedPair old e)
      else known.filterMap (renamedPair old e) ++ [(e.name, e)] := rfl

theorem get?_renamed_name (present : known.has old = true) :
    Keyed.get? (known.filterMap (renamedPair old e)) e.name = some e := by
  induction known with
  | nil => exact nomatch present
  | cons pair known ih =>
    rw [List.filterMap_cons, renamedPair]
    by_cases here : pair.1 = old
    · rw [if_pos here]
      exact if_pos rfl
    · have later : Keyed.has known old = true := by
        rwa [Keyed.has, Keyed.get?_cons, if_neg here] at present
      rw [if_neg here]
      split_ifs with taken
      · exact ih later
      · exact (if_neg taken).trans (ih later)

theorem get?_renamed_of_ne (h : name ≠ e.name) :
    Keyed.get? (known.filterMap (renamedPair old e)) name =
      if name = old then none else known.get? name := by
  induction known with
  | nil => exact (ite_self _).symm
  | cons pair known ih =>
    rw [List.filterMap_cons, renamedPair, Keyed.get?_cons]
    by_cases here : pair.1 = old
    · rw [if_pos here]
      refine (if_neg h.symm).trans (ih.trans ?_)
      split_ifs with asked same
      · rfl
      · exact absurd (same.symm.trans here) asked
      · rfl
    · rw [if_neg here]
      by_cases taken : pair.1 = e.name
      · -- What had the new name is left out, and that is not the name asked for.
        have other : pair.1 ≠ name := fun same => h (same.symm.trans taken)
        rw [if_pos taken, if_neg other]
        exact ih
      · rw [if_neg taken]
        refine (Keyed.get?_cons pair _ name).trans ?_
        rw [ih]
        split_ifs with same asked
        · exact absurd (same.trans asked) here
        all_goals rfl

theorem renamed_of_absent (absent : ¬known.has old) :
    known.filterMap (renamedPair old e) = known.erase e.name := by
  induction known with
  | nil => rfl
  | cons pair known ih =>
    have apart : pair.1 ≠ old ∧ ¬Keyed.has known old := by
      rw [Keyed.has_iff, Keyed.keys_cons, List.mem_cons, not_or] at absent
      exact ⟨absent.1 ∘ Eq.symm, fun later => absent.2 (Keyed.has_iff.mp later)⟩
    rw [List.filterMap_cons, renamedPair, if_neg apart.1, Keyed.erase, List.filter_cons]
    by_cases taken : pair.1 = e.name
    · simpa [taken, Keyed.erase] using ih apart.2
    · simpa [taken, Keyed.erase] using ih apart.2

theorem get?_renameKnown (old : String) (e : Entity) (known : Keyed Entity) (name : String) :
    Keyed.get? (renameKnown old e known) name =
      if name = e.name then some e else if name = old then none else known.get? name := by
  rw [renameKnown_eq]
  by_cases present : known.has old
  · rw [if_pos present]
    by_cases named : name = e.name
    · rw [if_pos named, named, get?_renamed_name present]
    · rw [if_neg named, get?_renamed_of_ne named]
  · have missing : known.get? old = none :=
      Option.not_isSome_iff_eq_none.mp present
    rw [if_neg present, renamed_of_absent present, Keyed.get?_append]
    by_cases named : name = e.name
    · rw [if_pos named, named, Keyed.get?_erase_self, Option.none_or]
      exact if_pos rfl
    · rw [if_neg named, Keyed.get?_erase_of_ne (Ne.symm named)]
      split_ifs with asked
      · rw [asked, missing, Option.none_or]
        exact if_neg (Ne.symm (asked ▸ named))
      · exact (congrArg _ (if_neg (Ne.symm named))).trans Option.or_none

theorem keys_renamed (old : String) (e : Entity) (known : Keyed Entity) :
    Keyed.keys (known.filterMap (renamedPair old e)) = known.keys.filterMap fun key =>
      if key = old then some e.name else if key = e.name then none else some key := by
  rw [Keyed.keys, Keyed.keys, List.map_filterMap, List.filterMap_map]
  congr 1
  funext pair
  rw [renamedPair, Function.comp_apply]
  split_ifs <;> rfl

theorem ByName.renameKnown (h : ByName known) (old : String) (e : Entity) :
    ByName (renameKnown old e known) := by
  rw [renameKnown_eq]
  split_ifs with present
  · constructor
    · rw [keys_renamed]
      refine h.distinct.filterMap fun key other name first second => ?_
      simp only [Option.mem_def] at first second
      split_ifs at first second <;> simp_all
    · intro pair member
      obtain ⟨source, listed, renamed⟩ := List.mem_filterMap.mp member
      rw [renamedPair] at renamed
      split_ifs at renamed
      · obtain rfl := Option.some.inj renamed
        rfl
      · obtain rfl := Option.some.inj renamed
        exact h.named source listed
  · rw [renamed_of_absent present]
    exact (h.erase e.name).concat (Keyed.get?_eq_none.mp (Keyed.get?_erase_self known e.name))

end Renaming

/-! ### States -/

namespace Entity

/-- The entity under another name. -/
def called (e : Entity) (name : String) : Entity := { e with name }

@[simp] theorem withSkills_name (e : Entity) (names : List String) :
    (e.withSkills names).name = e.name := by
  rw [withSkills]
  split_ifs <;> rfl

@[simp] theorem withSkills_kind (e : Entity) (names : List String) :
    (e.withSkills names).kind = e.kind := by
  rw [withSkills]
  split_ifs <;> rfl

theorem withSkills_skillNames (e : Entity) : e.withSkills e.skillNames = e := by
  rw [withSkills, skillNames]
  split_ifs <;> rfl

end Entity

namespace Skill

variable {holders : Option (List String)} {old new : String} {e renamed : Entity}

theorem renameFor_name (h : renameFor holders old new e = some renamed) :
    renamed.name = e.name := by
  rw [renameFor] at h
  split_ifs at h
  obtain ⟨names, -, rfl⟩ := Option.map_eq_some_iff.mp h
  exact e.withSkills_name names

theorem renameFor_kind (h : renameFor holders old new e = some renamed) :
    renamed.kind = e.kind := by
  rw [renameFor] at h
  split_ifs at h
  obtain ⟨names, -, rfl⟩ := Option.map_eq_some_iff.mp h
  exact e.withSkills_kind names

/-- A party member after a skill was renamed. -/
def renamedMember (holders : Option (List String)) (old new : String) (e : Entity) : Entity :=
  (renameFor holders old new e).getD e

/-- A known entity after a skill was renamed. -/
def renamedHolder (holders : Option (List String)) (old new : String) (e : Entity) : Entity :=
  (renameKnownHolder holders old new e).getD e

theorem renamedMember_name (e : Entity) : (renamedMember holders old new e).name = e.name := by
  rw [renamedMember]
  cases h : renameFor holders old new e with
  | none => rfl
  | some renamed => exact renameFor_name h

theorem renamedMember_kind (e : Entity) : (renamedMember holders old new e).kind = e.kind := by
  rw [renamedMember]
  cases h : renameFor holders old new e with
  | none => rfl
  | some renamed => exact renameFor_kind h

/-- Known characters follow as party members do; no other known entity holds skills. -/
theorem renamedHolder_eq (e : Entity) : renamedHolder holders old new e =
    if e.isCharacter then renamedMember holders old new e else e := by
  rw [renamedHolder, renameKnownHolder, renamedMember]
  split_ifs <;> rfl

theorem renamedHolder_name (e : Entity) : (renamedHolder holders old new e).name = e.name := by
  rw [renamedHolder_eq]
  split_ifs
  · exact renamedMember_name e
  · rfl

theorem renamedHolder_kind (e : Entity) : (renamedHolder holders old new e).kind = e.kind := by
  rw [renamedHolder_eq]
  split_ifs
  · exact renamedMember_kind e
  · rfl

end Skill

namespace GameState

variable {s : GameState} {e : Entity}

/-- Whether the known entities stand under their own names, each name once. -/
def WellKeyed (s : GameState) : Prop := ByName s.knownEntities

instance (s : GameState) : Decidable s.WellKeyed := inferInstanceAs (Decidable (ByName _))

theorem find?_put (s : GameState) (e : Entity) (name : String) :
    (s.put e).find? name = if e.name = name then some e else s.find? name :=
  Keyed.get?_put s.knownEntities e.name e name

theorem find?_rename (s : GameState) (old : String) (e : Entity) (name : String) :
    (s.rename old e).find? name =
      if name = e.name then some e else if name = old then none else s.find? name :=
  get?_renameKnown old e s.knownEntities name

theorem find?_forget (s : GameState) (forgotten name : String) :
    (s.forget forgotten).find? name = if name = forgotten then none else s.find? name := by
  split_ifs with same
  · rw [same]
    exact Keyed.get?_erase_self s.knownEntities forgotten
  · exact Keyed.get?_erase_of_ne (Ne.symm same)

theorem find?_replaceReferences (s : GameState) (old new : String)
    (holders : Option (List String)) (name : String) :
    (Skill.replaceReferences s old new holders).1.find? name =
      (s.find? name).map (Skill.renamedHolder holders old new) :=
  Keyed.get?_map (Skill.renamedHolder holders old new) s.knownEntities name

namespace WellKeyed

theorem name_eq (h : s.WellKeyed) {name : String} (found : s.find? name = some e) :
    e.name = name :=
  ByName.name_eq h found

theorem find?_name (h : s.WellKeyed) (member : e ∈ s.knownEntities.values) :
    s.find? e.name = some e :=
  ByName.get?_name h member

theorem filter_name (h : s.WellKeyed) (name : String) :
    s.knownEntities.values.filter (·.name = name) = (s.find? name).toList :=
  ByName.filter_name h name

theorem nodup_names (h : s.WellKeyed) : (s.knownEntities.values.map (·.name)).Nodup := by
  have names : s.knownEntities.values.map (·.name) = s.knownEntities.keys := by
    rw [Keyed.values, Keyed.keys, List.map_map]
    exact List.map_congr_left fun pair member => h.named pair member
  rw [names]
  exact h.distinct

theorem put (h : s.WellKeyed) (e : Entity) : (s.put e).WellKeyed := ByName.put h e

theorem putKnown (h : s.WellKeyed) (e : Entity) : (s.putKnown e.name e).WellKeyed := ByName.put h e

theorem forget (h : s.WellKeyed) (name : String) : (s.forget name).WellKeyed := ByName.erase h name

theorem rename (h : s.WellKeyed) (old : String) (e : Entity) : (s.rename old e).WellKeyed :=
  ByName.renameKnown h old e

theorem replaceReferences (h : s.WellKeyed) (old new : String) (holders : Option (List String)) :
    (Skill.replaceReferences s old new holders).1.WellKeyed :=
  ByName.map h (f := Skill.renamedHolder holders old new) Skill.renamedHolder_name

end WellKeyed

/-- A renamed skill takes the place of its old name, as any renamed entity does. -/
theorem renameEntity_known (h : s.WellKeyed) {old : String} (found : s.find? old = some e)
    (new : String) : (Skill.renameEntity s old new).knownEntities =
      renameKnown old (e.called new) s.knownEntities := by
  have present : s.knownEntities.has old = true := Option.isSome_iff_exists.mpr ⟨e, found⟩
  rw [renameKnown_eq, if_pos present]
  refine List.filterMap_congr fun (key, held) member => ?_
  rw [renamedPair]
  by_cases here : key = old
  · have same : s.find? key = some held := Keyed.get?_of_mem h.distinct member
    obtain rfl := Option.some.inj ((here ▸ same).symm.trans found)
    exact (if_pos here).trans (if_pos here).symm
  · rw [if_neg here]
    exact if_neg here

end GameState

end Gamebook
