import Gamebook.Proofs.Cast.Retelling
import Gamebook.Proofs.Skill.Synchronization
import Gamebook.Proofs.Tag.Recasting

/-!
The party in step with the known entities. Every character is stored twice, and what changes one
copy has to change the other. Skills are renamed for all party members but only for characters among
the known entities, so a party keeps in step only as long as its members are characters.
-/

namespace Gamebook

variable {s t : GameState} {e m : Entity} {name : String}

namespace GameState

/-- Whether the members of the party are distinct and each is the known entity of its name. -/
structure InStep (s : GameState) : Prop where
  keyed : s.WellKeyed
  distinct : (s.party.map (·.name)).Nodup
  copies : ∀ m ∈ s.party, s.find? m.name = some m

/-- Whether the members of the party are distinct and each character among them is the known entity
of its name. -/
structure Mirrored (s : GameState) : Prop where
  keyed : s.WellKeyed
  distinct : (s.party.map (·.name)).Nodup
  copies : ∀ m ∈ s.party, m.isCharacter = true → s.find? m.name = some m

theorem InStep.mirrored (h : s.InStep) : s.Mirrored :=
  ⟨h.keyed, h.distinct, fun m member _ => h.copies m member⟩

/-- A party in step, of characters only. -/
structure Company (s : GameState) : Prop extends s.InStep where
  characters : ∀ m ∈ s.party, m.isCharacter = true

theorem Mirrored.company (h : s.Mirrored) (characters : ∀ m ∈ s.party, m.isCharacter = true) :
    s.Company :=
  ⟨⟨h.keyed, h.distinct, fun m member => h.copies m member (characters m member)⟩, characters⟩

/-- Whether a name is none of a party member. -/
def Outside (s : GameState) (name : String) : Prop := ∀ m ∈ s.party, m.name ≠ name

/-- No character in the party has the name of another known entity. -/
theorem Mirrored.name_ne (h : s.Mirrored) (found : s.find? e.name = some e)
    (thing : e.isCharacter = false) : ∀ m ∈ s.party, m.isCharacter = true → m.name ≠ e.name := by
  intro m member character same
  have known := h.copies m member character
  rw [same, found] at known
  rw [Option.some.inj known] at thing
  exact nomatch thing.symm.trans character

/-- Nor has it a name that is not known at all. -/
theorem Mirrored.ne_of_free (h : s.Mirrored) (free : s.find? name = none) :
    ∀ m ∈ s.party, m.isCharacter = true → m.name ≠ name := by
  rintro m member character rfl
  exact nomatch free.symm.trans (h.copies m member character)

/-- In a company no member is anything but a character, so the names of other known entities are
outside. -/
theorem Company.outside (h : s.Company) (found : s.find? e.name = some e)
    (thing : e.isCharacter = false) : s.Outside e.name := fun m member =>
  h.mirrored.name_ne found thing m member (h.characters m member)

/-- A state with the same party, whose characters it knows as before. -/
theorem Mirrored.of_party (h : s.Mirrored) (keyed : t.WellKeyed) (party : t.party = s.party)
    (known : ∀ m ∈ s.party, m.isCharacter = true → t.find? m.name = s.find? m.name) :
    t.Mirrored where
  keyed := keyed
  distinct := party ▸ h.distinct
  copies m member character := by
    rw [party] at member
    rw [known m member character]
    exact h.copies m member character

/-- A state with the same party, whose members it knows as before. -/
theorem Company.of_party (h : s.Company) (keyed : t.WellKeyed) (party : t.party = s.party)
    (known : ∀ m ∈ s.party, t.find? m.name = s.find? m.name) : t.Company :=
  (h.mirrored.of_party keyed party fun m member _ => known m member).company fun m member =>
    h.characters m (party ▸ member)

end GameState

/-! ### Replacing members -/

theorem map_name_replaceNamed (e : Entity) (party : List Entity) :
    (replaceNamed e party).map (·.name) = party.map (·.name) := by
  induction party with
  | nil => rfl
  | cons m party ih =>
    rw [replaceNamed]
    split_ifs with same
    · rw [List.map_cons, List.map_cons, same]
    · rw [List.map_cons, List.map_cons, ih]

theorem replaceNamed_of_outside {party : List Entity} (outside : e.name ∉ party.map (·.name)) :
    replaceNamed e party = party := by
  induction party with
  | nil => rfl
  | cons m party ih =>
    obtain ⟨apart, outside⟩ := List.ne_and_not_mem_of_not_mem_cons outside
    rw [replaceNamed, if_neg (Ne.symm apart), ih outside]

theorem mem_of_replaceNamed {party : List Entity} (member : m ∈ replaceNamed e party) :
    m = e ∨ m ∈ party := by
  induction party with
  | nil => exact nomatch member
  | cons first party ih =>
    rw [replaceNamed] at member
    split_ifs at member
    · exact (List.mem_cons.mp member).imp_right (List.mem_cons_of_mem first)
    · rcases List.mem_cons.mp member with rfl | later
      · exact .inr List.mem_cons_self
      · exact (ih later).imp_right (List.mem_cons_of_mem first)

/-- Among distinct names, a member with the name of the new one is the new one. -/
theorem mem_replaceNamed {party : List Entity} (distinct : (party.map (·.name)).Nodup)
    (member : m ∈ replaceNamed e party) :
    m = e ∧ (∃ old ∈ party, old.name = e.name) ∨ m ∈ party ∧ m.name ≠ e.name := by
  induction party with
  | nil => exact nomatch member
  | cons first party ih =>
    obtain ⟨new, distinct⟩ := List.nodup_cons.mp distinct
    rw [replaceNamed] at member
    split_ifs at member with same
    · rcases List.mem_cons.mp member with rfl | later
      · exact .inl ⟨rfl, first, List.mem_cons_self, same⟩
      · exact .inr ⟨List.mem_cons_of_mem first later, fun equal =>
          new (List.mem_map.mpr ⟨m, later, equal.trans same.symm⟩)⟩
    · rcases List.mem_cons.mp member with rfl | later
      · exact .inr ⟨List.mem_cons_self, same⟩
      · rcases ih distinct later with ⟨equal, old, listed, named⟩ | ⟨listed, apart⟩
        · exact .inl ⟨equal, old, List.mem_cons_of_mem first listed, named⟩
        · exact .inr ⟨List.mem_cons_of_mem first listed, apart⟩

namespace GameState

/-- An entity is stored with its party copy. -/
theorem Mirrored.put (h : s.Mirrored) (e : Entity) : (s.put e).Mirrored where
  keyed := h.keyed.put e
  distinct := by
    refine (map_name_replaceNamed e s.party).symm ▸ h.distinct
  copies m member character := by
    rw [find?_put]
    rcases mem_replaceNamed h.distinct member with ⟨rfl, -⟩ | ⟨listed, apart⟩
    · exact if_pos rfl
    · rw [if_neg (Ne.symm apart)]
      exact h.copies m listed character

/-- In a member's place a company takes a character only. -/
theorem Company.put (h : s.Company) (character : s.Outside e.name ∨ e.isCharacter = true) :
    (s.put e).Company := by
  refine (h.mirrored.put e).company fun m member => ?_
  rcases mem_replaceNamed h.distinct member with ⟨rfl, old, listed, named⟩ | ⟨listed, -⟩
  · exact character.resolve_left fun outside => outside old listed named
  · exact h.characters m listed

theorem Mirrored.forget (h : s.Mirrored)
    (outside : ∀ m ∈ s.party, m.isCharacter = true → m.name ≠ name) : (s.forget name).Mirrored := by
  refine h.of_party (h.keyed.forget name) rfl fun m member character => ?_
  rw [find?_forget, if_neg (outside m member character)]

theorem Company.forget (h : s.Company) (outside : s.Outside name) : (s.forget name).Company :=
  (h.mirrored.forget fun m member _ => outside m member).company h.characters

/-! ### Skills -/

theorem names_replaceReferences (s : GameState) (old new : String)
    (holders : Option (List String)) :
    (Skill.replaceReferences s old new holders).1.party.map (·.name) = s.party.map (·.name) := by
  change (s.party.map (Skill.renamedMember holders old new)).map (·.name) = _
  rw [List.map_map, Function.comp_def]
  simp only [Skill.renamedMember_name]

theorem Mirrored.replaceReferences (h : s.Mirrored) (old new : String)
    (holders : Option (List String)) : (Skill.replaceReferences s old new holders).1.Mirrored where
  keyed := h.keyed.replaceReferences old new holders
  distinct := by
    rw [names_replaceReferences]
    exact h.distinct
  copies m member character := by
    obtain ⟨source, listed, rfl⟩ := List.mem_map.mp member
    change (Skill.renamedMember holders old new source).isCharacter = true at character
    change _ = some (Skill.renamedMember holders old new source)
    rw [Entity.isCharacter, Skill.renamedMember_kind] at character
    rw [find?_replaceReferences]
    change (s.find? (Skill.renamedMember holders old new source).name).map _ = _
    -- Of the known entities only characters are rewritten, as the party copies of characters are.
    rw [Skill.renamedMember_name, h.copies source listed character, Option.map_some,
      Skill.renamedHolder_eq, if_pos (show source.isCharacter = true from character)]

theorem Company.replaceReferences (h : s.Company) (old new : String)
    (holders : Option (List String)) : (Skill.replaceReferences s old new holders).1.Company := by
  refine (h.mirrored.replaceReferences old new holders).company fun m member => ?_
  obtain ⟨source, listed, rfl⟩ := List.mem_map.mp member
  change (Skill.renamedMember holders old new source).kind.isCharacter = true
  rw [Skill.renamedMember_kind]
  exact h.characters source listed

/-- Teaching changes the known entity and the party copy of one name alike. -/
theorem Mirrored.addToHolder (h : s.Mirrored) (holder skill : String) :
    (Skill.addToHolder s holder skill).1.Mirrored := by
  have keyed := h.keyed.addToHolder holder skill
  have party : (Skill.addToHolder s holder skill).1.party = _ := Skill.addToHolder_party
  cases found : s.partyMember? holder with
  | none =>
    rw [found] at party
    refine h.of_party keyed party fun m member _ => ?_
    have other : m.name ≠ holder := by simpa using List.find?_eq_none.mp found m member
    rw [find?_addToHolder, if_neg other]
  | some member =>
    rw [found] at party
    have listed := List.mem_of_find?_eq_some found
    have named : member.name = holder := by simpa using List.find?_some found
    have kept : (Skill.taught skill member).name = holder := (member.withSkills_name _).trans named
    refine (h.put (Skill.taught skill member)).of_party keyed party fun m present character => ?_
    rw [find?_addToHolder, find?_put, kept]
    by_cases same : m.name = holder
    · obtain ⟨rfl, -⟩ := (mem_replaceNamed h.distinct present).resolve_right fun other =>
        other.2 (same.trans kept.symm)
      rw [Entity.isCharacter, Skill.taught, Entity.withSkills_kind] at character
      rw [if_pos same, if_pos same.symm, same, ← named, h.copies member listed character,
        Option.map_some]
    · rw [if_neg same, if_neg (Ne.symm same)]

/-- Teaching makes nobody another kind of entity. -/
theorem Company.addToHolder (h : s.Company) (holder skill : String) :
    (Skill.addToHolder s holder skill).1.Company := by
  refine (h.mirrored.addToHolder holder skill).company ?_
  rw [Skill.addToHolder_party]
  split
  · rename_i member found
    intro m present
    rcases mem_replaceNamed h.distinct present with ⟨rfl, -⟩ | ⟨listed, -⟩
    · rw [Entity.isCharacter, Skill.taught, Entity.withSkills_kind]
      exact h.characters member (List.mem_of_find?_eq_some found)
    · exact h.characters m listed
  · exact h.characters

theorem names_retold (run : Retold s t) : t.party.map (·.name) = s.party.map (·.name) := by
  induction run with
  | refl => rfl
  | tail _ step ih =>
    refine Eq.trans ?_ ih
    cases step with
    | aside known party => rw [party]
    | put found kind => exact map_name_replaceNamed _ _
    | rewrite old new holders => exact names_replaceReferences _ old new holders
    | teach holder skill =>
      rw [Skill.addToHolder_party]
      split
      · exact map_name_replaceNamed _ _
      · rfl

theorem Outside.of_names (h : s.Outside name)
    (names : t.party.map (·.name) = s.party.map (·.name)) : t.Outside name := by
  intro m member same
  have listed : m.name ∈ s.party.map (·.name) := names ▸ List.mem_map_of_mem member
  obtain ⟨source, present, equal⟩ := List.mem_map.mp listed
  exact h source present (equal.trans same)

theorem Company.retells (h : s.Company) (step : Retells s t) : t.Company := by
  cases step with
  | aside known party =>
    exact h.of_party ((Retells.aside known party).wellKeyed h.keyed) party fun m _ => by
      rw [find?, find?, known]
  | @put e updated found kind =>
    have named := h.keyed.name_eq found
    refine h.put ?_
    cases character : e.isCharacter with
    | true => exact .inr ((congrArg EntityKind.isCharacter kind).trans character)
    | false => exact .inl (named ▸ h.outside (named.symm ▸ found) character)
  | rewrite old new holders => exact h.replaceReferences old new holders
  | teach holder skill => exact h.addToHolder holder skill

theorem Company.retold (h : s.Company) (run : Retold s t) : t.Company := by
  induction run with
  | refl => exact h
  | tail _ step ih => exact ih.retells step

/-! ### Settling -/

theorem Mirrored.settles (h : s.Mirrored) (step : Skill.Settles s t) : t.Mirrored := by
  cases step with
  | rewrite old new holders => exact h.replaceReferences old new holders
  | beside free skill =>
    refine h.of_party (h.keyed.putKnown _) rfl fun m member character => ?_
    exact Keyed.get?_put_of_ne (Ne.symm (h.ne_of_free free m member character))
  | forward found skill free =>
    -- A skill is no character, and neither is what has a free name.
    refine h.of_party (Skill.wellKeyed_renameEntity h.keyed found _) rfl fun m member character => ?_
    rw [Skill.find?_renameEntity h.keyed found, if_neg (h.ne_of_free free m member character),
      if_neg (h.name_ne found (by rw [Entity.isCharacter, skill]; rfl) m member character)]

theorem Mirrored.settled (h : s.Mirrored) (run : Skill.Settled s t) : t.Mirrored := by
  induction run with
  | refl => exact h
  | tail _ step ih => exact ih.settles step

theorem Company.settles (h : s.Company) (step : Skill.Settles s t) : t.Company := by
  refine (h.mirrored.settles step).company ?_
  cases step with
  | rewrite old new holders => exact (h.replaceReferences old new holders).characters
  | beside free skill => exact h.characters
  | forward found skill free => exact h.characters

theorem Company.settled (h : s.Company) (run : Skill.Settled s t) : t.Company := by
  induction run with
  | refl => exact h
  | tail _ step ih => exact ih.settles step

/-! ### Renaming, leading and joining -/

theorem name_renamed (old : String) (updated m : Entity) :
    (if m.name = old then updated else m).name = if m.name = old then updated.name else m.name := by
  split_ifs <;> rfl

/-- A renamed entity must not take the name of a member, and a renamed member stays a character. -/
theorem Company.rename {updated : Entity} (h : s.Company) (outside : s.Outside updated.name)
    (character : s.Outside name ∨ updated.isCharacter = true) : (s.rename name updated).Company where
  keyed := h.keyed.rename name updated
  distinct := by
    have names : (s.rename name updated).party.map (·.name) =
        (s.party.map (·.name)).map fun n => if n = name then updated.name else n := by
      change (s.party.map fun m => if m.name = name then updated else m).map (·.name) = _
      rw [List.map_map, List.map_map]
      exact List.map_congr_left fun m _ => name_renamed name updated m
    rw [names]
    -- The renaming is injective on the names of the party, because none of them is the new one.
    refine List.Nodup.map_on (fun first left second right same => ?_) h.distinct
    obtain ⟨m, member, rfl⟩ := List.mem_map.mp left
    obtain ⟨other, listed, rfl⟩ := List.mem_map.mp right
    split_ifs at same with old old' old'
    · exact old.trans old'.symm
    · exact absurd same.symm (outside other listed)
    · exact absurd same (outside m member)
    · exact same
  copies m member := by
    obtain ⟨source, listed, rfl⟩ := List.mem_map.mp member
    rw [find?_rename]
    by_cases old : source.name = name
    · rw [if_pos old, if_pos rfl]
    · rw [if_neg old, if_neg (outside source listed), if_neg old]
      exact h.copies source listed
  characters m member := by
    obtain ⟨source, listed, rfl⟩ := List.mem_map.mp member
    split_ifs with old
    · exact character.resolve_left fun outside => outside source listed old
    · exact h.characters source listed

/-- Where only players have the old name, a renamed player leaves the other members as they are. -/
theorem others_rename {pc : Entity} (player : pc.kind = .pc)
    (own : ∀ m ∈ s.party, m.name = name → m.kind = .pc) :
    (s.rename name pc).party.filter (·.kind ≠ .pc) = s.party.filter (·.kind ≠ .pc) := by
  have same : ∀ m ∈ s.party, decide ((if m.name = name then pc else m).kind ≠ .pc) =
      decide (m.kind ≠ .pc) := by
    intro m member
    split_ifs with renamed
    · rw [player, own m member renamed]
    · rfl
  change (s.party.map fun m => if m.name = name then pc else m).filter (·.kind ≠ .pc) = _
  rw [List.filter_map]
  refine (congrArg (List.map _) (List.filter_congr same)).trans ?_
  refine (List.map_congr_left fun m member => ?_).trans (List.map_id _)
  obtain ⟨listed, other⟩ := List.mem_filter.mp member
  exact if_neg fun renamed => of_decide_eq_true other (own m listed renamed)

/-- A character joins the party behind the members with other names. -/
theorem Company.join (h : s.Company) (character : e.isCharacter = true) :
    ((Scene.joinParty e s).putKnown e.name e).Company where
  keyed := h.keyed.putKnown e
  distinct := by
    change ((s.party.filter (·.name ≠ e.name) ++ [e]).map (·.name)).Nodup
    rw [List.map_append, List.map_singleton]
    refine List.concat_eq_append ▸ (h.distinct.sublist (List.filter_sublist.map _)).concat ?_
    intro present
    obtain ⟨m, member, same⟩ := List.mem_map.mp present
    exact of_decide_eq_true (List.mem_filter.mp member).2 same
  copies m member := by
    change Keyed.get? (s.knownEntities.put e.name e) m.name = some m
    rcases List.mem_append.mp member with listed | last
    · obtain ⟨listed, other⟩ := List.mem_filter.mp listed
      rw [Keyed.get?_put_of_ne (Ne.symm (of_decide_eq_true other))]
      exact h.copies m listed
    · rw [List.mem_singleton.mp last]
      exact Keyed.get?_put_self ..
  characters m member := by
    rcases List.mem_append.mp member with listed | last
    · exact h.characters m (List.mem_of_mem_filter listed)
    · rw [List.mem_singleton.mp last]
      exact character

/-- The player leads the party, if the other characters in it are known as before and none of them
has the player's name. -/
theorem Company.led {pc : Entity} (h : s.Company) (keyed : t.WellKeyed)
    (known : t.find? pc.name = some pc) (player : pc.kind = .pc)
    (party : t.party.filter (·.kind ≠ .pc) = s.party.filter (·.kind ≠ .pc))
    (others : ∀ m ∈ s.party, m.kind ≠ .pc → m.name ≠ pc.name ∧ t.find? m.name = s.find? m.name) :
    (t.led pc).Company := by
  have led : (t.led pc).party = pc :: s.party.filter (·.kind ≠ .pc) := by
    rw [GameState.led, party]
  have other : ∀ m ∈ s.party.filter (·.kind ≠ .pc), m ∈ s.party ∧ m.kind ≠ .pc := fun m member =>
    (List.mem_filter.mp member).imp_right of_decide_eq_true
  refine ⟨⟨keyed, ?_, ?_⟩, ?_⟩
  · rw [led, List.map_cons, List.nodup_cons]
    refine ⟨fun present => ?_, h.distinct.sublist (List.filter_sublist.map _)⟩
    obtain ⟨m, member, same⟩ := List.mem_map.mp present
    obtain ⟨listed, kind⟩ := other m member
    exact (others m listed kind).1 same
  all_goals
    intro m member
    rw [led] at member
    rcases List.mem_cons.mp member with rfl | member
  · exact known
  · obtain ⟨listed, kind⟩ := other m member
    exact (others m listed kind).2.trans (h.copies m listed)
  · rw [Entity.isCharacter, player]
    rfl
  · exact h.characters m (other m member).1

end GameState

end Gamebook
