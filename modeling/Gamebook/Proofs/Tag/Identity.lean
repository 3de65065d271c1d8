import Gamebook.Proofs.Tag.Filing
import Gamebook.Proofs.Tag.Learning
import Gamebook.Proofs.Tag.Omission

/-!
Reference ids under tags. What a tag stores has a new id, or the id of the record that it replaces,
or an id that the tag brings along. Only the last may clash, and so may the id of an item that is
stored a second time because the name of its tag has blanks around it.
-/

namespace Gamebook

open Attribute
open GameState (Identified)
open Play (Yields yields_pure yields_ofOutcome)

variable {attrs : Fields} {s t : GameState} {e updated : Entity} {c : Scene} {p : Played}

namespace TagKind

/-- Whether a tag comes to store the reference id that it brings along. -/
def takesId (kind : TagKind) (attrs : Fields) (s : GameState) : Bool :=
  (text? attrs "name").isSome &&
    match kind with
    | .lorePc => s.pc?.isNone
    | .loreItem => true
    | .loreFaction => true
    | .loreConcept => true
    | .itemAcquired => true
    | .itemUpdated => (Scene.ownedItem? { state := s } (text? attrs "name")).isSome
    | .entityUpdate => (Scene.find? { state := s } (text? attrs "name")).isSome
    | .companion => (text? attrs "description").isSome
    | _ => false

/-- Whether what a tag stores replaces the known entity with a name. -/
def replaces (kind : TagKind) (attrs : Fields) (name : String) : Bool :=
  if kind = .entityUpdate then text? attrs "name" = some name || text? attrs "newName" = some name
  else rawText? attrs "name" = some name

/-- Whether a tag stores a reference id of its own that is that of another known entity. -/
def repeatsId (kind : TagKind) (attrs : Fields) (s : GameState) : Bool :=
  kind.takesId attrs s && (rawText? attrs "referenceId").any fun id =>
    s.knownEntities.any fun pair => pair.2.id? = some id && !kind.replaces attrs pair.1

/-- Whether a tag stores an item a second time, with the reference id that it has already. -/
def copiesId (kind : TagKind) (attrs : Fields) (s : GameState) : Bool :=
  (kind = .itemAcquired || kind = .itemUpdated) && padsName attrs &&
    (attrs.get? "referenceId").isNone &&
    (Scene.ownedItem? { state := s } (text? attrs "name")).any (·.id?.isSome)

/-- Whether a tag gives a reference id to a second entity. -/
def clashes (kind : TagKind) (attrs : Fields) (s : GameState) : Bool :=
  kind.repeatsId attrs s || kind.copiesId attrs s

variable {kind : TagKind} {name id : String}

/-- What has the id that a tag brings along is replaced, if the id does not repeat. -/
theorem replaces_of_repeats (unrepeated : kind.repeatsId attrs s = false)
    (takes : kind.takesId attrs s = true) (told : rawText? attrs "referenceId" = some id)
    (known : s.idAt? name = some id) : kind.replaces attrs name = true := by
  obtain ⟨e, found, given⟩ := Option.bind_eq_some_iff.mp known
  rw [repeatsId, takes, Bool.true_and, told, Option.any_some, List.any_eq_false] at unrepeated
  have spared := unrepeated (name, e) (Keyed.mem_of_get? found)
  simpa [given] using spared

end TagKind

/-! ### Ids of stored entities -/

theorem eq_or_of_issued {given : Option Value} {old : Option String}
    (issued : given.or (some (.opt .text old)) = some (.opt .text e.referenceId)) :
    given = none ∧ e.referenceId = old ∨ given = some (.opt .text e.referenceId) := by
  cases given with
  | none => exact .inl ⟨rfl, (Entity.optText_injective (Option.some.inj issued)).symm⟩
  | some v => exact .inr issued

theorem referenceId_of_id {id : String} (h : e.id? = some id) : e.referenceId = some id :=
  (Option.filter_eq_some_iff.mp h).1

theorem id_of_issued {id : String} (same : e.id? = some id)
    (issued : updated.referenceId = some id) : e.id? = updated.id? := by
  rw [Entity.id?, Entity.id?, issued, referenceId_of_id same]

/-- What is entered is admitted if an id that the tag brings along is free. -/
theorem Entered.admits {given : Option Value} (h : Entered given attrs s e)
    (free : ∀ id, given = some (.text id) → ∀ name, s.idAt? name = some id → name = e.name) :
    s.Admits e := by
  obtain ⟨spare, new, issued⟩ := h.issued
  have either : given = none ∧ e.referenceId = some spare ∨
      given = some (.opt .text e.referenceId) := eq_or_of_issued issued
  rcases either with ⟨-, drawn⟩ | told
  · exact GameState.admits_of_spare new drawn
  · intro name id has known
    refine free id ?_ name known
    rw [told, referenceId_of_id has]
    rfl

theorem Revised.admits (h : Revised attrs s e) (identified : s.Identified) : s.Admits e := by
  obtain ⟨record, known, -, same⟩ := h.known
  refine identified.admits ?_
  rw [GameState.idAt?_of_find? known, Entity.id?, Entity.id?, same]

theorem Scene.Refreshed.admits {kind : EntityKind} (h : c.Refreshed kind attrs e)
    (identified : c.state.Identified) : c.state.Admits e := by
  cases h with
  | entered absent h => exact h.admits nofun
  | revised present h => exact h.admits identified

theorem Restocked.owns {given : Option Value} {item : Entity} (h : Restocked given attrs s item e) :
    Scene.ownedItem? { state := s } (text? attrs "name") = some item := by
  obtain ⟨name, asked, known⟩ := h.asked
  rw [asked, Scene.ownedItem?, Scene.find?_asked asked, known, Option.filter_some, if_pos h.owned]

/-- An item is admitted under the name that it has, and under another one if its id is another. -/
theorem Restocked.admits {kind : TagKind} {item : Entity}
    (tag : kind = .itemAcquired ∨ kind = .itemUpdated)
    (h : Restocked (attrs.get? "referenceId") attrs s item e) (identified : s.Identified)
    (clashless : kind.clashes attrs s = false) : s.Admits e := by
  obtain ⟨unrepeated, uncopied⟩ := Bool.or_eq_false_iff.mp clashless
  have owns := h.owns
  obtain ⟨name, asked, known⟩ := h.asked
  rcases eq_or_of_issued h.issued with ⟨untold, same⟩ | told
  · have kept : e.id? = item.id? := by rw [Entity.id?, Entity.id?, same]
    by_cases padded : padsName attrs = true
    · -- The item stays where it was as well, so it must not have an id.
      intro other id has
      have isTag : (kind = .itemAcquired || kind = .itemUpdated) = true := by simpa using tag
      rw [TagKind.copiesId, isTag, padded, untold, owns, Option.any_some, ← kept, has] at uncopied
      cases uncopied
    · have plain := asked_of_named ((Bool.not_eq_true _).mp padded) (asked ▸ rfl) h.named
      obtain rfl : name = e.name := Option.some.inj (asked.symm.trans plain)
      exact identified.admits ((GameState.idAt?_of_find? known).trans kept.symm)
  · intro other id has found
    have takes : kind.takesId attrs s = true := by
      rcases tag with rfl | rfl
      · rw [TagKind.takesId, asked]
        rfl
      · rw [TagKind.takesId, owns, asked]
        rfl
    have told : rawText? attrs "referenceId" = some id := by
      rw [referenceId_of_id has] at told
      exact rawText?_eq_some.mpr told
    have replaced := TagKind.replaces_of_repeats unrepeated takes told found
    have other : kind ≠ .entityUpdate := by
      rcases tag with rfl | rfl <;> decide
    rw [TagKind.replaces, if_neg other, decide_eq_true_iff, h.named] at replaced
    exact (Option.some.inj replaced).symm

namespace Scene

/-- A tag that stores what is admitted leaves the ids distinct. -/
theorem Stores.identified {P : Entity → Prop} (h : c.Stores P p) (identified : c.state.Identified)
    (admits : ∀ e, P e → c.state.Admits e) : p.scene.state.Identified := by
  rcases h with rfl | ⟨-, e, holds, stored⟩
  · exact identified
  · exact (identified.put (admits e holds)).congr (GameState.idAt?_congr stored)

/-- What is entered with an id of its tag is admitted if the id does not repeat. -/
theorem entered_admits {kind : TagKind} {given : Option Value} {fields : Fields}
    (h : Entered given fields c.state e) (named : rawText? attrs "name" = some e.name)
    (told : ∀ id, given = some (.text id) → rawText? attrs "referenceId" = some id)
    (other : kind ≠ .entityUpdate) (takes : kind.takesId attrs c.state = true)
    (clashless : kind.clashes attrs c.state = false) : c.state.Admits e := by
  refine h.admits fun id brought name known => ?_
  have replaced := TagKind.replaces_of_repeats (Bool.or_eq_false_iff.mp clashless).1 takes
    (told id brought) known
  rw [TagKind.replaces, if_neg other, decide_eq_true_iff, named] at replaced
  exact (Option.some.inj replaced).symm

theorem keptId_yields {kind : EntityKind} {v : Value} (y : Yields (keptId e kind c) v) :
    ∃ id, v = .text id ∧ (e.id? = some id ∨ id ∉ ReferenceId.idsOf c.state) := by
  have drawn (y : Yields (c.newId kind) v) :
      ∃ id, v = .text id ∧ (e.id? = some id ∨ id ∉ ReferenceId.idsOf c.state) := by
    obtain ⟨id, spare, rfl⟩ := newId_yields y
    exact ⟨id, rfl, .inr spare⟩
  rw [keptId] at y
  split at y
  · rename_i id has
    split_ifs at y with empty
    · exact drawn y
    · obtain rfl := yields_pure.mp y
      refine ⟨id, rfl, .inl ?_⟩
      rw [Entity.id?, has, Option.filter_some, if_pos (by simp [empty])]
  · exact drawn y

theorem define_identified {kind : TagKind} {entityKind : EntityKind} (h : c.state.Identified)
    (clashless : kind.clashes attrs c.state = false) (other : kind ≠ .entityUpdate)
    (takes : kind.takesId attrs c.state = (text? attrs "name").isSome)
    (y : Yields (c.define entityKind attrs) p) : p.scene.state.Identified :=
  (define_stores y).identified h fun _ filed =>
    entered_admits filed filed.named (fun _ => rawText?_eq_some.mpr) other (takes.trans filed.asked)
      clashless

theorem addCompanion_identified (h : c.state.Identified)
    (clashless : TagKind.clashes .companion attrs c.state = false)
    (y : Yields (c.addCompanion attrs) p) : p.scene.state.Identified := by
  cases described : text? attrs "description" with
  | none =>
    rw [addCompanion_lacking (.inr described)] at y
    exact yields_pure.mp y ▸ h
  | some description =>
    refine (addCompanion_stores y).identified h fun e filed => ?_
    refine entered_admits filed filed.named (fun _ => rawText?_eq_some.mpr) (by decide) ?_ clashless
    rw [TagKind.takesId, described, filed.asked]
    rfl

/-! ### Items -/

theorem acquire_identified (h : c.state.Identified) (distinct : attrs.keys.Nodup)
    (clashless : TagKind.clashes .itemAcquired attrs c.state = false)
    (y : Yields (c.acquire attrs) p) : p.scene.state.Identified := by
  refine (acquire_stores distinct y).identified h fun e filed => ?_
  rcases filed with entered | ⟨item, restocked⟩
  · refine entered_admits entered entered.named (fun _ => rawText?_eq_some.mpr) (by decide) ?_
      clashless
    rw [TagKind.takesId, entered.asked]
    rfl
  · exact restocked.admits (.inl rfl) h clashless

theorem updateItem_identified (h : c.state.Identified) (distinct : attrs.keys.Nodup)
    (clashless : TagKind.clashes .itemUpdated attrs c.state = false)
    (y : Yields (c.updateItem attrs) p) : p.scene.state.Identified :=
  (updateItem_stores distinct y).identified h fun _ ⟨_, restocked⟩ =>
    restocked.admits (.inr rfl) h clashless

theorem consume_identified (keyed : c.state.WellKeyed) (h : c.state.Identified)
    (y : Yields (c.consume attrs) p) : p.scene.state.Identified := by
  rw [consume] at y
  split at y
  · obtain rfl := yields_pure.mp y
    exact h
  rename_i item found
  have known := (ownedItem?_known keyed found).2.1
  obtain ⟨amount, -, y⟩ := y.bind
  split at y
  · obtain rfl := yields_pure.mp y
    exact h.forget item.name
  · split_ifs at y
    · obtain rfl := yields_pure.mp y
      exact h.forget item.name
    · obtain ⟨rest, -, y⟩ := y.bind
      obtain rfl := yields_pure.mp y
      have same : Entity.Akin (withSupply item rest) item := by
        rw [withSupply]
        split_ifs <;> exact ⟨⟨rfl, rfl⟩, rfl⟩
      refine h.put (h.admits ?_)
      rw [same.name, same.id, GameState.idAt?_of_find? known]

theorem lose_identified (h : c.state.Identified) (y : Yields (c.lose attrs) p) :
    p.scene.state.Identified := by
  rw [lose] at y
  split at y
  · obtain rfl := yields_pure.mp y
    exact h.forget _
  · obtain rfl := yields_pure.mp y
    exact h

theorem transform_identified (h : c.state.Identified) (y : Yields (c.transform attrs) p) :
    p.scene.state.Identified := by
  unfold transform at y
  split at y
  · rename_i old new source target
    obtain ⟨id, drawn, y⟩ := y.bind
    obtain ⟨item, made, y⟩ := y.bind
    obtain rfl := yields_pure.mp y
    obtain ⟨id, spare, rfl⟩ := newId_yields drawn
    refine (h.forget old).put (GameState.admits_of_spare spare ?_)
    refine Entity.referenceId_of_read (entityOf_yields.mp made) ?_
    rw [transformedFields, Keyed.get?_update]
    · rfl
    · change ["name", "type", "owner", "description", "referenceId"].Nodup
      decide
  · obtain rfl := yields_pure.mp y
    exact h

/-! ### Skills -/

theorem teach_identified (h : c.state.Identified) (learner : Option String)
    (name description : String) (skill : Entity) :
    (c.teach learner name description skill).state.Identified :=
  (teach_rewords learner name description skill).identified h

theorem makeWay?_identified {name : String} {cleared : Scene} (h : c.state.Identified)
    (way : c.makeWay? name = some cleared) : cleared.state.Identified := by
  rw [makeWay?] at way
  split at way
  · exact Option.some.inj way ▸ h
  · rename_i old found
    split_ifs at way
    · obtain rfl := Option.some.inj way
      have rewritten : (Skill.replaceReferences c.state old.name name).1.Identified :=
        h.congr fun _ => GameState.idAt?_replaceReferences
      exact rewritten.forget old.name
    · exact Option.some.inj way ▸ h

theorem learn_identified (keyed : c.state.WellKeyed) (h : c.state.Identified)
    (distinct : attrs.keys.Nodup) (y : Yields (c.learn attrs) p) : p.scene.state.Identified := by
  unfold learn at y
  split at y
  swap
  · obtain rfl := yields_pure.mp y
    exact h
  rename_i name description named described
  dsimp only at y
  split at y
  · rename_i known found
    obtain ⟨v, kept, y⟩ := y.bind
    obtain ⟨skill, made, y⟩ := y.bind
    obtain rfl := yields_pure.mp y
    obtain ⟨id, rfl, source⟩ := keptId_yields kept
    have fields : (skillFields attrs).keys.Nodup :=
      Keyed.nodup_put (Keyed.nodup_without distinct _) _ _
    have laid := Keyed.nodup_put (Keyed.nodup_put fields "name" (.text known.name)) "referenceId"
      (.text id)
    have made := mergedWith_yields.mp made
    have issued := Entity.referenceId_of_merged laid made (Keyed.get?_put_self ..)
    have named := Entity.merged_name laid made
    rw [Keyed.get?_put_of_ne (by decide), Keyed.get?_put_self, Option.some_or] at named
    refine teach_identified (c := c.put skill) (h.put ?_) _ name description skill
    rcases source with same | spare
    · refine h.admits ?_
      rw [← Value.text_of_field named, GameState.idAt?_of_find? (sameSkill?_known keyed found).1,
        id_of_issued same issued]
    · exact GameState.admits_of_spare spare issued
  · split at y
    · obtain rfl := yields_pure.mp y
      exact h
    · rename_i cleared way
      obtain ⟨v, drawn, y⟩ := y.bind
      obtain ⟨skill, made, y⟩ := y.bind
      obtain rfl := yields_pure.mp y
      obtain ⟨id, spare, rfl⟩ := newId_yields drawn
      refine teach_identified (c := cleared.put skill) ?_ _ name description skill
      refine (makeWay?_identified h way).put (GameState.admits_of_spare spare ?_)
      exact Entity.referenceId_of_read (entityOf_yields.mp made) (Keyed.get?_put_self ..)

theorem changeSkill_identified (h : c.state.Identified) (y : Yields (c.changeSkill attrs) p) :
    p.scene.state.Identified := by
  unfold changeSkill at y
  split at y
  swap
  · obtain rfl := yields_pure.mp y
    exact h
  rename_i old new source target
  split_ifs at y
  · obtain rfl := yields_pure.mp y
    exact h
  obtain ⟨defined, succeeded, y⟩ := y.bind
  have successor : defined.state.Identified := by
    rw [defineSuccessor] at succeeded
    split at succeeded
    · obtain rfl := yields_pure.mp succeeded
      exact h
    · obtain ⟨v, drawn, succeeded⟩ := succeeded.bind
      obtain ⟨skill, made, succeeded⟩ := succeeded.bind
      obtain rfl := yields_pure.mp succeeded
      obtain ⟨id, spare, rfl⟩ := newId_yields drawn
      refine h.put (GameState.admits_of_spare spare ?_)
      exact Entity.referenceId_of_read (entityOf_yields.mp made) (Keyed.get?_put_self ..)
  have rewritten : (Skill.replaceReferences defined.state old new
      (targetHolders defined.state (text? attrs "target"))).1.Identified :=
    successor.congr fun _ => GameState.idAt?_replaceReferences
  dsimp only at y
  split_ifs at y
  · obtain rfl := yields_pure.mp y
    exact rewritten
  · obtain rfl := yields_pure.mp y
    change (forgetUnheld old _).Identified
    rw [forgetUnheld]
    split_ifs
    · exact rewritten.forget old
    · exact rewritten

/-! ### The general update -/

/-- An entity under a general update has its id from before or the one that the tag brings along. -/
theorem Takes.idGiven {updates instructions : Fields} {id : String} (h : Takes attrs updates)
    (distinct : instructions.keys.Nodup)
    (same : instructions.get? "referenceId" = updates.get? "referenceId")
    (made : e.merged instructions = .ok updated) (has : updated.id? = some id) :
    e.id? = some id ∨ rawText? attrs "referenceId" = some id := by
  have issued := Entity.merged_id distinct made
  rw [same] at issued
  rcases eq_or_of_issued issued with ⟨-, kept⟩ | told
  · rw [Entity.id?, kept] at has
    exact .inl has
  · rw [referenceId_of_id has] at told
    exact .inr (rawText?_eq_some.mpr (h.text _ _ (by decide) told).2)

/-- Once the old record is gone, the updated one is admitted. -/
theorem admits_updated (h : s.Identified) (known : s.find? e.name = some e)
    (given : ∀ id, updated.id? = some id →
      e.id? = some id ∨ rawText? attrs "referenceId" = some id)
    (free : ∀ name id, rawText? attrs "referenceId" = some id → s.idAt? name = some id →
      name = e.name ∨ name = updated.name) : (s.forget e.name).Admits updated := by
  intro name id has found
  rw [GameState.idAt?_forget] at found
  split_ifs at found with gone
  rcases given id has with same | told
  · exact absurd (h name e.name id found ((GameState.idAt?_of_find? known).trans same)) gone
  · exact (free name id told found).resolve_left gone

theorem renameEverywhere_identified {new : String} (h : (s.rename e.name updated).Identified) :
    (renameEverywhere e updated new s).Identified := by
  rw [renameEverywhere]
  split_ifs
  · exact h.congr fun _ => GameState.idAt?_replaceReferences
  · exact h

theorem updateEntity_identified (keyed : c.state.WellKeyed) (h : c.state.Identified)
    (distinct : attrs.keys.Nodup) (clashless : TagKind.clashes .entityUpdate attrs c.state = false)
    (y : Yields (c.updateEntity attrs) p) : p.scene.state.Identified := by
  rw [updateEntity] at y
  dsimp only at y
  split at y
  · obtain rfl := yields_pure.mp y
    exact h
  rename_i e found
  obtain ⟨asked, known⟩ := find?_known keyed found
  have stores : TagKind.takesId .entityUpdate attrs c.state = true := by
    have here : Scene.find? { state := c.state } (text? attrs "name") = some e := found
    rw [TagKind.takesId, here, asked]
    rfl
  have unrepeated := (Bool.or_eq_false_iff.mp clashless).1
  have replaced (name id : String) (told : rawText? attrs "referenceId" = some id)
      (held : c.state.idAt? name = some id) :
      name = e.name ∨ text? attrs "newName" = some name := by
    have replaces := TagKind.replaces_of_repeats unrepeated stores told held
    rw [TagKind.replaces, if_pos rfl, Bool.or_eq_true, decide_eq_true_iff, decide_eq_true_iff,
      asked] at replaces
    exact replaces.imp_left fun same => (Option.some.inj same).symm
  obtain ⟨changed, counted, y⟩ := y.bind
  have takes := withPlainExp_takes
    (applyChange_takes (plainUpdates_takes distinct) (yields_ofOutcome.mp counted))
  generalize withPlainExp changed = updates at takes y
  have chosen : ∀ derived : Bool,
      Takes attrs (if derived then Keyed.erase updates "realm" else updates) := by
    intro derived
    split_ifs
    · exact takes.erase "realm"
    · exact takes
  have takes := chosen (followsExperience c.state e updates)
  split at y
  · rename_i newName filtered
    obtain ⟨given, -⟩ := Option.filter_eq_some_iff.mp filtered
    obtain ⟨updated, made, y⟩ := y.bind
    obtain rfl := yields_pure.mp y
    have made := mergedWith_yields.mp made
    have nodup := Keyed.nodup_put takes.distinct "name" (.text newName)
    have named := Entity.merged_name nodup made
    rw [Keyed.get?_put_self, Option.some_or] at named
    obtain rfl : newName = updated.name := Value.text_of_field named
    have admits : (c.state.forget e.name).Admits updated := by
      refine admits_updated h known
        (fun id => takes.idGiven nodup (Keyed.get?_put_of_ne (by decide)) made)
        fun name id told held => (replaced name id told held).imp_right fun new => ?_
      exact (Option.some.inj (given.symm.trans new)).symm
    have start : (renameEverywhere e updated updated.name c.state).WellKeyed := by
      rw [renameEverywhere]
      split_ifs
      · exact (keyed.rename e.name updated).replaceReferences _ _ _
      · exact keyed.rename e.name updated
    exact (progressIf_rewords start _).identified (renameEverywhere_identified (h.rename admits))
  · rename_i unfiltered
    obtain ⟨updated, made, y⟩ := y.bind
    obtain rfl := yields_pure.mp y
    have made := mergedWith_yields.mp made
    have named := takes.keepsName made
    have admits : (c.state.forget e.name).Admits updated := by
      refine admits_updated h known (fun id => takes.idGiven takes.distinct rfl made)
        fun name id told held => .inl ((replaced name id told held).elim (·) fun new => ?_)
      -- The new name that the tag gives is the one from before.
      rw [new, Option.filter_some, asked] at unfiltered
      simpa using unfiltered
    exact (progressIf_rewords (keyed.put updated) _).identified (h.replace (named ▸ admits))

/-! ### The player -/

theorem leadParty_identified {pc : Entity} (keyed : s.WellKeyed) (h : s.Identified) :
    (leadParty pc s).Identified :=
  (Reworded.progressRealm (s := s.led pc) keyed).identified (h.congr fun _ => rfl)

theorem introducePlayer_identified (keyed : c.state.WellKeyed) (h : c.state.Identified)
    (distinct : attrs.keys.Nodup) (absent : c.state.pc? = none)
    (clashless : TagKind.clashes .lorePc attrs c.state = false)
    (y : Yields (c.introducePlayer (playerAttributes attrs)) p) : p.scene.state.Identified := by
  have plain {key s : String} (other : "learnedSkills" ≠ key)
      (told : (playerAttributes attrs).get? key = some (.text s)) :
      rawText? attrs key = some s := by
    rw [get?_playerAttributes distinct other] at told
    exact rawText?_eq_some.mpr (Option.filter_eq_some_iff.mp told).1
  rw [introducePlayer] at y
  split at y
  · obtain rfl := yields_pure.mp y
    exact h
  rename_i name asked
  obtain ⟨v, drawn, y⟩ := y.bind
  obtain ⟨pc, made, y⟩ := y.bind
  obtain rfl := yields_pure.mp y
  obtain ⟨id, spare, rfl⟩ := newId_yields drawn
  have entered : Entered ((playerAttributes attrs).get? "referenceId") (playerAttributes attrs)
      c.state pc := by
    refine entered_of_made (asked ▸ rfl) spare (entityOf_yields.mp made) ?_ ?_
    · rw [get?_withDefaultId_of_ne (by decide), get?_withKind_of_ne (by decide)]
    · rw [withDefaultId, Keyed.get?_putNew_self, get?_withKind_of_ne (by decide)]
  have takes : TagKind.takesId .lorePc attrs c.state = true := by
    rw [TagKind.takesId, ← text?_playerAttributes distinct (by decide), asked, absent]
    rfl
  refine leadParty_identified (keyed.putKnown pc) (h.put (e := pc) ?_)
  exact entered_admits entered (plain (by decide) (rawText?_eq_some.mp entered.named))
    (fun id => plain (by decide)) (by decide) takes clashless

theorem storePlayer_identified {existing pc : Entity} {id : String} (h : s.Identified)
    (known : s.find? existing.name = some existing) (issued : pc.referenceId = some id)
    (source : existing.id? = some id ∨ id ∉ ReferenceId.idsOf s) :
    (storePlayer s existing.name pc).Identified := by
  have same (kept : existing.id? = some id) : s.idAt? existing.name = pc.id? :=
    (GameState.idAt?_of_find? known).trans (id_of_issued kept issued)
  rw [storePlayer]
  split_ifs with named
  · refine h.put (e := pc) ?_
    rcases source with kept | spare
    · exact h.admits (named ▸ same kept)
    · exact GameState.admits_of_spare spare issued
  · refine h.rename ?_
    rcases source with kept | spare
    · exact h.admits_moved (same kept)
    · exact (GameState.admits_of_spare spare issued).forget existing.name

theorem describePlayer_identified (keyed : c.state.WellKeyed) (h : c.state.Identified)
    (distinct : attrs.keys.Nodup) (clashless : TagKind.clashes .lorePc attrs c.state = false)
    (y : Yields (c.describePlayer attrs) p) : p.scene.state.Identified := by
  rw [describePlayer] at y
  split at y
  · rename_i absent
    exact introducePlayer_identified keyed h distinct absent clashless y
  · rename_i existing present
    rw [refreshPlayer] at y
    obtain ⟨v, kept, y⟩ := y.bind
    obtain ⟨pc, made, y⟩ := y.bind
    obtain rfl := yields_pure.mp y
    obtain ⟨id, rfl, source⟩ := keptId_yields kept
    have updates : (mergeLearned existing
        (keepMotivation existing (playerAttributes attrs))).keys.Nodup :=
      nodup_mergeLearned existing (nodup_keepMotivation existing (nodup_playerAttributes distinct))
    have laid := Keyed.nodup_put (Keyed.nodup_put (Keyed.nodup_put updates "type"
      (.text EntityKind.pc.name)) "name" (.text ((text? (playerAttributes attrs) "name").getD
        existing.name))) "referenceId" (.text id)
    have issued := Entity.referenceId_of_merged laid (mergedWith_yields.mp made)
      (Keyed.get?_put_self ..)
    have known := keyed.find?_name (GameState.pc?_eq_some present).1
    exact leadParty_identified (storePlayer_wellKeyed keyed existing.name pc)
      (storePlayer_identified h known issued source)

end Scene

open Scene

/-- A tag leaves the ids of known entities distinct, if it does not clash. -/
theorem TagKind.play_identified {kind : TagKind} (keyed : c.state.WellKeyed)
    (h : c.state.Identified) (distinct : attrs.keys.Nodup)
    (clashless : kind.clashes attrs c.state = false) (y : Yields (kind.play attrs c) p) :
    p.scene.state.Identified := by
  cases kind with
  | timeElapsed => exact (passTime_rewords y).identified h
  | chronicleTurn => exact (chronicleTurn_rewords y).identified h
  | chronicleChapter => exact yields_pure.mp y ▸ chronicleChapter_rewords.identified h
  | chronicleMemoir => exact yields_pure.mp y ▸ chronicleMemoir_rewords.identified h
  | statusAppliedSelf => exact (applyStatus_rewords y).identified h
  | statusAppliedNpc => exact (applyStatus_rewords y).identified h
  | statusCuredSelf => exact yields_pure.mp y ▸ cureStatus_rewords.identified h
  | statusCuredNpc => exact yields_pure.mp y ▸ cureStatus_rewords.identified h
  | lorePc => exact describePlayer_identified keyed h distinct clashless y
  | loreNpc => exact (describe_stores distinct y).identified h fun e filed => filed.admits h
  | loreItem => exact define_identified h clashless (by decide) (Bool.and_true _) y
  | loreLocation =>
    exact (describePlace_stores distinct y).identified h fun e filed => filed.admits h
  | loreFaction => exact define_identified h clashless (by decide) (Bool.and_true _) y
  | loreConcept => exact define_identified h clashless (by decide) (Bool.and_true _) y
  | loreSkill => exact (defineSkill_stores y).identified h fun e filed => filed.admits nofun
  | skillExpReward => exact (rewardSkills_drilled keyed y).reworded.identified h
  | skillExpGain => exact (gainSkillExp_drilled keyed y).reworded.identified h
  | skillBreakthrough => exact (breakThrough_drilled keyed y).reworded.identified h
  | skillBreakthroughRoll => exact (rollForSkills_drilled keyed y).reworded.identified h
  | skillLearned => exact learn_identified keyed h distinct y
  | skillUpdate => exact changeSkill_identified h y
  | entityUpdate => exact updateEntity_identified keyed h distinct clashless y
  | itemAcquired => exact acquire_identified h distinct clashless y
  | itemConsumed => exact consume_identified keyed h y
  | itemEquipped => exact (equip_rewords keyed y).identified h
  | itemUnequipped => exact (unequip_rewords keyed y).identified h
  | itemTransformed => exact transform_identified h y
  | itemUpdated => exact updateItem_identified h distinct clashless y
  | itemDamaged => exact (wear_rewords keyed y).identified h
  | itemRepaired => exact (wear_rewords keyed y).identified h
  | itemDiscarded => exact lose_identified h y
  | itemLost => exact lose_identified h y
  | specialItemGenerate => exact (requestSpecialItem_rewords y).identified h
  | realmUpdate => exact (updateRealm_rewords keyed y).identified h
  | companion => exact addCompanion_identified h clashless y
  | relationshipChanged => exact (changeRelationship_rewords keyed y).identified h
  | questAssigned => exact (assignQuest_rewords y).identified h
  | questUpdated => exact (updateQuest_rewords keyed y).identified h
  | questObjectiveCompleted => exact (completeQuestObjective_rewords keyed y).identified h
  | defineRealmSystem => exact yields_pure.mp y ▸ h

end Gamebook
