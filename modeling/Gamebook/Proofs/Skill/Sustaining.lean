import Gamebook.Proofs.Acting.Run
import Gamebook.Proofs.Skill.Mending

/-!
Tags of skills sustain the held skill names: each rests on the known skills afterwards, unless the tag
strands one. A renaming strands a name that is left without a skill of its base name, and a lesson one
that is taught under the name of something else.
-/

namespace Gamebook

open Attribute Skill Text
open GameState (HeldBy Holds Mirrored Rests SkillsKnown Sustained)
open Play (Yields)

variable {s r t : GameState} {e old : Entity} {kind : TagKind} {attrs : Fields} {name holder : String}
  {c : Scene} {p : Played}

/-! ### Stranding -/

namespace Skill

/-- The name that a lesson stores a skill under: the one that is known, or else as it is written. -/
def lessonName (attrs : Fields) (s : GameState) (name : String) : String :=
  ((Scene.sameSkill? s name).map (·.name)).getD ((rawText? attrs "name").getD name)

/-- Whether a tag teaches a skill whose name without outer blanks is that of something else. Skills
are stored with these blanks, but held without them. -/
def strandsLesson (attrs : Fields) (s : GameState) : Bool :=
  match text? attrs "name" with
  | some name =>
    let stored := lessonName attrs s name
    trim stored ≠ stored && (s.find? (trim stored)).any (·.kind ≠ .skill)
  | none => false

/-- The skill names that known characters hold. -/
def heldNames (s : GameState) : List String :=
  (s.knownEntities.values.filter (·.isCharacter)).flatMap (·.skillNames)

/-- A held skill name that is to be another one, for some holders or for all. The new one may be
described. -/
structure Renaming where
  old : String
  new : String
  described : Bool
  holders : Option (List String)

namespace Renaming

/-- The renaming that a tag tells. -/
def ofAttributes? (attrs : Fields) (s : GameState) : Option Renaming :=
  match text? attrs "oldSkill", text? attrs "newSkill" with
  | some old, some new =>
    if old = new then none
    else some
      { old, new
        described := (text? attrs "description").isSome
        holders := Scene.targetHolders s (text? attrs "target") }
  | _, _ => none

/-- Whether anything can come of a renaming: it is described, or somebody holds the old name. -/
def takesEffect (change : Renaming) (s : GameState) : Bool :=
  change.described || !(replaceReferences s change.old change.new change.holders).2.isEmpty

/-- Whether somebody still holds the old name afterwards, whom no described skill replaces. -/
def leavesHeld (change : Renaming) (s : GameState) : Bool :=
  isHeld (replaceReferences s change.old change.new change.holders).1 change.old &&
    !(change.described && (s.find? change.new).any (·.isCharacter))

/-- Whether a skill with a base name is known afterwards. -/
def leavesBase (change : Renaming) (s : GameState) (base : String) : Bool :=
  change.described && baseName change.new = base ||
    (s.ofKind .skill).any fun e =>
      (e.name ≠ change.old || change.leavesHeld s) && baseName e.name = base

/-- Whether a name is that of no known skill afterwards, and cannot be led to one. -/
def strandsName (change : Renaming) (s : GameState) (name : String) : Bool :=
  !(change.described && change.new = name) && s.kindOf? name ≠ some .skill &&
    ((s.kindOf? name).isSome || !change.leavesBase s (baseName name))

/-- Whether a renaming drops a character of the party, or strands a held name or the new one. -/
def strands (change : Renaming) (s : GameState) : Bool :=
  change.takesEffect s && (s.party.any (fun m => m.isCharacter && m.name = change.old) ||
    (change.new :: heldNames s).any (change.strandsName s))

end Renaming

end Skill

namespace TagKind

/-- The tags of skills that are learned, renamed and practised. -/
def ofSkills : List TagKind :=
  [.skillLearned, .skillUpdate, .skillExpGain, .skillExpReward, .skillBreakthrough,
    .skillBreakthroughRoll]

/-- Whether a tag strands a held skill name. -/
def strands (kind : TagKind) (attrs : Fields) (s : GameState) : Bool :=
  match kind with
  | .skillLearned => strandsLesson attrs s
  | .skillUpdate => (Renaming.ofAttributes? attrs s).any (·.strands s)
  | _ => false

end TagKind

/-- Whether a tag strands a held skill name. -/
def Tag.strandsSkill (t : Tag) (s : GameState) : Bool :=
  match t.kind? with
  | some kind => kind.strands (Attribute.parse t.body) s
  | none => false

/-! ### Practice -/

theorem GameState.Mirrored.skillsKnown_iff (h : s.Mirrored) :
    s.SkillsKnown ↔ ∀ name, s.Holds name → s.kindOf? name = some .skill :=
  ⟨fun known name holds => known name holds.isHeld, fun known name held => known name (h.holds held)⟩

namespace GameState.Sustained

theorem put (h : s.Sustained) (skill : e.kind = .skill) (named : e.name ≠ "") :
    (s.put e).Sustained where
  toMirrored := h.toMirrored.put e
  named := by rw [find?_put, if_neg named]; exact h.named
  rests name := by
    rintro ⟨holder, held⟩
    have before := h.rests name ⟨holder, held.of_put (by rw [Entity.isCharacter, skill]; rfl)⟩
    rw [Rests, kindOf?_put, skill]
    split_ifs with here
    · exact .inl rfl
    · refine before.imp_right ?_
      rintro ⟨free, other, known, shared⟩
      refine ⟨free, other, ?_, shared⟩
      rw [kindOf?_put, skill, known, ite_self]

theorem practises (h : s.Sustained) (step : Practises s t) : t.Sustained := by
  obtain ⟨known, skill⟩ := step
  refine h.put skill fun empty => ?_
  rw [empty, kindOf?, h.named] at known
  cases known

theorem practised (h : s.Sustained) (run : Practised s t) : t.Sustained := by
  induction run with
  | refl => exact h
  | tail _ step ih => exact ih.practises step

end GameState.Sustained

theorem Practises.of_holds (step : Practises s t) (holds : t.Holds name) : s.Holds name := by
  obtain ⟨known, skill⟩ := step
  exact holds.imp fun _ held => held.of_put (by rw [Entity.isCharacter, skill]; rfl)

theorem Practised.of_holds (run : Practised s t) (holds : t.Holds name) : s.Holds name := by
  induction run with
  | refl => exact holds
  | tail _ step ih => exact ih (step.of_holds holds)

/-- Practice gives nobody another name to hold, and no name another kind. -/
theorem Practised.skillsKnown (run : Practised s t) (h : s.Sustained) (known : s.SkillsKnown) :
    t.SkillsKnown := by
  rw [(h.practised run).toMirrored.skillsKnown_iff]
  intro name holds
  rw [run.retold.kindOf?]
  exact h.toMirrored.skillsKnown_iff.mp known name (run.of_holds holds)

/-! ### Lessons -/

/-- A name without outer blanks rests on the skill that has it with them, unless it is the name of
something else. -/
theorem GameState.rests_trim {stored : String} (known : s.kindOf? stored = some .skill)
    (skill : ∀ kind, s.kindOf? (trim stored) = some kind → kind = .skill) :
    s.Rests (trim stored) := by
  cases here : s.kindOf? (trim stored) with
  | none => exact .inr ⟨here, stored, known, (baseName_trim stored).symm⟩
  | some kind => exact .inl (skill kind here ▸ here)

theorem GameState.rests_stored (skill : e.kind = .skill) (free : ∀ kind, trim e.name ≠ e.name →
    s.kindOf? (trim e.name) = some kind → kind = .skill) : (s.put e).Rests (trim e.name) := by
  refine rests_trim (by rw [kindOf?_put, if_pos rfl, skill]) fun kind known => ?_
  rw [kindOf?_put, skill] at known
  split_ifs at known with here
  · exact (Option.some.inj known).symm
  · exact free kind (Ne.symm here) known

namespace GameState.Sustained

theorem addToHolder (h : s.Sustained) {skill : String} (rests : s.Rests (trim skill))
    (holder : String) : (addToHolder s holder skill).1.Sustained where
  toMirrored := h.toMirrored.addToHolder holder skill
  named := by
    rw [← kindOf?_eq_none, kindOf?_addToHolder, kindOf?_eq_none]
    exact h.named
  rests name := by
    rintro ⟨bearer, held⟩
    have same (name : String) : (Skill.addToHolder s holder skill).1.kindOf? name = s.kindOf? name :=
      kindOf?_addToHolder
    simp only [Rests, same]
    rcases held.of_addToHolder with before | rfl
    · exact h.rests name ⟨bearer, before⟩
    · exact rests

theorem teach (h : c.state.Sustained) (learner : Option String) (name description : String)
    {skill : Entity} (rests : c.state.Rests (trim skill.name)) :
    (c.teach learner name description skill).state.Sustained := by
  have same := Scene.resolveLearner_state (c := c) learner name description
  rw [Scene.teach]
  generalize c.resolveLearner learner name description = resolved at same
  obtain ⟨holder, next⟩ := resolved
  dsimp only at same ⊢
  cases holder with
  | none => exact same ▸ h
  | some holder => exact GameState.Sustained.addToHolder (same ▸ h) (same ▸ rests) holder

/-- A skill may take the place of a known one with its base name, where this is replaced by the name
that the skill is held under. -/
theorem supersede (h : s.Sustained) (found : s.find? old.name = some old)
    (oldSkill : old.kind = .skill) (shared : baseName old.name = baseName (trim e.name))
    (skill : e.kind = .skill) (named : e.name ≠ "") (free : ∀ kind, trim e.name ≠ e.name →
      s.kindOf? (trim e.name) = some kind → kind = .skill) :
    (((replaceReferences s old.name (trim e.name)).1.forget old.name).put e).Sustained := by
  have kinds (name : String) :
      (((replaceReferences s old.name (trim e.name)).1.forget old.name).put e).kindOf? name =
        if e.name = name then some .skill else if name = old.name then none
        else s.kindOf? name := by
    rw [kindOf?_put, kindOf?_forget, kindOf?_replaceReferences, skill]
  have outside : ∀ m ∈ (replaceReferences s old.name (trim e.name)).1.party,
      m.isCharacter = true → m.name ≠ old.name := by
    have thing : old.isCharacter = false := by rw [Entity.isCharacter, oldSkill]; rfl
    refine (h.toMirrored.replaceReferences old.name (trim e.name) none).name_ne ?_ thing
    rw [find?_replaceReferences, found, Option.map_some, renamedHolder_eq, thing]
    rfl
  refine ⟨((h.toMirrored.replaceReferences _ _ none).forget outside).put e, ?_, fun name => ?_⟩
  · rw [← kindOf?_eq_none, kinds, if_neg named, kindOf?_eq_none.mpr h.named, ite_self]
  rintro ⟨holder, held⟩
  have held := (held.of_put (by rw [Entity.isCharacter, skill]; rfl)).of_forget
  rcases held.of_replaceReferences h.keyed with ⟨before, spared⟩ | ⟨rfl, -⟩
  · -- Nobody holds the old name any more, and names that rested on it rest on the new skill.
    have apart : name ≠ old.name := fun same => Bool.false_ne_true (spared same).symm
    simp only [Rests, kinds]
    rw [if_neg apart]
    split_ifs with here
    · exact .inl rfl
    refine (h.rests name ⟨holder, before⟩).imp_right ?_
    rintro ⟨free, other, known, same⟩
    refine ⟨free, ?_⟩
    by_cases gone : other = old.name
    · refine ⟨e.name, if_pos rfl, ?_⟩
      rw [← baseName_trim, ← shared, ← gone, same]
    · exact ⟨other, by rw [if_neg gone, known, ite_self], same⟩
  · refine rests_stored skill fun kind blanks known => ?_
    rw [kindOf?_forget, kindOf?_replaceReferences] at known
    split_ifs at known
    exact free kind blanks known

end GameState.Sustained

theorem strandsLesson_spares (whole : strandsLesson attrs s = false)
    (named : text? attrs "name" = some name) {stored : String}
    (stores : lessonName attrs s name = stored) (kind : EntityKind) (blanks : trim stored ≠ stored)
    (known : s.kindOf? (trim stored) = some kind) : kind = .skill := by
  obtain ⟨e, found, rfl⟩ := Option.map_eq_some_iff.mp known
  rw [strandsLesson, named] at whole
  simpa [stores, blanks, found] using whole

theorem learn_sustains (h : c.state.Sustained) (distinct : attrs.keys.Nodup)
    (y : Yields (c.learn attrs) p) (whole : strandsLesson attrs c.state = false) :
    p.scene.state.Sustained := by
  cases Scene.learn_learns distinct y with
  | kept => exact h
  | @refreshed name description known skill learner named described found same =>
    obtain ⟨held, isSkill⟩ := Scene.sameSkill?_known h.keyed found
    rw [← same.name] at held
    have stores : lessonName attrs c.state name = skill.name := by
      rw [lessonName, found, same.name]
      rfl
    have free := strandsLesson_spares whole named stores
    have nonempty : skill.name ≠ "" := fun empty => by
      rw [empty] at held
      exact nomatch h.named.symm.trans held
    refine (h.put (same.kind.trans isSkill) nonempty).teach (c := c.put skill) learner name
      description (GameState.rests_stored (same.kind.trans isSkill) free)
  | @defined name description cleared skill learner named described unknown way raw isSkill =>
    have trimmed : trim skill.name = name := text?_of_raw (rawText?_eq_some.mp raw) named
    have stores : lessonName attrs c.state name = skill.name := by
      rw [lessonName, unknown, raw]
      rfl
    have free := strandsLesson_spares whole named stores
    have nonempty : skill.name ≠ "" := fun empty => by
      refine text?_ne_empty named ?_
      rw [← trimmed, empty]
      decide
    rcases Scene.makeWay?_cases h.keyed way with rfl | ⟨old, found, oldSkill, shared, -, replaced⟩
    · exact (h.put isSkill nonempty).teach (c := cleared.put skill) learner name description
        (GameState.rests_stored isSkill free)
    · rw [← trimmed] at shared replaced
      refine GameState.Sustained.teach (c := cleared.put skill) ?_ learner name description
        (GameState.rests_stored (s := cleared.state) isSkill fun kind blanks known => ?_)
      · change (cleared.state.put skill).Sustained
        rw [replaced]
        exact h.supersede found oldSkill shared isSkill nonempty free
      · rw [replaced, GameState.kindOf?_forget, GameState.kindOf?_replaceReferences] at known
        split_ifs at known
        exact free kind blanks known

/-! ### Renamings -/

namespace Skill

/-- Whether a known entity is held by nobody. -/
def isUnheld (s : GameState) (name : String) : Bool := (s.find? name).isSome && !isHeld s name

theorem forgetUnheld_eq (s : GameState) (name : String) :
    Scene.forgetUnheld name s = if isUnheld s name then s.forget name else s := rfl

theorem kindOf?_forgetUnheld (s : GameState) (dropped name : String) :
    (Scene.forgetUnheld dropped s).kindOf? name =
      if isUnheld s dropped && name = dropped then none else s.kindOf? name := by
  rw [forgetUnheld_eq]
  cases isUnheld s dropped with
  | true => rw [if_pos rfl, GameState.kindOf?_forget]; simp
  | false => rfl

theorem heldBy_forgetUnheld {dropped : String}
    (h : (Scene.forgetUnheld dropped s).HeldBy holder name) :
    s.HeldBy holder name ∧ (isUnheld s dropped && name = dropped) = false := by
  rw [forgetUnheld_eq] at h
  cases lost : isUnheld s dropped with
  | false =>
    rw [lost] at h
    exact ⟨h, rfl⟩
  | true =>
    rw [lost] at h
    have before : s.HeldBy holder name := HeldBy.of_forget h
    refine ⟨before, decide_eq_false fun same => ?_⟩
    have held := Holds.isHeld ⟨holder, before⟩
    rw [same] at held
    simp [isUnheld, held] at lost

theorem mem_heldNames (h : s.Holds name) : name ∈ heldNames s := by
  obtain ⟨holder, e, found, character, held⟩ := h
  exact List.mem_flatMap.mpr
    ⟨e, List.mem_filter.mpr ⟨Keyed.mem_values found, character⟩, held⟩

namespace Renaming

variable {change : Renaming} {holders : Option (List String)}

/-- A name that a renaming does not strand rests on the known skills, if the renaming has lost none
but the old one. -/
theorem rests_of_not_strands {lost : Bool} (apart : change.old ≠ change.new) (keyed : s.WellKeyed)
    (kinds : ∀ name, t.kindOf? name = if lost && name = change.old then none
      else if change.described && change.new = name then some .skill else s.kindOf? name)
    (leaves : lost = true → change.leavesHeld s = false)
    (kept : (lost && name = change.old) = false) (spared : change.strandsName s name = false) :
    t.Rests name := by
  have same (name : String) (kept : (lost && name = change.old) = false) : t.kindOf? name =
      if change.described && change.new = name then some .skill else s.kindOf? name := by
    rw [kinds, kept]
    rfl
  have skilled (name : String) (kept : (lost && name = change.old) = false)
      (known : s.kindOf? name = some .skill) : t.kindOf? name = some .skill := by
    rw [same name kept, known, ite_self]
  -- The name is the described one, or known as before, or to be led to a skill that is left.
  by_cases new : (change.described && change.new = name) = true
  · exact .inl (by rw [same name kept, if_pos new])
  by_cases known : s.kindOf? name = some .skill
  · exact .inl (skilled name kept known)
  have told : s.kindOf? name = none ∧ change.leavesBase s (baseName name) = true := by
    rw [strandsName, Bool.eq_false_iff.mpr new] at spared
    simpa [known] using spared
  refine .inr ⟨by rw [same name kept, if_neg new, told.1], ?_⟩
  rcases Bool.or_eq_true_iff.mp told.2 with defined | left
  · obtain ⟨described, shared⟩ := Bool.and_eq_true_iff.mp defined
    refine ⟨change.new, ?_, of_decide_eq_true shared⟩
    rw [same change.new (by simp [apart.symm])]
    exact if_pos (by simp [described])
  · obtain ⟨e, listed, fits⟩ := List.any_eq_true.mp left
    obtain ⟨stays, shared⟩ := Bool.and_eq_true_iff.mp fits
    obtain ⟨member, isSkill⟩ := List.mem_filter.mp listed
    refine ⟨e.name, skilled e.name ?_ ?_, of_decide_eq_true shared⟩
    · cases lost with
      | false => rfl
      | true =>
        rw [leaves rfl, Bool.or_false] at stays
        exact decide_eq_false (of_decide_eq_true stays)
    · rw [GameState.kindOf?_of_find? (keyed.find?_name member), of_decide_eq_true isSkill]

/-- Whether a state is what a renaming goes on from: the one before, with the new skill if that is
described. -/
structure Prepared (change : Renaming) (holders : Option (List String)) (s r : GameState) : Prop where
  mirrored : r.Mirrored
  named : r.find? "" = none
  kinds : ∀ name, r.kindOf? name =
    if change.described && change.new = name then some .skill else s.kindOf? name
  held : ∀ holder name, r.HeldBy holder name → s.HeldBy holder name
  party : ∀ m ∈ r.party, m.isCharacter = true → m ∈ s.party
  leaves : change.leavesHeld s = true →
    isHeld (replaceReferences r change.old change.new holders).1 change.old = true

theorem prepared_plain (h : s.Sustained) (undescribed : change.described = false) :
    change.Prepared change.holders s s where
  mirrored := h.toMirrored
  named := h.named
  kinds name := by simp [undescribed]
  held _ _ := id
  party _ member _ := member
  leaves stays := (Bool.and_eq_true_iff.mp stays).1

/-- Whoever held a skill name that was renamed for others holds it also where a described skill is
known that does not take the holder's place. -/
theorem isHeld_described {new : String} (h : s.Mirrored)
    (vacant : (s.find? e.name).any (·.isCharacter) = false)
    (held : isHeld (replaceReferences s name new holders).1 name = true) :
    isHeld (replaceReferences (s.put e) name new holders).1 name = true := by
  obtain ⟨holder, bearer, found, character, member⟩ :=
    (h.replaceReferences name new holders).holds held
  rw [GameState.find?_replaceReferences] at found
  obtain ⟨source, before, rfl⟩ := Option.map_eq_some_iff.mp found
  have elsewhere : e.name ≠ holder := by
    rintro rfl
    rw [renamedHolder_isCharacter] at character
    rw [before] at vacant
    exact nomatch character.symm.trans vacant
  refine Holds.isHeld ⟨holder, _, ?_, character, member⟩
  rw [GameState.find?_replaceReferences, GameState.find?_put, if_neg elsewhere, before]
  rfl

theorem prepared_described (h : s.Sustained) (described : change.described = true)
    (isSkill : e.kind = .skill) (new : e.name = change.new) (nonempty : e.name ≠ "")
    {target : Option String} (aimed : change.holders = Scene.targetHolders s target) :
    change.Prepared (Scene.targetHolders (s.put e) target) s (s.put e) := by
  have thing : e.isCharacter = false := by rw [Entity.isCharacter, isSkill]; rfl
  have put := h.put isSkill nonempty
  refine ⟨put.toMirrored, put.named, fun name => ?_, fun _ _ held => held.of_put thing,
    fun m member character => ?_, fun stays => ?_⟩
  · rw [GameState.kindOf?_put, isSkill, described, new]
    simp
  · rcases mem_replaceNamed h.distinct member with ⟨rfl, -⟩ | ⟨listed, -⟩
    · cases thing.symm.trans character
    · exact listed
  · obtain ⟨held, vacant⟩ := Bool.and_eq_true_iff.mp stays
    have vacant : (s.find? e.name).any (·.isCharacter) = false := by
      simpa [described, new] using vacant
    -- The new skill is not the player, so the same holders are aimed at.
    have player : (s.put e).pc? = s.pc? := by
      refine Keyed.find?_values_put (by simp [isSkill]) fun old found => decide_eq_false ?_
      intro isPlayer
      change s.find? e.name = some old at found
      rw [found, Option.any_some, Entity.isCharacter, isPlayer] at vacant
      cases vacant
    rw [Scene.targetHolders, player]
    rw [aimed] at held
    exact isHeld_described h.toMirrored vacant held

namespace Prepared

variable (prepared : change.Prepared holders s r)

include prepared

theorem outside
    (outsiders : s.party.any (fun m => m.isCharacter && m.name = change.old) = false) :
    ∀ m ∈ (replaceReferences r change.old change.new holders).1.party,
      m.isCharacter = true → m.name ≠ change.old := by
  intro m member character
  obtain ⟨source, listed, rfl⟩ := List.mem_map.mp member
  change (renamedMember holders change.old change.new source).isCharacter = true at character
  change (renamedMember holders change.old change.new source).name ≠ change.old
  rw [Entity.isCharacter, renamedMember_kind] at character
  rw [renamedMember_name]
  simpa [Entity.isCharacter, character] using
    List.any_eq_false.mp outsiders source (prepared.party source listed character)

theorem listed (h : (replaceReferences r change.old change.new holders).1.HeldBy holder name) :
    name ∈ change.new :: heldNames s := by
  rcases h.of_replaceReferences prepared.mirrored.keyed with ⟨before, -⟩ | ⟨rfl, -⟩
  · exact List.mem_cons_of_mem _ (mem_heldNames ⟨holder, prepared.held holder name before⟩)
  · exact List.mem_cons_self

/-- A renaming that strands no name sustains the held names. -/
theorem sustained (h : s.Sustained) (apart : change.old ≠ change.new)
    (effect : change.takesEffect s = true) (whole : change.strands s = false) :
    (Scene.forgetUnheld change.old
      (replaceReferences r change.old change.new holders).1).Sustained := by
  rw [strands, effect, Bool.true_and] at whole
  obtain ⟨outsiders, names⟩ := Bool.or_eq_false_iff.mp whole
  have rewritten := prepared.mirrored.replaceReferences change.old change.new holders
  have kinds (name : String) : (Scene.forgetUnheld change.old
      (replaceReferences r change.old change.new holders).1).kindOf? name = _ :=
    kindOf?_forgetUnheld _ change.old name
  simp only [GameState.kindOf?_replaceReferences, prepared.kinds] at kinds
  refine ⟨?_, ?_, fun name => ?_⟩
  · rw [forgetUnheld_eq]
    split_ifs
    · exact rewritten.forget (prepared.outside outsiders)
    · exact rewritten
  · have free := prepared.kinds ""
    rw [GameState.kindOf?_eq_none.mpr prepared.named] at free
    rw [← GameState.kindOf?_eq_none, kinds, ← free, ite_self]
  · rintro ⟨holder, heldBy⟩
    obtain ⟨before, kept⟩ := heldBy_forgetUnheld heldBy
    refine rests_of_not_strands apart h.keyed kinds (fun lost => ?_) kept
      (Bool.eq_false_iff.mpr (List.any_eq_false.mp names name (prepared.listed before)))
    -- A name that is lost is held by nobody.
    refine Bool.eq_false_iff.mpr fun stays => ?_
    simp [isUnheld, prepared.leaves stays] at lost

end Prepared

end Renaming

end Skill

theorem changeSkill_sustains (h : c.state.Sustained) (y : Yields (c.changeSkill attrs) p)
    (whole : (Renaming.ofAttributes? attrs c.state).any (·.strands c.state) = false) :
    p.scene.state.Sustained := by
  cases Scene.changeSkill_changes y with
  | kept => exact h
  | @unheld old new r _ source target apart succeeds nobody state told =>
    rw [state, replaceReferences_of_nobody nobody]
    cases succeeds with
    | plain undescribed => exact h
    | described described named isSkill =>
      exact h.put isSkill (named ▸ text?_ne_empty target)
  | @renamed old new r _ source target apart succeeds somebody state told =>
    rw [state]
    rw [Renaming.ofAttributes?, source, target] at whole
    dsimp only at whole
    rw [if_neg apart, Option.any_some] at whole
    let change : Renaming := ⟨old, new, (text? attrs "description").isSome,
      Scene.targetHolders c.state (text? attrs "target")⟩
    cases succeeds with
    | plain undescribed =>
      have prepared : change.Prepared change.holders c.state c.state :=
        Renaming.prepared_plain h (by simp [change, undescribed])
      refine prepared.sustained h apart ?_ whole
      simpa [change, Renaming.takesEffect, undescribed] using somebody
    | @described e described named isSkill =>
      have prepared : change.Prepared _ c.state (c.state.put e) :=
        Renaming.prepared_described h described isSkill named (named ▸ text?_ne_empty target) rfl
      refine prepared.sustained h apart ?_ whole
      simp [change, Renaming.takesEffect, described]

/-! ### Tags -/

/-- A tag of skills sustains the held names, unless it strands one. -/
theorem TagKind.play_sustains (skills : kind ∈ ofSkills) (distinct : attrs.keys.Nodup)
    (y : Yields (kind.play attrs c) p) (h : c.state.Sustained)
    (whole : kind.strands attrs c.state = false) : p.scene.state.Sustained := by
  simp only [ofSkills, List.mem_cons, List.not_mem_nil, or_false] at skills
  rcases skills with rfl | rfl | rfl | rfl | rfl | rfl
  · exact learn_sustains h distinct y whole
  · exact changeSkill_sustains h y whole
  · exact h.practised (Scene.gainSkillExp_drilled h.keyed y).practised
  · exact h.practised (Scene.rewardSkills_drilled h.keyed y).practised
  · exact h.practised (Scene.breakThrough_drilled h.keyed y).practised
  · exact h.practised (Scene.rollForSkills_drilled h.keyed y).practised

/-- A tag of skills that reports no change leaves every held name that of a known skill. -/
theorem TagKind.play_quiet (skills : kind ∈ ofSkills) (distinct : attrs.keys.Nodup)
    (y : Yields (kind.play attrs c) p) (h : c.state.Sustained) (untold : p.changed = false)
    (known : c.state.SkillsKnown) : p.scene.state.SkillsKnown := by
  have idle (trains : kind.trains attrs c.state = []) : p.scene.state = c.state := by
    refine (TagKind.play_acts distinct y).silent untold ?_
    rintro ⟨amount, name, e, -, -, trained, -⟩
    rw [trains] at trained
    exact absurd trained List.not_mem_nil
  simp only [ofSkills, List.mem_cons, List.not_mem_nil, or_false] at skills
  rcases skills with rfl | rfl | rfl | rfl | rfl | rfl
  · exact idle rfl ▸ known
  · exact idle rfl ▸ known
  · exact (Scene.gainSkillExp_drilled h.keyed y).practised.skillsKnown h known
  · exact (Scene.rewardSkills_drilled h.keyed y).practised.skillsKnown h known
  · exact (Scene.breakThrough_drilled h.keyed y).practised.skillsKnown h known
  · exact (Scene.rollForSkills_drilled h.keyed y).practised.skillsKnown h known

end Gamebook
