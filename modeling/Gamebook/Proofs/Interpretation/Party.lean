import Gamebook.Proofs.Cast.Party
import Gamebook.Proofs.Tag.Run

/-!
The party keeps in step with the known entities through any narrative, as long as no tag strikes a
member: gives a member's name to something else, drops or retypes the known entity behind a member.
Such tags change one of the two copies only, or leave two members of one name.
-/

namespace Gamebook

open Attribute
open GameState (Company Outside)

/-! ### Strikes -/

/-- Whether a tag gives the name of a party member to something else, or makes of the member what
cannot be in a party. -/
def TagKind.strikes (kind : TagKind) (attrs : Fields) (s : GameState) (m : Entity) : Bool :=
  match kind with
  | .loreNpc => false
  | .companion => false
  | .lorePc =>
    m.kind ≠ .pc &&
      if s.pc?.isSome then text? attrs "name" = some m.name else rawText? attrs "name" = some m.name
  | .entityUpdate =>
    match text? attrs "name" with
    | some name =>
      if name = m.name then
        ((rawText? attrs "type").bind EntityKind.ofName?).any (!·.isCharacter)
      else (s.find? name).isSome && text? attrs "newName" = some m.name
    | none => false
  | _ => kind.takesOver attrs m.name

/-- Whether a tag strikes a member of the party. -/
def Tag.strikesParty (t : Tag) (s : GameState) : Bool :=
  match t.kind? with
  | some kind => s.party.any (kind.strikes (Attribute.parse t.body) s)
  | none => false

variable {s t : GameState} {kind : TagKind} {attrs : Fields} {e m : Entity} {name : String}

/-! ### Tags -/

theorem ofName?_name (kind : EntityKind) : EntityKind.ofName? kind.name = some kind := by
  cases kind <;> decide

/-- What is introduced is a character, or no member has its name. -/
theorem introduced_outside (spared : ∀ m ∈ s.party, kind.strikes attrs s m = false)
    (named : kind.introduces attrs e.name = true) (kinded : kind.introduced? = some e.kind) :
    s.Outside e.name ∨ e.isCharacter = true := by
  refine or_iff_not_imp_right.mpr fun thing m member same => ?_
  have struck := spared m member
  rw [← same] at named
  rw [Entity.isCharacter] at thing
  cases kind <;>
    first
    | exact absurd (struck.symm.trans named) Bool.false_ne_true
    | exact thing (Option.some.inj kinded ▸ rfl)
    | cases kinded

/-- An updated member stays a character. -/
theorem updated_outside {updated : Entity} (h : s.Company) (found : s.find? e.name = some e)
    (asked : text? attrs "name" = some e.name) (given : KindGiven attrs e updated)
    (spared : ∀ m ∈ s.party, TagKind.strikes .entityUpdate attrs s m = false) :
    s.Outside e.name ∨ updated.isCharacter = true := by
  rcases given with same | told
  · cases character : e.isCharacter with
    | true => exact .inr ((congrArg EntityKind.isCharacter same).trans character)
    | false => exact .inl (h.outside found character)
  · refine or_iff_not_imp_right.mpr fun thing m member same => ?_
    have struck := spared m member
    rw [Entity.isCharacter] at thing
    simp [TagKind.strikes, asked, same, told, ofName?_name, thing] at struck

theorem Recasts.keepsCompany (step : Recasts kind attrs s t) (h : s.Company)
    (spared : ∀ m ∈ s.party, kind.strikes attrs s m = false) : t.Company := by
  cases step with
  | retold rest => exact h.retold rest
  | introduced named kinded rest =>
    exact (h.put (introduced_outside spared named kinded)).retold rest
  | superseded found skill named kinded rest =>
    refine (((h.replaceReferences ..).forget ?_).put ?_).retold rest
    · have gone := h.outside found (by rw [Entity.isCharacter, skill]; rfl)
      exact gone.of_names (GameState.names_replaceReferences _ _ _ none)
    · exact (introduced_outside spared named kinded).imp_left fun outside =>
        outside.of_names (GameState.names_replaceReferences _ _ _ none)
  | joined named kinded companion =>
    subst companion
    exact h.join (by rw [Entity.isCharacter, ← Option.some.inj kinded]; rfl)
  | forgotten found item =>
    exact h.forget (h.outside found (by rw [Entity.isCharacter, item]; rfl))
  | transformed tag source target item =>
    subst tag
    have apart : ∀ m ∈ s.party, _ ≠ m.name ∧ _ ≠ m.name := fun m member => by
      simpa [TagKind.strikes, TagKind.takesOver, source, target] using spared m member
    have cleared := h.forget fun m member => (apart m member).1.symm
    exact cleared.put (.inl fun m member => (apart m member).2.symm)
  | @succeeded old new r t tag source target apart defined rest dropped =>
    subst tag
    have spared : ∀ m ∈ s.party, old ≠ m.name ∧
        (new = m.name → (text? attrs "description").isSome = false) := fun m member => by
      simpa [TagKind.strikes, TagKind.takesOver, source, target, apart] using spared m member
    have started : r.Company ∧ r.party.map (·.name) = s.party.map (·.name) := by
      obtain rfl | ⟨e, described, rfl, skill, rfl⟩ := defined
      · exact ⟨h, rfl⟩
      · refine ⟨h.put (.inl fun m member same => ?_), map_name_replaceNamed e s.party⟩
        rw [(spared m member).2 same.symm] at described
        cases described
    have outside : s.Outside old := fun m member => (spared m member).1.symm
    have reached := started.1.retold rest
    split_ifs
    · exact reached.forget (outside.of_names ((GameState.names_retold rest).trans started.2))
    · exact reached
  | updated tag found asked named kinded rest =>
    subst tag
    refine (h.put ?_).retold rest
    rw [named]
    exact updated_outside h found asked kinded spared
  | renamed tag found asked named apart kinded rest =>
    subst tag
    refine (h.rename (fun m member same => ?_) (updated_outside h found asked kinded spared)).retold
      rest
    -- To take a member's name is to strike that member.
    have struck := spared m member
    rw [same.symm] at apart named
    simp [TagKind.strikes, asked, named, apart.symm, found] at struck
  | @playerIntroduced pc t tag absent named kinded rest =>
    subst tag
    refine (h.led (h.keyed.putKnown pc) (Keyed.get?_put_self ..) kinded rfl ?_).retold rest
    intro m member other
    have apart : m.name ≠ pc.name := fun same => by
      have struck := spared m member
      simp [TagKind.strikes, absent, named, same, other] at struck
    exact ⟨apart, Keyed.get?_put_of_ne apart.symm⟩
  | @playerDescribed existing pc t tag present named kinded rest =>
    subst tag
    obtain ⟨listed, player⟩ := GameState.pc?_eq_some present
    have known := h.keyed.find?_name listed
    have apart : ∀ m ∈ s.party, m.kind ≠ .pc → m.name ≠ existing.name ∧ m.name ≠ pc.name := by
      intro m member other
      have copied : m.name ≠ existing.name := fun same => by
        have copy := h.copies m member
        rw [same, known] at copy
        exact other (Option.some.inj copy ▸ player)
      refine ⟨copied, fun same => ?_⟩
      have struck := spared m member
      cases given : text? attrs "name" with
      | none => exact copied (same.trans (by rw [named, given]; rfl))
      | some n =>
        have own : n = m.name := by rw [same, named, given]; rfl
        simp [TagKind.strikes, present, given, own, other] at struck
    rw [Scene.storePlayer] at rest
    split_ifs at rest
    · refine (h.led (h.keyed.putKnown pc) (Keyed.get?_put_self ..) kinded rfl ?_).retold rest
      intro m member other
      have elsewhere := (apart m member other).2
      exact ⟨elsewhere, Keyed.get?_put_of_ne elsewhere.symm⟩
    · have own : ∀ m ∈ s.party, m.name = existing.name → m.kind = .pc := fun m member same =>
        not_not.mp fun other => (apart m member other).1 same
      refine (h.led (h.keyed.rename existing.name pc) ?_ kinded
        (GameState.others_rename kinded own) ?_).retold rest
      · rw [GameState.find?_rename, if_pos rfl]
      · intro m member other
        obtain ⟨old, new⟩ := apart m member other
        exact ⟨new, by rw [GameState.find?_rename, if_neg new, if_neg old]⟩

/-! ### Narratives -/

/-- Interpretation keeps a party of characters in step with the known entities, if no tag of the
narrative strikes a member on the state that the tag is played on. -/
theorem interpret_keeps_party {s : GameState} {rules : List Rule} {text : String} {d : Draws}
    (inStep : s.InStep) (characters : ∀ m ∈ s.party, m.isCharacter = true)
    (spared : ∀ stage ∈ stagesOf rules text s d, stage.1.strikesParty stage.2 = false) :
    ∃ i d', interpret rules text s d = (.ok i, d') ∧ i.state.InStep ∧
      ∀ m ∈ i.state.party, m.isCharacter = true := by
  obtain ⟨i, d', ok, company⟩ := interpret_preserves (P := Company) (fun _ h => h.keyed)
    (fun stage member kind t known h change => by
      have kept := spared stage member
      rw [Tag.strikesParty, known] at kept
      exact change.keepsCompany h fun m listed => by
        simpa using List.any_eq_false.mp kept m listed)
    (fun _ _ h run => h.settled run) ⟨inStep, characters⟩
  exact ⟨i, d', ok, company.toInStep, company.characters⟩

def lan : Entity := { name := "Lan", kind := .npc, skills := ["Sword"] }

def minh : Entity := { name := "Minh", kind := .companion }

/-- A party of two. -/
def fellows : GameState :=
  { knownEntities := [("Lan", lan), ("Minh", minh)], party := [lan, minh] }

theorem fellows_inStep : fellows.InStep where
  keyed := by decide
  distinct := by decide
  copies m member := by
    rcases List.mem_cons.mp member with rfl | member
    · rfl
    · rw [List.mem_singleton.mp member]
      rfl

/-- A member is renamed, and a skill of hers after that. -/
def renamings : String :=
  "[ENTITY_UPDATE: name=Lan newName=Hoa][SKILL_UPDATE: oldSkill=Sword newSkill=Blade]"

theorem fellows_keep_step : fellows.InStep ∧ (∀ m ∈ fellows.party, m.isCharacter = true) ∧
    (∀ stage ∈ stagesOf [] renamings fellows {}, stage.1.strikesParty stage.2 = false) ∧
    ∃ i d', interpret [] renamings fellows {} = (.ok i, d') ∧ i.state.InStep ∧
      ∀ m ∈ i.state.party, m.isCharacter = true :=
  ⟨fellows_inStep, by decide, by decide +kernel,
    interpret_keeps_party fellows_inStep (by decide) (by decide +kernel)⟩

/-- A member who takes the name of another leaves two members of that name. -/
theorem fellows_lose_step : fellows.InStep ∧
    ∃ i d', interpret [] "[ENTITY_UPDATE: name=Lan newName=Minh]" fellows {} = (.ok i, d') ∧
      ¬i.state.InStep := by
  refine ⟨fellows_inStep, ?_⟩
  have doubled : Play.passes (interpret [] "[ENTITY_UPDATE: name=Lan newName=Minh]" fellows) {}
      (fun i _ => ¬(i.state.party.map (·.name)).Nodup) = true := by
    decide +kernel
  obtain ⟨i, d', ok, twice⟩ := Play.exists_of_passes doubled
  exact ⟨i, d', ok, fun inStep => of_decide_eq_true twice inStep.distinct⟩

end Gamebook
