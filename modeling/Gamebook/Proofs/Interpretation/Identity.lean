import Gamebook.Proofs.Acting.Run
import Gamebook.Proofs.ReferenceId
import Gamebook.Proofs.Tag.Identity

/-!
Names and reference ids through a narrative. Interpretation never fails on a state whose entities stand
under their own names, and leaves such a state behind; nothing else can stop it, as a search for a
reference id ends with a free one. As long as no tag brings along an id that another entity has, or
files an item a second time, the ids of all known entities stay distinct; synchronization draws new
ids for what it defines and moves the others.
-/

namespace Gamebook

open Play (Yields yields_pure)

/-! ### Names -/

/-- Interpretation with effects gives a result on every well-keyed state, whatever is drawn, and the
known entities of the result stand under their own names again. No search for a reference id on the
way is cut short: each ends with an id that is not taken. -/
theorem interpret_keeps_keys {s : GameState} (h : s.WellKeyed) (rules : List Rule) (text : String)
    (d : Draws) : (∃ i d', interpret rules text s d = (.ok i, d') ∧ i.state.WellKeyed) ∧
      ∀ type category taken drawn, (ReferenceId.generate type category taken drawn).1 ∉ taken := by
  refine ⟨?_, ReferenceId.generate_not_mem⟩
  exact interpret_preserves (P := GameState.WellKeyed) (fun _ keyed => keyed)
    (fun _ _ _ _ _ keyed change => change.wellKeyed keyed) (fun _ _ keyed run => run.wellKeyed keyed) h

/-- A village with a hero who holds a skill that no entity stands for. -/
def village : GameState :=
  { knownEntities :=
      [("Hero", { name := "Hero", kind := .pc, learnedSkills := ["Sword (cao cấp)"] }),
        ("Sword", { name := "Sword", kind := .skill, referenceId := some "REF_SK_SKI_AA" })]
    party := [{ name := "Hero", kind := .pc, learnedSkills := ["Sword (cao cấp)"] }] }

theorem village_keeps_keys : village.WellKeyed ∧
    ∃ i d', interpret [] "[ENTITY_UPDATE: name=Hero newName=Sword]" village
      { tokens := ["aa", "aa"] } = (.ok i, d') ∧ i.state.WellKeyed :=
  ⟨by decide, (interpret_keeps_keys (by decide) [] _ _).1⟩

/-! ### Synchronization -/

namespace Skill

variable {s : GameState} {e : Entity} {y next : Sync} {holder held target : String}

/-- A skill takes its id along to its new name. -/
theorem renameEntity_identified (keyed : s.WellKeyed) (h : s.Identified)
    (found : s.find? e.name = some e) (new : String) : (renameEntity s e.name new).Identified := by
  have same : s.idAt? e.name = e.id? := GameState.idAt?_of_find? found
  have moved : (s.rename e.name (e.called new)).Identified := h.rename (h.admits_moved same)
  exact moved.congr (GameState.idAt?_congr (GameState.renameEntity_known keyed found new))

namespace Sync

theorem outrank_identified (sound : y.Sound) (h : y.state.Identified)
    (pointed : y.best.get? (baseName held) = some target)
    (given : Yields (y.outrank (baseName held) held target) next) : next.state.Identified := by
  obtain ⟨-, isSkill⟩ := sound.points _ _ pointed
  obtain ⟨skill, found, -⟩ := Option.map_eq_some_iff.mp isSkill
  obtain rfl := sound.keyed.name_eq found
  rw [outrank] at given
  split_ifs at given
  · obtain ⟨lower, -, given⟩ := given.bind
    obtain ⟨id, drawn, given⟩ := given.bind
    obtain rfl := yields_pure.mp given
    exact h.put (e := { lower with name := held, referenceId := some id })
      (GameState.admits_of_spare (ReferenceId.forState_yields drawn) rfl)
  · obtain rfl := yields_pure.mp given
    exact (renameEntity_identified sound.keyed h found held).congr fun _ =>
      GameState.idAt?_replaceReferences

theorem resolve_identified (sound : y.Sound) (h : y.state.Identified)
    (given : Yields (y.resolve holder held) next) : next.state.Identified := by
  rw [resolve] at given
  split_ifs at given
  · obtain rfl := yields_pure.mp given
    exact h
  dsimp only at given
  split at given
  · obtain rfl := yields_pure.mp given
    exact h
  · rename_i target pointed
    split_ifs at given
    · obtain rfl := yields_pure.mp given
      exact h
    · exact outrank_identified sound h pointed given
    · obtain rfl := yields_pure.mp given
      exact h.congr fun _ => GameState.idAt?_replaceReferences

theorem resolveHolder_identified (sound : y.Sound) (h : y.state.Identified)
    (given : Yields (y.resolveHolder holder) next) : next.Sound ∧ next.state.Identified := by
  refine ⟨((resolveHolder_gives sound holder).of_yields given).1, ?_⟩
  rw [resolveHolder] at given
  split at given
  · obtain rfl := yields_pure.mp given
    exact h
  · exact (given.foldlM (P := fun reached => reached.Sound ∧ reached.state.Identified)
      (fun reached held further before step =>
        ⟨((resolve_gives before.1 holder held).of_yields step).1,
          resolve_identified before.1 before.2 step⟩)
      ⟨sound, h⟩).2

end Sync

theorem synchronize_identified {done : GameState × List (String × String)} (keyed : s.WellKeyed)
    (h : s.Identified) (given : Yields (synchronize s) done) : done.1.Identified := by
  obtain ⟨last, resolved, given⟩ := given.bind
  obtain rfl := yields_pure.mp given
  exact (resolved.foldlM (P := fun reached => reached.Sound ∧ reached.state.Identified)
    (fun _ _ _ ⟨sound, h⟩ step => Sync.resolveHolder_identified sound h step)
    ⟨Sync.start_sound keyed, h⟩).2

end Skill

/-! ### Narratives -/

/-- Whether a tag gives a reference id to a second entity. -/
def Tag.clashes (t : Tag) (s : GameState) : Bool :=
  match t.kind? with
  | some kind => kind.clashes (Attribute.parse t.body) s
  | none => false

/-- If the reference ids of the known entities are distinct, interpretation of a narrative leaves
them distinct, as long as no tag clashes on the state that it is played on. -/
theorem interpret_keeps_ids {s : GameState} {rules : List Rule} {text : String} {d : Draws}
    (keyed : s.WellKeyed) (unique : (ReferenceId.idsOf s).Nodup)
    (clashless : ∀ stage ∈ stagesOf rules text s d, stage.1.clashes stage.2 = false) :
    ∃ i d', interpret rules text s d = (.ok i, d') ∧ (ReferenceId.idsOf i.state).Nodup := by
  obtain ⟨i, d', ok⟩ := interpret_gives keyed rules text d
  refine ⟨i, d', ok, ?_⟩
  have kept : i.state.WellKeyed ∧ i.state.Identified := by
    refine interpret_keeps (P := fun t _ => t.WellKeyed ∧ t.Identified)
      (fun stage member kind p tag y _ ⟨keyed, h⟩ => ?_) (fun _ whole => whole)
      (fun t _ done ⟨keyed, h⟩ given => ?_) ⟨keyed, (GameState.nodup_idsOf keyed).mp unique⟩ ok
    · have distinct : (Attribute.parse stage.1.body).keys.Nodup := Keyed.nodup_ofPairs _
      have fits := clashless stage member
      rw [Tag.clashes, tag] at fits
      exact ⟨(TagKind.play_recasts keyed distinct y).wellKeyed keyed,
        TagKind.play_identified keyed h distinct fits y⟩
    · exact ⟨((Skill.synchronize_gives keyed).of_yields given).wellKeyed keyed,
        Skill.synchronize_identified keyed h given⟩
  exact (GameState.nodup_idsOf kept.1).mpr kept.2

/-- An amulet that has an id. -/
def treasury : GameState :=
  { knownEntities :=
      [("Amulet", { name := "Amulet", kind := .item, referenceId := some "REF_IT_ITE_0000000A" })] }

/-- A ring is found, and somebody comes along whose id is told. -/
def arrivals : String :=
  "[LORE_ITEM: name=Ring][COMPANION: name=Lan description=Fast referenceId=REF_CO_CHA_0000000B]"

theorem treasury_keeps_ids : treasury.WellKeyed ∧ (ReferenceId.idsOf treasury).Nodup ∧
    (∀ stage ∈ stagesOf [] arrivals treasury {}, stage.1.clashes stage.2 = false) ∧
    ∃ i d', interpret [] arrivals treasury {} = (.ok i, d') ∧
      (ReferenceId.idsOf i.state).Nodup := by
  have keyed : treasury.WellKeyed := by decide
  have unique : (ReferenceId.idsOf treasury).Nodup := by decide
  have clashless : ∀ stage ∈ stagesOf [] arrivals treasury {}, stage.1.clashes stage.2 = false := by
    decide +kernel
  exact ⟨keyed, unique, clashless, interpret_keeps_ids keyed unique clashless⟩

/-- A tag that brings along the id of the amulet gives it to the ring as well. -/
theorem treasury_repeats_id : treasury.WellKeyed ∧ (ReferenceId.idsOf treasury).Nodup ∧
    ∃ i d', interpret [] "[LORE_ITEM: name=Ring referenceId=REF_IT_ITE_0000000A]" treasury {} =
      (.ok i, d') ∧ ¬(ReferenceId.idsOf i.state).Nodup := by
  refine ⟨by decide, by decide, ?_⟩
  have repeated : Play.passes (interpret []
      "[LORE_ITEM: name=Ring referenceId=REF_IT_ITE_0000000A]" treasury) {}
      (fun i _ => ¬(ReferenceId.idsOf i.state).Nodup) = true := by
    decide +kernel
  obtain ⟨i, d', ok, twice⟩ := Play.exists_of_passes repeated
  exact ⟨i, d', ok, of_decide_eq_true twice⟩

end Gamebook
