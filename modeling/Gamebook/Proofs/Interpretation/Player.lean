import Gamebook.Proofs.Tag.Run

/-!
One player character. Tags may overwrite any entity by its name, the player character too, and the
general update may set any kind; interpretation keeps the player character the only one as long as
no tag does either of these to it.
-/

namespace Gamebook

open Attribute
open Skill (Settles Settled)

/-! ### Displacement -/

/-- Whether a general update makes another kind of entity of the player, makes a player of another
known entity or gives the player's name to it. -/
def updatesPlayer (attrs : Fields) (s : GameState) (player : String) : Bool :=
  match text? attrs "name" with
  | some name =>
    if name = player then (rawText? attrs "type").any (· ≠ EntityKind.pc.name)
    else (s.find? name).isSome &&
      (rawText? attrs "type" = some EntityKind.pc.name || text? attrs "newName" = some player)
  | none => false

/-- Whether a tag may take the player's place, or give it to another entity. -/
def Tag.displacesPlayer (t : Tag) (s : GameState) : Bool :=
  match t.kind?, s.pc? with
  | some kind, some pc =>
    kind.takesOver (Attribute.parse t.body) pc.name ||
      kind = .entityUpdate && updatesPlayer (Attribute.parse t.body) s pc.name
  | _, _ => false

namespace GameState

variable {s t : GameState} {e : Entity} {player name : String}

/-- Whether the player character is the only one, under a name. -/
def SolePlayer (s : GameState) (player : String) : Prop :=
  ∀ name, s.kindOf? name = some .pc ↔ name = player

theorem mem_ofKind_iff (h : s.WellKeyed) {kind : EntityKind} :
    e ∈ s.ofKind kind ↔ s.find? e.name = some e ∧ e.kind = kind := by
  constructor
  · intro member
    obtain ⟨held, isKind⟩ := List.mem_filter.mp member
    exact ⟨h.find?_name held, of_decide_eq_true isKind⟩
  · rintro ⟨found, isKind⟩
    exact List.mem_filter.mpr ⟨Keyed.mem_values found, decide_eq_true isKind⟩

theorem exists_sole (h : s.WellKeyed) (one : (s.ofKind .pc).length = 1) :
    ∃ player, s.SolePlayer player := by
  obtain ⟨pc, only⟩ := List.length_eq_one_iff.mp one
  refine ⟨pc.name, fun name => ⟨fun isPlayer => ?_, ?_⟩⟩
  · obtain ⟨e, found, kind⟩ := Option.map_eq_some_iff.mp isPlayer
    have named := h.name_eq found
    have member : e ∈ s.ofKind .pc := (mem_ofKind_iff h).mpr ⟨named ▸ found, kind⟩
    rw [only, List.mem_singleton] at member
    rw [← named, member]
  · rintro rfl
    have member : pc ∈ s.ofKind .pc := only ▸ List.mem_singleton_self pc
    obtain ⟨found, kind⟩ := (mem_ofKind_iff h).mp member
    rw [kindOf?_of_find? found, kind]

theorem SolePlayer.length_eq_one (sole : s.SolePlayer player) (h : s.WellKeyed) :
    (s.ofKind .pc).length = 1 := by
  obtain ⟨pc, found, kind⟩ := Option.map_eq_some_iff.mp ((sole player).mpr rfl)
  have member : pc ∈ s.ofKind .pc := (mem_ofKind_iff h).mpr ⟨h.name_eq found ▸ found, kind⟩
  have names : ∀ name ∈ (s.ofKind .pc).map (·.name), name = player := by
    intro name listed
    obtain ⟨e, isPlayer, rfl⟩ := List.mem_map.mp listed
    obtain ⟨held, isKind⟩ := (mem_ofKind_iff h).mp isPlayer
    exact (sole e.name).mp (by rw [kindOf?_of_find? held, isKind])
  have distinct : ((s.ofKind .pc).map (·.name)).Nodup :=
    h.nodup_names.sublist (List.filter_sublist.map _)
  rw [List.eq_replicate_of_mem names, List.nodup_replicate, List.length_map] at distinct
  exact Nat.le_antisymm distinct (List.length_pos_of_mem member)

theorem SolePlayer.pc? (sole : s.SolePlayer player) (h : s.WellKeyed) :
    ∃ pc, s.pc? = some pc ∧ pc.name = player := by
  obtain ⟨pc, found, kind⟩ := Option.map_eq_some_iff.mp ((sole player).mpr rfl)
  cases first : s.pc? with
  | none =>
    have none := List.find?_eq_none.mp first pc (Keyed.mem_values found)
    exact absurd (decide_eq_true kind) none
  | some other =>
    obtain ⟨held, isPlayer⟩ := pc?_eq_some first
    exact ⟨other, rfl, (sole other.name).mp
      (by rw [kindOf?_of_find? (h.find?_name held), isPlayer])⟩

theorem SolePlayer.congr (sole : s.SolePlayer player)
    (same : ∀ name, t.kindOf? name = s.kindOf? name) : t.SolePlayer player := by
  intro name
  rw [same]
  exact sole name

theorem SolePlayer.retold (sole : s.SolePlayer player) (run : Retold s t) : t.SolePlayer player :=
  sole.congr run.kindOf?

theorem SolePlayer.kind_iff (sole : s.SolePlayer player) (found : s.find? e.name = some e) :
    e.kind = .pc ↔ e.name = player := by
  rw [← sole, kindOf?_of_find? found, Option.some_inj]

theorem SolePlayer.put (sole : s.SolePlayer player) (kind : e.kind = .pc ↔ e.name = player) :
    (s.put e).SolePlayer player := by
  intro name
  rw [kindOf?_put]
  split_ifs with same
  · rw [Option.some_inj, kind, same]
  · exact sole name

theorem SolePlayer.not_free (sole : s.SolePlayer player) (free : s.find? name = none) :
    name ≠ player := by
  rintro rfl
  have present := (sole name).mpr rfl
  rw [kindOf?, free] at present
  cases present

theorem SolePlayer.putKnown (sole : s.SolePlayer player) (kind : e.kind = .pc ↔ e.name = player) :
    (s.putKnown e.name e).SolePlayer player :=
  sole.put kind

theorem SolePlayer.led (sole : s.SolePlayer player) (pc : Entity) : (s.led pc).SolePlayer player :=
  sole

theorem SolePlayer.forget (sole : s.SolePlayer player) (other : name ≠ player) :
    (s.forget name).SolePlayer player := by
  intro asked
  rw [kindOf?_forget]
  split_ifs with same
  · simp [same, other]
  · exact sole asked

theorem SolePlayer.renamePlayer (sole : s.SolePlayer player) (kind : e.kind = .pc) :
    (s.rename player e).SolePlayer e.name := by
  intro asked
  rw [kindOf?_rename]
  split_ifs with new old
  · simp [new, kind]
  · simp [new]
  · simp [new, sole asked, old]

theorem SolePlayer.renameOther (sole : s.SolePlayer player) (kind : e.kind ≠ .pc)
    (old : name ≠ player) (new : e.name ≠ player) : (s.rename name e).SolePlayer player := by
  intro asked
  rw [kindOf?_rename]
  split_ifs with here there
  · simp [here, kind, new]
  · simp [there, old]
  · exact sole asked

end GameState

/-! ### Tags -/

open GameState (SolePlayer)

variable {s t : GameState} {kind : TagKind} {attrs : Fields} {player name : String} {e : Entity}

theorem introduced?_ne_pc (kind : TagKind) : kind.introduced? ≠ some .pc := by
  cases kind <;> decide

theorem TagKind.takesOver_of_introduces (h : kind.introduces attrs name = true) :
    kind.takesOver attrs name = true := by
  cases kind <;> first | exact h | exact nomatch h

/-- An entity that a tag introduces is not the player and stands elsewhere. -/
theorem introduced_other (spared : kind.takesOver attrs player = false)
    (named : kind.introduces attrs e.name = true) (kinded : kind.introduced? = some e.kind) :
    e.kind = .pc ↔ e.name = player := by
  refine iff_of_false (fun isPlayer => introduced?_ne_pc kind (isPlayer ▸ kinded)) fun same => ?_
  rw [same] at named
  exact nomatch (TagKind.takesOver_of_introduces named).symm.trans spared

theorem skill_other (sole : s.SolePlayer player) (found : s.find? e.name = some e)
    (skill : e.kind = .skill) : e.name ≠ player := by
  rw [ne_eq, ← sole.kind_iff found, skill]
  decide

/-- An updated entity is a player afterwards only if it has been before or the tag says so. -/
theorem KindGiven.isPlayer {updated : Entity} (given : KindGiven attrs e updated)
    (other : e.kind ≠ .pc) (untold : rawText? attrs "type" ≠ some EntityKind.pc.name) :
    updated.kind ≠ .pc := by
  rcases given with same | told
  · exact same ▸ other
  · exact fun isPlayer => untold (isPlayer ▸ told)

/-- A player stays one under an update that tells no other kind. -/
theorem KindGiven.staysPlayer {updated : Entity} (given : KindGiven attrs e updated)
    (isPlayer : e.kind = .pc)
    (untold : (rawText? attrs "type").any (· ≠ EntityKind.pc.name) = false) :
    updated.kind = .pc := by
  rcases given with same | told
  · exact same.trans isPlayer
  · rw [told] at untold
    exact EntityKind.name_injective (by simpa using untold)

/-- What a general update that spares the player does not tell. -/
theorem updatesPlayer_spares (found : s.find? e.name = some e)
    (asked : text? attrs "name" = some e.name) (spared : updatesPlayer attrs s player = false) :
    if e.name = player then (rawText? attrs "type").any (· ≠ EntityKind.pc.name) = false
    else rawText? attrs "type" ≠ some EntityKind.pc.name ∧ text? attrs "newName" ≠ some player := by
  rw [updatesPlayer, asked] at spared
  dsimp only at spared
  split_ifs at spared ⊢
  · exact spared
  · simpa [found] using spared

theorem GameState.SolePlayer.defines {r : GameState} (sole : s.SolePlayer player)
    (undescribed : name = player → (text? attrs "description").isSome = false)
    (defined : Defines attrs name s r) : r.SolePlayer player := by
  obtain rfl | ⟨e, described, rfl, skill, rfl⟩ := defined
  · exact sole
  · refine sole.put (iff_of_false ?_ fun same => ?_)
    · rw [skill]
      decide
    · exact nomatch described.symm.trans (undescribed same)

theorem Recasts.keepsPlayer (step : Recasts kind attrs s t) (h : s.WellKeyed)
    (sole : s.SolePlayer player) (spared : kind.takesOver attrs player = false)
    (known : (kind = .entityUpdate && updatesPlayer attrs s player) = false) :
    ∃ player, t.SolePlayer player := by
  cases step with
  | retold rest => exact ⟨player, sole.retold rest⟩
  | introduced named kinded rest =>
    exact ⟨player, (sole.put (introduced_other spared named kinded)).retold rest⟩
  | superseded found skill named kinded rest =>
    refine ⟨player, SolePlayer.retold (.put (.forget (.retold sole ?_) ?_) ?_) rest⟩
    · exact .single (.rewrite ..)
    · exact skill_other sole found skill
    · exact introduced_other spared named kinded
  | joined named kinded companion =>
    exact ⟨player, SolePlayer.putKnown sole (introduced_other spared named kinded)⟩
  | forgotten found item =>
    refine ⟨player, sole.forget ?_⟩
    rw [ne_eq, ← sole.kind_iff found, item]
    decide
  | transformed tag source target item =>
    subst tag
    obtain ⟨old, new⟩ : _ ≠ player ∧ _ ≠ player := by
      simpa [TagKind.takesOver, source, target] using spared
    refine ⟨player, (sole.forget old).put (iff_of_false ?_ new)⟩
    rw [item]
    decide
  | succeeded tag source target apart defined rest dropped =>
    subst tag
    obtain ⟨other, undescribed⟩ : _ ≠ player ∧
        (_ = player → (text? attrs "description").isSome = false) := by
      simpa [TagKind.takesOver, source, target, apart] using spared
    have reached : SolePlayer _ player := SolePlayer.retold (sole.defines undescribed defined) rest
    refine ⟨player, ?_⟩
    split_ifs
    · exact reached.forget other
    · exact reached
  | updated tag found asked named kinded rest =>
    subst tag
    have untold := updatesPlayer_spares found asked (by simpa using known)
    refine ⟨player, (sole.put ?_).retold rest⟩
    rw [named]
    split_ifs at untold with same
    · exact iff_of_true (kinded.staysPlayer ((sole.kind_iff found).mpr same) untold) same
    · have other := mt (sole.kind_iff found).mp same
      exact iff_of_false (kinded.isPlayer other untold.1) same
  | renamed tag found asked named apart kinded rest =>
    subst tag
    have untold := updatesPlayer_spares found asked (by simpa using known)
    split_ifs at untold with same
    · have isPlayer := kinded.staysPlayer ((sole.kind_iff found).mpr same) untold
      rw [same] at rest
      exact ⟨_, (sole.renamePlayer isPlayer).retold rest⟩
    · have other := kinded.isPlayer (mt (sole.kind_iff found).mp same) untold.1
      have elsewhere : _ ≠ player := fun equal => untold.2 (equal ▸ named)
      exact ⟨player, (sole.renameOther other same elsewhere).retold rest⟩
  | playerIntroduced tag absent named kinded rest =>
    obtain ⟨pc, present, -⟩ := sole.pc? h
    exact nomatch absent.symm.trans present
  | playerDescribed tag present named kinded rest =>
    obtain ⟨pc, found, name⟩ := sole.pc? h
    obtain rfl := Option.some.inj (found.symm.trans present)
    -- The one player there is stays under the old name or moves to a new one.
    rw [name, Scene.storePlayer] at rest
    split_ifs at rest with same
    · have stored := sole.putKnown (iff_of_true kinded same)
      exact ⟨player, SolePlayer.retold (SolePlayer.led stored _) rest⟩
    · exact ⟨_, SolePlayer.retold (SolePlayer.led (sole.renamePlayer kinded) _) rest⟩

/-! ### Narratives -/

theorem Settles.keepsPlayer (step : Settles s t) (h : s.WellKeyed) (sole : s.SolePlayer player) :
    t.SolePlayer player := by
  cases step with
  | rewrite old new holders => exact sole.retold (.single (.rewrite s old new holders))
  | beside free skill =>
    exact sole.putKnown (iff_of_false (by rw [skill]; decide) (sole.not_free free))
  | forward found skill free =>
    intro asked
    rw [Skill.kindOf?_renameEntity h found]
    split_ifs with new old
    · exact iff_of_false (by rw [skill]; decide) (new ▸ sole.not_free free)
    · exact iff_of_false nofun (old ▸ skill_other sole found skill)
    · exact sole asked

theorem Settled.keepsPlayer (run : Settled s t) (h : s.WellKeyed) (sole : s.SolePlayer player) :
    t.SolePlayer player := by
  induction run with
  | refl => exact sole
  | tail before step ih => exact Settles.keepsPlayer step (Skill.Settled.wellKeyed before h) ih

/-- Interpretation keeps exactly one player character, if no tag of the narrative displaces it on
the state that the tag is played on. -/
theorem interpret_keeps_player {s : GameState} {rules : List Rule} {text : String} {d : Draws}
    (keyed : s.WellKeyed) (one : (s.ofKind .pc).length = 1)
    (spared : ∀ stage ∈ stagesOf rules text s d, stage.1.displacesPlayer stage.2 = false) :
    ∃ i d', interpret rules text s d = (.ok i, d') ∧ (i.state.ofKind .pc).length = 1 := by
  obtain ⟨i, d', ok, keyed, player, sole⟩ := interpret_preserves
    (P := fun s => s.WellKeyed ∧ ∃ player, s.SolePlayer player) (fun _ h => h.1)
    (fun stage member kind t known h change => by
      obtain ⟨keyed, player, sole⟩ := h
      refine ⟨change.wellKeyed keyed, ?_⟩
      obtain ⟨pc, present, rfl⟩ := sole.pc? keyed
      have kept := spared stage member
      rw [Tag.displacesPlayer, known, present] at kept
      obtain ⟨untaken, told⟩ := Bool.or_eq_false_iff.mp kept
      exact change.keepsPlayer keyed sole untaken told)
    (fun s t h run => ⟨run.wellKeyed h.1, h.2.imp fun _ sole => Settled.keepsPlayer run h.1 sole⟩)
    ⟨keyed, GameState.exists_sole keyed one⟩
  exact ⟨i, d', ok, sole.length_eq_one keyed⟩

/-- A game with a hero and one other character. -/
def meeting : GameState :=
  { knownEntities := [("Hero", { name := "Hero", kind := .pc }), ("Lan", { name := "Lan", kind := .npc })] }

/-- The player takes a new name, and the old one goes to somebody else. -/
def handover : String := "[ENTITY_UPDATE: name=Hero newName=Minh][LORE_NPC: name=Hero]"

theorem meeting_keeps_player : meeting.WellKeyed ∧ (meeting.ofKind .pc).length = 1 ∧
    (∀ stage ∈ stagesOf [] handover meeting {}, stage.1.displacesPlayer stage.2 = false) ∧
    ∃ i d', interpret [] handover meeting {} = (.ok i, d') ∧ (i.state.ofKind .pc).length = 1 :=
  ⟨by decide, by decide, by decide +kernel,
    interpret_keeps_player (by decide) (by decide) (by decide +kernel)⟩

/-- An item that takes the player's name takes the player's place. -/
theorem player_can_be_displaced : meeting.WellKeyed ∧ (meeting.ofKind .pc).length = 1 ∧
    ∃ i d', interpret [] "[LORE_ITEM: name=Hero]" meeting {} = (.ok i, d') ∧
      (i.state.ofKind .pc).length ≠ 1 := by
  refine ⟨by decide, by decide, ?_⟩
  have displaced : Play.passes (interpret [] "[LORE_ITEM: name=Hero]" meeting) {}
      (fun i _ => (i.state.ofKind .pc).length ≠ 1) = true := by
    decide +kernel
  obtain ⟨i, d', ok, none⟩ := Play.exists_of_passes displaced
  exact ⟨i, d', ok, of_decide_eq_true none⟩

end Gamebook
