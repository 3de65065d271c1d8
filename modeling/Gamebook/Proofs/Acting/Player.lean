import Gamebook.Proofs.Acting.Cast
import Gamebook.Proofs.Entity.Reading
import Gamebook.Proofs.Tag.Update
import Gamebook.Tag.Journal

/-!
Tags that may change the rank of the player: the player's own, the general update, the realm of a
character and the rewards of quests. Wherever such a tag touches the player's experience it brings
the realm up to date, and it sets a realm by hand only where no experience gives one.
-/

namespace Gamebook

open Attribute
open Play (Yields yields_pure yields_ofOutcome)
open Entity (InLine inLine_of_ne)

variable {c : Scene} {p : Played} {attrs : Fields} {kind : TagKind} {e updated : Entity}
  {s : GameState}

/-- An updated entity keeps its kind if the tag tells none. -/
theorem KindGiven.kind_eq (given : KindGiven attrs e updated) (untyped : attrs.get? "type" = none) :
    updated.kind = e.kind := by
  refine given.resolve_right fun told => ?_
  rw [rawText?_eq_some, untyped] at told
  exact nomatch told

namespace Scene

/-! ### The player -/

theorem castOnly_storePlayer (s : GameState) (old : String) (pc : Entity) :
    CastOnly s (storePlayer s old pc) := by
  rw [Scene.storePlayer]
  split_ifs
  · exact ⟨_, _, rfl⟩
  · exact .rename s old pc

theorem castOnly_led (s : GameState) (pc : Entity) : CastOnly s (s.led pc) := ⟨_, _, rfl⟩

theorem describePlayer_acts (y : Yields (c.describePlayer attrs) p) : Acts kind attrs c p := by
  rw [describePlayer] at y
  split at y
  · rw [introducePlayer] at y
    split at y
    · obtain rfl := yields_pure.mp y
      exact .kept
    · obtain ⟨id, -, y⟩ := y.bind
      obtain ⟨pc, -, y⟩ := y.bind
      obtain rfl := yields_pure.mp y
      exact .leaving (.advanced (r := (c.state.putKnown pc.name pc).led pc) .refl
        ⟨_, _, rfl⟩ fun h => h.putKnown pc)
  · rename_i existing _
    obtain ⟨id, -, y⟩ := y.bind
    obtain ⟨pc, -, y⟩ := y.bind
    obtain rfl := yields_pure.mp y
    exact .leaving (.advanced (r := (storePlayer c.state existing.name pc).led pc) .refl
      ((castOnly_storePlayer _ _ _).trans (castOnly_led _ _)) fun h =>
        storePlayer_wellKeyed h existing.name pc)

/-! ### Realms set by hand -/

theorem evaluateRealm_nil (exp : Number) : evaluateRealm exp [] = none := rfl

/-- A player whose experience gives no realm may have any. -/
theorem inLine_of_underived (free : derivedRealm? s e = none) :
    e.InLine s.worldData.realmTiers := by
  intro player exp given realm reached
  rw [derivedRealm?, given] at free
  split_ifs at free with derives
  · exact nomatch reached.symm.trans free
  · have none : s.worldData.realmTiers = [] := by simpa [player] using derives
    rw [none, evaluateRealm_nil] at reached
    exact nomatch reached

theorem updateRealm_acts (y : Yields (c.updateRealm attrs) p) : Acts kind attrs c p := by
  rw [updateRealm] at y
  split at y
  · rename_i target realm _ _
    split at y
    · obtain rfl := yields_pure.mp y
      exact .leaving (.advanced .refl (.refl c.state) id)
    · rename_i free
      obtain rfl := yields_pure.mp y
      have inLine : InLine c.state.worldData.realmTiers { target with realm := some realm } :=
        inLine_of_underived (s := c.state) free
      exact .moved (.put inLine)
  · obtain rfl := yields_pure.mp y
    exact .kept

/-! ### Rewards -/

theorem payReward_leaves {quest : Quest} {next : Scene} (ok : payReward quest c = .ok next) :
    Leaves kind attrs c.state next.state := by
  rw [payReward] at ok
  split at ok
  · cases ok
    exact .plain .refl
  · rename_i pc _
    obtain ⟨reward, -, ok⟩ := Outcome.bind_eq_ok.mp ok
    split at ok
    · cases ok
      exact .plain .refl
    · obtain ⟨total, -, ok⟩ := Outcome.bind_eq_ok.mp ok
      obtain rfl := Outcome.pure_eq_ok.mp ok
      exact .advanced .refl (CastOnly.put c.state { pc with currentExp := some total })
        fun h => h.put _

theorem completeQuest_leaves {quest : Quest} {next : Scene} (tag : kind ∈ TagKind.ofQuests)
    (ok : c.completeQuest quest = .ok next) : Leaves kind attrs c.state next.state := by
  have entered : Touches kind attrs c.state (c.putQuest { quest with status := .completed }).state :=
    .quests tag c.state _
  rw [completeQuest] at ok
  split at ok
  · cases ok
    exact .plain (.single entered)
  · exact (payReward_leaves ok).head entered id

theorem assignQuest_acts (tag : kind ∈ TagKind.ofQuests) (y : Yields (c.assignQuest attrs) p) :
    Acts kind attrs c p := by
  rw [assignQuest] at y
  split at y
  · obtain rfl := yields_pure.mp y
    exact .kept
  · obtain rfl := yields_pure.mp y
    exact .changed (.single (.quests tag c.state _))

theorem updateQuest_acts (tag : kind ∈ TagKind.ofQuests) (y : Yields (c.updateQuest attrs) p) :
    Acts kind attrs c p := by
  rw [updateQuest] at y
  split at y
  · split at y
    · obtain rfl := yields_pure.mp y
      exact .kept
    · obtain ⟨next, completed, y⟩ := y.bind
      obtain rfl := yields_pure.mp y
      exact .leaving (completeQuest_leaves tag (yields_ofOutcome.mp completed))
    · obtain rfl := yields_pure.mp y
      exact .changed (.single (.quests tag c.state _))
  · obtain rfl := yields_pure.mp y
    exact .kept

theorem completeQuestObjective_acts (tag : kind ∈ TagKind.ofQuests)
    (y : Yields (c.completeQuestObjective attrs) p) : Acts kind attrs c p := by
  rw [completeQuestObjective] at y
  split at y
  · split at y
    · obtain rfl := yields_pure.mp y
      exact .kept
    · split_ifs at y
      · obtain ⟨next, completed, y⟩ := y.bind
        obtain rfl := yields_pure.mp y
        exact .leaving (completeQuest_leaves tag (yields_ofOutcome.mp completed))
      · obtain rfl := yields_pure.mp y
        exact .changed (.single (.quests tag c.state _))
  · obtain rfl := yields_pure.mp y
    exact .kept

/-! ### The general update -/

theorem isGiven_of_nonzero {x : Option Number} {exp : Number} (given : Number.nonzero? x = some exp) :
    (Value.opt .ofNumber x).isGiven = true := by
  cases x with
  | none => exact nomatch given
  | some x =>
    rw [Number.nonzero?] at given
    split_ifs at given with zero
    cases x with
    | int i => simpa [Number.isZero, Value.opt, Value.ofNumber, Value.isGiven] using zero
    | float x => simpa [Number.isZero, Value.opt, Value.ofNumber, Value.isGiven] using zero

/-- A player whose experience is not updated, and gives no realm, may be given any. -/
theorem updated_inLine {updates fields : Fields} (takes : Takes attrs updates)
    (untyped : attrs.get? "type" = none) (distinct : fields.keys.Nodup)
    (same : ∀ key, key ≠ "name" → fields.get? key = updates.get? key)
    (made : e.merged fields = .ok updated) (plain : updates.get? "currentExp" = none)
    (free : followsExperience s e updates = false) : updated.InLine s.worldData.realmTiers := by
  intro player exp given realm reached
  have kinded : updated.kind = e.kind :=
    (takes.kindGiven distinct (same _ (by decide)) made).kind_eq untyped
  rw [Entity.merged_currentExp distinct made ((same _ (by decide)).trans plain)] at given
  have tiers : s.worldData.realmTiers = [] := by
    rw [followsExperience, plain, Option.getD_none, isGiven_of_nonzero given, ← kinded,
      player] at free
    simpa using free
  rw [tiers, evaluateRealm_nil] at reached
  exact nomatch reached

theorem castOnly_renameEverywhere (s : GameState) (e updated : Entity) (newName : String) :
    CastOnly s (renameEverywhere e updated newName s) := by
  rw [Scene.renameEverywhere]
  split_ifs
  · exact (CastOnly.rename s e.name updated).trans (.rewrite _ _ _ none)
  · exact .rename s e.name updated

theorem wellKeyed_renameEverywhere (h : s.WellKeyed) (e updated : Entity) (newName : String) :
    (renameEverywhere e updated newName s).WellKeyed := by
  rw [renameEverywhere]
  split_ifs
  · exact (h.rename e.name updated).replaceReferences _ _ none
  · exact h.rename e.name updated

theorem renameEverywhere_touched (inLine : updated.InLine s.worldData.realmTiers) (e : Entity)
    (newName : String) : Touched kind attrs s (renameEverywhere e updated newName s) := by
  have renamed : Touched kind attrs s (s.rename e.name updated) := .move (.rename e.name inLine)
  rw [renameEverywhere]
  split_ifs
  · exact renamed.tail (.cast (.rewrite _ _ _ none))
  · exact renamed

/-- An update either brings the realm up to date or leaves all players in line, unless it tells a
kind. -/
theorem progressIf_leaves {t : GameState} {progress : Bool} (only : CastOnly s t)
    (keyed : s.WellKeyed → t.WellKeyed)
    (plain : progress = false → attrs.get? "type" = none → Touched .entityUpdate attrs s t) :
    Leaves .entityUpdate attrs s (progressIf progress t) := by
  cases progress with
  | true => exact .advanced .refl only keyed
  | false =>
    change Leaves .entityUpdate attrs s t
    cases typed : attrs.get? "type" with
    | none => exact .plain (plain rfl typed)
    | some v => exact .plain (.single (.retype rfl (by rw [typed]; rfl) only))

theorem updateEntity_acts (distinct : attrs.keys.Nodup) (y : Yields (c.updateEntity attrs) p) :
    Acts .entityUpdate attrs c p := by
  rw [updateEntity] at y
  dsimp only at y
  split at y
  · obtain rfl := yields_pure.mp y
    exact .kept
  rename_i e found
  obtain ⟨changed, counted, y⟩ := y.bind
  have takes := withPlainExp_takes
    (applyChange_takes (plainUpdates_takes distinct) (yields_ofOutcome.mp counted))
  generalize withPlainExp changed = updates at takes y
  -- Without a need to bring the realm up to date, the updates are as they were.
  have settled : (Keyed.has (if followsExperience c.state e updates then Keyed.erase updates "realm"
      else updates) "currentExp" || followsExperience c.state e updates) = false →
        followsExperience c.state e updates = false ∧ updates.get? "currentExp" = none := by
    intro no
    obtain ⟨plain, free⟩ := Bool.or_eq_false_iff.mp no
    rw [free] at plain
    exact ⟨free, Option.not_isSome_iff_eq_none.mp (Bool.eq_false_iff.mp plain)⟩
  split at y
  · rename_i newName _
    obtain ⟨updated, made, y⟩ := y.bind
    obtain rfl := yields_pure.mp y
    refine .leaving (progressIf_leaves (castOnly_renameEverywhere _ _ _ _)
      (fun h => wellKeyed_renameEverywhere h _ _ _) fun no untyped => ?_)
    obtain ⟨free, plain⟩ := settled no
    rw [free] at made
    exact renameEverywhere_touched (updated_inLine takes untyped
      (Keyed.nodup_put takes.distinct "name" (.text newName))
      (fun key other => Keyed.get?_put_of_ne other.symm) (mergedWith_yields.mp made) plain free) e _
  · obtain ⟨updated, made, y⟩ := y.bind
    obtain rfl := yields_pure.mp y
    refine .leaving (progressIf_leaves (.put _ _) (fun h => h.put _) fun no untyped => ?_)
    obtain ⟨free, plain⟩ := settled no
    rw [free] at made
    exact .move (.put (updated_inLine takes untyped takes.distinct (fun _ _ => rfl)
      (mergedWith_yields.mp made) plain free))

end Scene

end Gamebook
