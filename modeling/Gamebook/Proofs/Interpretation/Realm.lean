import Gamebook.Proofs.Acting.Run
import Gamebook.Proofs.Interpretation.Player

/-!
The realm of the player. It is the one that experience gives, on every way that a narrative can lead
from a game where it is: a tag that may change the experience brings the realm up to date last, and
no tag makes a second player unless it tells a kind.
-/

namespace Gamebook

open Attribute
open Entity (InLine inLine_of_ne)
open Skill (Settles Settled)
open Play (Yields)

variable {s t r : GameState} {kind : TagKind} {attrs : Fields} {player name : String} {e : Entity}

/-- Whether there is at most one player character, which has the realm that its experience gives,
where it gives one. -/
structure GameState.RealmConsistent (s : GameState) : Prop where
  one : (s.ofKind .pc).length ≤ 1
  inLine : ∀ pc ∈ s.ofKind .pc, pc.InLine s.worldData.realmTiers

/-! ### No second player -/

namespace GameState

/-- Whether only one name, if any, is that of a player character. -/
def OnlyPlayer (s : GameState) (player : String) : Prop :=
  ∀ name, s.kindOf? name = some .pc → name = player

theorem exists_only (h : s.WellKeyed) (one : (s.ofKind .pc).length ≤ 1) :
    ∃ player, s.OnlyPlayer player := by
  rcases Nat.le_one_iff_eq_zero_or_eq_one.mp one with none | one
  · refine ⟨"", fun name isPlayer => ?_⟩
    obtain ⟨e, found, kind⟩ := Option.map_eq_some_iff.mp isPlayer
    have member : e ∈ s.ofKind .pc := (mem_ofKind_iff h).mpr ⟨h.name_eq found ▸ found, kind⟩
    rw [List.length_eq_zero_iff.mp none] at member
    exact nomatch member
  · exact (exists_sole h one).imp fun _ sole name => (sole name).mp

theorem OnlyPlayer.length_le_one (only : s.OnlyPlayer player) (h : s.WellKeyed) :
    (s.ofKind .pc).length ≤ 1 := by
  have names : ∀ name ∈ (s.ofKind .pc).map (·.name), name = player := by
    intro name listed
    obtain ⟨e, isPlayer, rfl⟩ := List.mem_map.mp listed
    obtain ⟨held, isKind⟩ := (mem_ofKind_iff h).mp isPlayer
    exact only e.name (by rw [kindOf?_of_find? held, isKind])
  have distinct : ((s.ofKind .pc).map (·.name)).Nodup :=
    h.nodup_names.sublist (List.filter_sublist.map _)
  rwa [List.eq_replicate_of_mem names, List.nodup_replicate, List.length_map] at distinct

namespace OnlyPlayer

theorem congr (only : s.OnlyPlayer player) (same : ∀ name, t.kindOf? name = s.kindOf? name) :
    t.OnlyPlayer player := by
  intro name
  rw [same]
  exact only name

theorem retold (only : s.OnlyPlayer player) (run : Retold s t) : t.OnlyPlayer player :=
  only.congr run.kindOf?

theorem put (only : s.OnlyPlayer player) (kind : e.kind = .pc → e.name = player) :
    (s.put e).OnlyPlayer player := by
  intro name
  rw [kindOf?_put]
  split_ifs with same
  · exact fun isPlayer => same ▸ kind (Option.some.inj isPlayer)
  · exact only name

theorem putKnown (only : s.OnlyPlayer player) (kind : e.kind = .pc → e.name = player) :
    (s.putKnown e.name e).OnlyPlayer player :=
  only.put kind

theorem led (only : s.OnlyPlayer player) (pc : Entity) : (s.led pc).OnlyPlayer player := only

theorem forget (only : s.OnlyPlayer player) (forgotten : String) :
    (s.forget forgotten).OnlyPlayer player := by
  intro name
  rw [kindOf?_forget]
  split_ifs
  · exact nofun
  · exact only name

theorem renamePlayer (only : s.OnlyPlayer player) (e : Entity) :
    (s.rename player e).OnlyPlayer e.name := by
  intro name
  rw [kindOf?_rename]
  split_ifs with new old
  · exact fun _ => new
  · exact nofun
  · exact fun isPlayer => absurd (only name isPlayer) old

theorem renameOther (only : s.OnlyPlayer player) (other : e.kind ≠ .pc) (old : String) :
    (s.rename old e).OnlyPlayer player := by
  intro name
  rw [kindOf?_rename]
  split_ifs
  · exact fun isPlayer => absurd (Option.some.inj isPlayer) other
  · exact nofun
  · exact only name

theorem name_eq (only : s.OnlyPlayer player) (found : s.find? name = some e)
    (isPlayer : e.kind = .pc) : name = player :=
  only name (by rw [kindOf?_of_find? found, isPlayer])

theorem rename {updated : Entity} (only : s.OnlyPlayer player) (found : s.find? e.name = some e)
    (kind : updated.kind = e.kind) : ∃ player, (s.rename e.name updated).OnlyPlayer player := by
  by_cases isPlayer : e.kind = .pc
  · obtain rfl := only.name_eq found isPlayer
    exact ⟨_, only.renamePlayer updated⟩
  · exact ⟨player, only.renameOther (kind ▸ isPlayer) e.name⟩

theorem pc? (only : s.OnlyPlayer player) (h : s.WellKeyed) (found : s.find? name = some e)
    (isPlayer : e.kind = .pc) : s.pc? = some e := by
  cases first : s.pc? with
  | none =>
    have none := List.find?_eq_none.mp first e (Keyed.mem_values found)
    exact absurd (decide_eq_true isPlayer) none
  | some other =>
    obtain ⟨member, kind⟩ := pc?_eq_some first
    have held := h.find?_name member
    rw [only.name_eq held kind, ← only.name_eq found isPlayer, found] at held
    exact held.symm

end OnlyPlayer

end GameState

open GameState (OnlyPlayer)

theorem Defines.onlyPlayer (defined : Defines attrs name s r) (only : s.OnlyPlayer player) :
    r.OnlyPlayer player := by
  obtain rfl | ⟨e, -, -, skill, rfl⟩ := defined
  · exact only
  · exact only.put fun isPlayer => nomatch skill.symm.trans isPlayer

/-- No tag makes a second player, unless it is a general update that tells a kind. -/
theorem Recasts.onlyPlayer (step : Recasts kind attrs s t) (h : s.WellKeyed)
    (untyped : kind = .entityUpdate → attrs.get? "type" = none) (only : s.OnlyPlayer player) :
    ∃ player, t.OnlyPlayer player := by
  have introduced {e : Entity} (kinded : kind.introduced? = some e.kind) :
      e.kind = .pc → e.name = player :=
    fun isPlayer => absurd (isPlayer ▸ kinded) (introduced?_ne_pc kind)
  cases step with
  | retold rest => exact ⟨player, only.retold rest⟩
  | introduced named kinded rest =>
    exact ⟨player, OnlyPlayer.retold (only.put (introduced kinded)) rest⟩
  | @superseded old e new _ found skill named kinded rest =>
    have rewritten : (Skill.replaceReferences s old.name new none).1.OnlyPlayer player :=
      only.congr (GameState.kindOf?_replaceReferences s old.name new none)
    exact ⟨player, OnlyPlayer.retold ((rewritten.forget old.name).put (introduced kinded)) rest⟩
  | joined named kinded companion => exact ⟨player, OnlyPlayer.putKnown only (introduced kinded)⟩
  | forgotten found item => exact ⟨player, only.forget _⟩
  | transformed tag source target item =>
    exact ⟨player, (only.forget _).put fun isPlayer => nomatch item.symm.trans isPlayer⟩
  | @succeeded old _ _ _ tag source target apart defined rest dropped =>
    have reached := (defined.onlyPlayer only).retold rest
    refine ⟨player, ?_⟩
    split_ifs
    · exact reached.forget old
    · exact reached
  | updated tag found asked named kinded rest =>
    have kind := kinded.kind_eq (untyped tag)
    refine ⟨player, OnlyPlayer.retold (only.put fun isPlayer => ?_) rest⟩
    rw [named]
    exact only.name_eq found (kind ▸ isPlayer)
  | renamed tag found asked named apart kinded rest =>
    obtain ⟨player, renamed⟩ := only.rename found (kinded.kind_eq (untyped tag))
    exact ⟨player, renamed.retold rest⟩
  | @playerIntroduced pc _ tag absent named kinded rest =>
    have none : s.OnlyPlayer pc.name := by
      intro name isPlayer
      obtain ⟨e, found, kind⟩ := Option.map_eq_some_iff.mp isPlayer
      exact nomatch absent.symm.trans (only.pc? h found kind)
    exact ⟨pc.name, OnlyPlayer.retold (OnlyPlayer.led (none.putKnown fun _ => rfl) pc) rest⟩
  | @playerDescribed existing pc _ tag present named kinded rest =>
    obtain ⟨member, kind⟩ := GameState.pc?_eq_some present
    obtain rfl := only.name_eq (h.find?_name member) kind
    rw [Scene.storePlayer] at rest
    split_ifs at rest with same
    · exact ⟨_, OnlyPlayer.retold (OnlyPlayer.led (only.putKnown fun _ => same) pc) rest⟩
    · exact ⟨_, OnlyPlayer.retold (OnlyPlayer.led (only.renamePlayer pc) pc) rest⟩

/-! ### Realms brought up to date -/

namespace GameState

/-- A player whose experience gives a realm gets this one if it has another. -/
theorem newRealm?_of_player {exp : Number} {realm : String} (present : s.pc? = some e)
    (given : Number.nonzero? e.currentExp = some exp)
    (reached : evaluateRealm exp s.worldData.realmTiers = some realm) :
    s.newRealm? = if e.realm = some realm then none else some (e, realm) := by
  have tiers : s.worldData.realmTiers.isEmpty = false := by
    cases all : s.worldData.realmTiers with
    | nil => rw [all] at reached; exact nomatch reached
    | cons tier tiers => rfl
  simp [newRealm?, present, tiers, given, reached]

/-- With one player at most, bringing the realm up to date brings every player in line. -/
theorem progressRealm_allInLine (h : r.WellKeyed) (only : r.OnlyPlayer player) :
    r.progressRealm.AllInLine := by
  intro name e found isPlayer exp given realm reached
  rw [(CastOnly.progressRealm r).worldData] at reached
  rw [progressRealm] at found
  cases new : r.newRealm? with
  | none =>
    rw [new] at found
    have same := newRealm?_of_player (only.pc? h found isPlayer) given reached
    rw [new] at same
    by_contra other
    rw [if_neg other] at same
    cases same
  | some due =>
    obtain ⟨pc, better⟩ := due
    have present := newRealm?_player new
    obtain ⟨member, kind⟩ := pc?_eq_some present
    have here := h.find?_name member
    rw [new] at found
    change (r.put { pc with realm := some better }).find? name = some e at found
    rw [find?_put] at found
    split_ifs at found with same
    · obtain rfl := Option.some.inj found
      have due := newRealm?_of_player present given reached
      rw [new] at due
      split_ifs at due
      exact congrArg (fun x : Entity × String => some x.2) (Option.some.inj due)
    · exact absurd ((only.name_eq here kind).trans (only.name_eq found isPlayer).symm) same

end GameState

theorem Touches.allInLine (step : Touches kind attrs s t)
    (untyped : kind = .entityUpdate → attrs.get? "type" = none) (h : s.AllInLine) : t.AllInLine := by
  cases step with
  | cast move => exact move.allInLine h
  | retype tag typed only => exact absurd (untyped tag) (Option.isSome_iff_ne_none.mp typed)
  | time tag _ gameTime => exact h
  | log grown => exact h
  | remember _ memory => exact h
  | statuses tag _ statuses => exact h
  | quests tag _ quests => exact h
  | discover _ place =>
    rw [Scene.discover]
    split_ifs <;> exact h

theorem Touched.allInLine (run : Touched kind attrs s t)
    (untyped : kind = .entityUpdate → attrs.get? "type" = none) (h : s.AllInLine) : t.AllInLine := by
  induction run with
  | refl => exact h
  | tail _ step ih => exact step.allInLine untyped ih

/-- Whatever a tag leaves behind, the players are in line if there is no second one. -/
theorem Leaves.allInLine (left : Leaves kind attrs s t)
    (untyped : kind = .entityUpdate → attrs.get? "type" = none) (keyed : s.WellKeyed)
    (only : t.OnlyPlayer player) (h : s.AllInLine) : t.AllInLine := by
  cases left with
  | plain run => exact Touched.allInLine run untyped h
  | advanced run cast after =>
    have keyed := after keyed
    have before := only.congr fun name => ((Retold.progressRealm keyed).kindOf? name).symm
    exact GameState.progressRealm_allInLine keyed before

/-! ### Synchronization -/

theorem Settles.onlyPlayer (step : Settles s t) (h : s.WellKeyed) (only : s.OnlyPlayer player) :
    t.OnlyPlayer player := by
  cases step with
  | rewrite old new holders => exact only.congr (GameState.kindOf?_replaceReferences s old new holders)
  | beside free skill =>
    exact OnlyPlayer.put only fun isPlayer => nomatch skill.symm.trans isPlayer
  | forward found skill free =>
    intro name
    rw [Skill.kindOf?_renameEntity h found, skill]
    split_ifs
    · exact nofun
    · exact nofun
    · exact only name

theorem Settles.allInLine (step : Settles s t) (h : s.WellKeyed) (inLine : s.AllInLine) :
    t.AllInLine := by
  cases step with
  | rewrite old new holders => exact (Moves.rewrite s old new holders).allInLine inLine
  | beside free skill =>
    exact (Moves.put (inLine_of_ne (by rw [skill]; decide))).allInLine inLine
  | forward found skill free =>
    intro name e' here
    rw [Skill.find?_renameEntity h found] at here
    split_ifs at here
    · obtain rfl := Option.some.inj here
      exact inLine_of_ne (fun isPlayer => nomatch skill.symm.trans isPlayer)
    · exact inLine name e' here

/-! ### Narratives -/

/-- What a narrative keeps, so that the player's realm stays in line. -/
structure GameState.Ranked (s : GameState) : Prop where
  keyed : s.WellKeyed
  only : ∃ player, s.OnlyPlayer player
  inLine : s.AllInLine

theorem Settled.ranked (run : Settled s t) (h : s.Ranked) : t.Ranked := by
  induction run with
  | refl => exact h
  | tail _ step ih =>
    exact ⟨step.wellKeyed ih.keyed, ih.only.imp fun _ => Settles.onlyPlayer step ih.keyed,
      Settles.allInLine step ih.keyed ih.inLine⟩

theorem GameState.Ranked.realmConsistent (h : s.Ranked) : s.RealmConsistent := by
  obtain ⟨player, only⟩ := h.only
  refine ⟨only.length_le_one h.keyed, fun pc member => ?_⟩
  exact h.inLine pc.name pc ((mem_ofKind_iff h.keyed).mp member).1

theorem GameState.RealmConsistent.ranked (h : s.RealmConsistent) (keyed : s.WellKeyed) : s.Ranked := by
  refine ⟨keyed, exists_only keyed h.one, fun name e found isPlayer => ?_⟩
  have member : e ∈ s.ofKind .pc :=
    (mem_ofKind_iff keyed).mpr ⟨keyed.name_eq found ▸ found, isPlayer⟩
  exact h.inLine e member isPlayer

/-- A tag without a kind of its own to tell keeps the player's realm in line. -/
theorem TagKind.play_ranked {c : Scene} {p : Played} (distinct : attrs.keys.Nodup)
    (y : Yields (kind.play attrs c) p) (untyped : kind = .entityUpdate → attrs.get? "type" = none)
    (h : c.state.Ranked) : p.scene.state.Ranked := by
  have recast := TagKind.play_recasts h.keyed distinct y
  obtain ⟨player, only⟩ := h.only
  obtain ⟨player, only⟩ := recast.onlyPlayer h.keyed untyped only
  have left := (TagKind.play_acts distinct y).left
  exact ⟨recast.wellKeyed h.keyed, ⟨player, only⟩, left.allInLine untyped h.keyed only h.inLine⟩

/-- Interpretation gives a result with one player at most, in line with experience, if the game was
so and no general update of the narrative tells a kind. -/
theorem interpret_keeps_realm {s : GameState} {rules : List Rule} {text : String}
    (keyed : s.WellKeyed) (consistent : s.RealmConsistent)
    (untyped : ∀ t ∈ Tag.find text, t.kind? = some .entityUpdate →
      (Attribute.parse t.body).get? "type" = none) (d : Draws) :
    ∃ i d', interpret rules text s d = (.ok i, d') ∧ i.state.RealmConsistent := by
  obtain ⟨i, d', ok⟩ := interpret_gives keyed rules text d
  refine ⟨i, d', ok, GameState.Ranked.realmConsistent ?_⟩
  refine interpret_keeps (P := fun t _ => t.Ranked) (fun stage member kind p known y _ before => ?_)
    (fun _ ranked => ranked) (fun t _ _ ranked given => ?_) (consistent.ranked keyed) ok
  · refine TagKind.play_ranked (Keyed.nodup_ofPairs _) y (fun update => ?_) before
    exact untyped stage.1 (Progress.stages_tag member) (update ▸ known)
  · exact Settled.ranked ((Skill.synchronize_gives ranked.keyed).of_yields given) ranked

/-- A game with two tiers and a hero in the lower one. -/
def ascent : GameState :=
  { worldData :=
      { realmTiers :=
          [{ name := "Bronze", requiredExp := .ofInt 1 },
            { name := "Silver", requiredExp := .ofInt 10 }] }
    knownEntities :=
      [("Hero",
        { name := "Hero", kind := .pc, currentExp := some (.int 5), realm := some "Bronze" })] }

/-- The hero gains experience under a new name, and a realm is told by hand. -/
def trial : String :=
  "[ENTITY_UPDATE: name=Hero newName=Lan attribute=currentExp change=+9]
[REALM_UPDATE: target=Lan realm=Gold]"

theorem ascent_consistent : ascent.RealmConsistent where
  one := by decide
  inLine pc member _ exp given realm reached := by
    obtain rfl := List.mem_singleton.mp member
    obtain rfl := Option.some.inj given
    have derived : evaluateRealm (.int 5) ascent.worldData.realmTiers = some "Bronze" := by
      decide +kernel
    exact derived.symm.trans reached

theorem ascent_keeps_realm : ascent.WellKeyed ∧ ascent.RealmConsistent ∧
    (∀ t ∈ Tag.find trial, t.kind? = some .entityUpdate →
      (Attribute.parse t.body).get? "type" = none) ∧
    ∃ i d', interpret [] trial ascent {} = (.ok i, d') ∧ i.state.RealmConsistent :=
  ⟨by decide, ascent_consistent, by decide +kernel,
    interpret_keeps_realm (by decide) ascent_consistent (by decide +kernel) {}⟩

end Gamebook
