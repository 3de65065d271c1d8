import Gamebook.Proofs.Acting.Touching
import Gamebook.Proofs.Cast.Leading
import Gamebook.Proofs.Outcome
import Gamebook.Proofs.Tag.Reward
import Gamebook.Tag.Interpretation

/-!
What tags of the quest journal pay. A quest is told by its title, and of several with one title only
the first is touched; so a tag completes at most one quest, and what it pays is the experience that
this quest's reward names.
-/

namespace Gamebook

open Play (Yields yields_pure yields_ofOutcome)

theorem CastOnly.quests {s t : GameState} (h : CastOnly s t) : t.quests = s.quests := by
  obtain ⟨known, party, rfl⟩ := h
  rfl

namespace GameState

/-- The first quest with a title. -/
def quest? (s : GameState) (title : String) : Option Quest := s.quests.find? (·.title = title)

/-- Whether the quest of a title has become completed from one state to another. -/
def completes (s t : GameState) (title : String) : Bool :=
  (s.quest? title).any (·.status ≠ .completed) && (t.quest? title).any (·.status = .completed)

/-- The quest that has become completed from one state to another. -/
def completed? (s t : GameState) : Option Quest := t.quests.find? fun q => s.completes t q.title

/-- What the quest that has become completed from one state to another promised. -/
def payout (s t : GameState) : Nat := ((s.completed? t).map (·.promised)).getD 0

/-- Whether the player has a whole number of experience; missing experience is none. -/
def Earned (s : GameState) (exp : Int) : Prop :=
  ∃ pc, s.pc? = some pc ∧ pc.currentExp.getD (.int 0) = .int exp

/-- Whether a state has come from another by at most one quest that was completed, for which the
player was paid what it promised. -/
structure Pays (s t : GameState) : Prop where
  keyed : t.WellKeyed
  paid : ∀ exp, s.Earned exp → t.Earned (exp + s.payout t)
  one : ∀ title other, s.completes t title = true → s.completes t other = true → title = other
  titles : (s.quests.map (·.title)).Nodup → (t.quests.map (·.title)).Nodup

variable {s t : GameState} {q old : Quest} {title : String} {exp : Int}

/-! ### Quests by title -/

theorem replaceQuest_titles (q : Quest) (quests : List Quest) :
    (Scene.replaceQuest q quests).map (·.title) = quests.map (·.title) := by
  induction quests with
  | nil => rfl
  | cons first quests ih =>
    rw [Scene.replaceQuest]
    split_ifs with same
    · rw [List.map_cons, List.map_cons, same]
    · rw [List.map_cons, List.map_cons, ih]

theorem find?_title_cons (first : Quest) (quests : List Quest) (title : String) :
    (first :: quests).find? (·.title = title) =
      if first.title = title then some first else quests.find? (·.title = title) := by
  split_ifs with here
  · exact List.find?_cons_of_pos (decide_eq_true here)
  · exact List.find?_cons_of_neg (by simpa using here)

theorem find?_replaceQuest {quests : List Quest}
    (present : quests.find? (·.title = q.title) = some old) :
    (Scene.replaceQuest q quests).find? (·.title = title) =
      if q.title = title then some q else quests.find? (·.title = title) := by
  induction quests with
  | nil => exact nomatch present
  | cons first quests ih =>
    rw [find?_title_cons] at present
    rw [Scene.replaceQuest]
    by_cases same : first.title = q.title
    · rw [if_pos same, find?_title_cons, find?_title_cons, same]
      split_ifs <;> rfl
    · rw [if_neg same] at present ⊢
      rw [find?_title_cons, find?_title_cons, ih present]
      split_ifs with here asked
      · exact absurd (here.trans asked.symm) same
      all_goals rfl

/-- Where a quest was replaced, no other title has become completed. -/
theorem completes_replaced (found : s.quest? q.title = some old)
    (quests : t.quests = Scene.replaceQuest q s.quests) : s.completes t title =
      (decide (q.title = title) && decide (old.status ≠ .completed) &&
        decide (q.status = .completed)) := by
  rw [completes, quest?, quest?, quests, find?_replaceQuest found]
  split_ifs with here
  · rw [← here, ← quest?, found]
    simp
  · cases s.quests.find? (·.title = title) <;> simp [here]

/-- A quest that is replaced pays if it becomes completed. -/
theorem payout_replaced (found : s.quest? q.title = some old)
    (quests : t.quests = Scene.replaceQuest q s.quests) :
    s.payout t = if old.status ≠ .completed ∧ q.status = .completed then q.promised else 0 := by
  have stored : t.quest? q.title = some q := by
    rw [quest?, quests, find?_replaceQuest found, if_pos rfl]
  rw [payout, completed?]
  simp only [completes_replaced found quests]
  by_cases pays : old.status ≠ .completed ∧ q.status = .completed
  · have here : (fun other : Quest => decide (q.title = other.title) &&
        decide (old.status ≠ .completed) && decide (q.status = .completed)) =
        fun other => decide (other.title = q.title) := by
      funext other
      simp [pays, eq_comm]
    rw [here, ← quest?, stored, if_pos pays]
    rfl
  · have never : ∀ other ∈ t.quests, ¬(decide (q.title = other.title) &&
        decide (old.status ≠ .completed) && decide (q.status = .completed)) = true := by
      intro other _ completes
      simp only [Bool.and_eq_true, decide_eq_true_eq] at completes
      exact pays ⟨completes.1.2, completes.2⟩
    rw [List.find?_eq_none.mpr never, if_neg pays]
    rfl

/-- A quest that is entered anew is not completed, and the others stay as they are. -/
theorem completes_entered {asked : String} (named : q.title = title) (active : q.status ≠ .completed)
    (quests : t.quests = s.quests.filter (·.title ≠ title) ++ [q]) :
    s.completes t asked = false := by
  have others : (s.quests.filter (·.title ≠ title)).find? (·.title = asked) =
      if title = asked then none else s.quests.find? (·.title = asked) := by
    rw [List.find?_filter]
    split_ifs with here
    · exact List.find?_eq_none.mpr fun other _ => by simp [here]
    · congr 1
      funext other
      by_cases own : other.title = asked
      · simp [own, Ne.symm here]
      · simp [own]
  rw [completes, quest?, quest?, quests, List.find?_append, others, find?_title_cons, named]
  split_ifs with here
  · simp [active]
  · rw [List.find?_nil, Option.or_none]
    cases s.quests.find? (·.title = asked) <;> simp

/-- Where the journal stays as it is, nothing is completed. -/
theorem completes_kept (same : t.quests = s.quests) : s.completes t title = false := by
  rw [completes, quest?, quest?, same]
  cases s.quests.find? (·.title = title) <;> simp

theorem payout_eq_zero (idle : ∀ title, s.completes t title = false) : s.payout t = 0 := by
  rw [payout, completed?, List.find?_eq_none.mpr fun other _ => by rw [idle]; decide]
  rfl

/-! ### Experience of the player -/

theorem Earned.of_pc? {pc later : Entity} (h : s.Earned exp) (player : s.pc? = some pc)
    (present : t.pc? = some later) (same : later.currentExp = pc.currentExp) : t.Earned exp := by
  obtain ⟨own, found, earned⟩ := h
  obtain rfl := Option.some.inj (found.symm.trans player)
  exact ⟨later, present, same ▸ earned⟩

theorem Earned.progressRealm (h : s.Earned exp) (keyed : s.WellKeyed) : s.progressRealm.Earned exp := by
  rw [GameState.progressRealm]
  split
  · rename_i pc realm new
    have player : s.pc? = some pc := newRealm?_player new
    exact h.of_pc? player (pc?_put_self player keyed (pc?_eq_some player).2 rfl) rfl
  · exact h

theorem WellKeyed.progressRealm (h : s.WellKeyed) : s.progressRealm.WellKeyed :=
  (Retold.progressRealm h).wellKeyed h

/-! ### What a tag pays -/

namespace Pays

theorem kept (keyed : t.WellKeyed) (quests : t.quests = s.quests)
    (earned : ∀ exp, s.Earned exp → t.Earned exp) : Pays s t where
  keyed := keyed
  paid exp h := by
    rw [payout_eq_zero fun _ => completes_kept quests, Nat.cast_zero, add_zero]
    exact earned exp h
  one title _ completes := absurd completes (Bool.eq_false_iff.mp (completes_kept quests))
  titles := by
    rw [quests]
    exact id

theorem refl (h : s.WellKeyed) : Pays s s := kept h rfl fun _ => id

theorem entered (h : s.WellKeyed) (named : q.title = title) (active : q.status ≠ .completed) :
    Pays s { s with quests := s.quests.filter (·.title ≠ title) ++ [q] } where
  keyed := h
  paid exp earned := by
    rw [payout_eq_zero fun _ => completes_entered named active rfl, Nat.cast_zero, add_zero]
    exact earned
  one title _ completes :=
    absurd completes (Bool.eq_false_iff.mp (completes_entered named active rfl))
  titles distinct := by
    rw [List.map_append, List.map_singleton]
    refine List.concat_eq_append ▸ (distinct.sublist (List.filter_sublist.map _)).concat ?_
    intro present
    obtain ⟨other, member, same⟩ := List.mem_map.mp present
    exact of_decide_eq_true (List.mem_filter.mp member).2 (same.trans named)

/-- A quest is replaced, and the player is paid what it promised if it becomes completed. -/
theorem replaced (found : s.quest? q.title = some old) (keyed : t.WellKeyed)
    (quests : t.quests = Scene.replaceQuest q s.quests)
    (paid : ∀ exp, s.Earned exp → t.Earned
      (if old.status ≠ .completed ∧ q.status = .completed then exp + q.promised else exp)) :
    Pays s t where
  keyed := keyed
  paid exp h := by
    have earned := paid exp h
    rw [payout_replaced found quests]
    split_ifs at earned ⊢
    · exact earned
    · rwa [Nat.cast_zero, add_zero]
  one title other first second := by
    rw [completes_replaced found quests] at first second
    simp only [Bool.and_eq_true, decide_eq_true_eq] at first second
    exact first.1.1.symm.trans second.1.1
  titles distinct := by
    rw [quests, replaceQuest_titles]
    exact distinct

end Pays

end GameState

/-! ### Tags of the journal -/

namespace Scene

open GameState (Pays)

variable {c next : Scene} {p : Played} {attrs : Fields} {q old : Quest} {exp : Int}

theorem rewardOf?_promised {reward : Option Nat} (ok : rewardOf? q = .ok reward) :
    reward.getD 0 = q.promised := by
  rw [rewardOf?] at ok
  split at ok
  · rename_i none
    cases ok
    rw [Quest.promised, none]
    rfl
  · rename_i digits found
    split_ifs at ok
    cases ok
    rw [Quest.promised, found]
    rfl

/-- Experience that is missing or zero counts as none. -/
theorem nonzero?_earned {x : Option Number} (earned : x.getD (.int 0) = .int exp) :
    (Number.nonzero? x).getD (.int 0) = .int exp := by
  cases x with
  | none => exact earned
  | some x =>
    rw [Option.getD_some] at earned
    rw [earned, Number.nonzero?]
    split_ifs with zero
    · rw [show exp = 0 by simpa [Number.isZero] using zero]
      rfl
    · rfl

/-- A reward is paid in full to the player, and the journal is left alone. -/
theorem payReward_earns (keyed : c.state.WellKeyed) (ok : payReward q c = .ok next) :
    next.state.WellKeyed ∧ next.state.quests = c.state.quests ∧
      ∀ exp, c.state.Earned exp → next.state.Earned (exp + q.promised) := by
  rw [payReward] at ok
  split at ok
  · rename_i absent
    cases ok
    refine ⟨keyed, rfl, fun exp h => ?_⟩
    obtain ⟨pc, present, -⟩ := h
    cases absent.symm.trans present
  rename_i pc player
  obtain ⟨reward, told, ok⟩ := Outcome.bind_eq_ok.mp ok
  have promised := rewardOf?_promised told
  split at ok
  · cases ok
    refine ⟨keyed, rfl, fun exp h => ?_⟩
    rwa [← promised, Option.getD_none, Nat.cast_zero, add_zero]
  rename_i amount
  obtain ⟨total, raised, ok⟩ := Outcome.bind_eq_ok.mp ok
  obtain rfl := Outcome.pure_eq_ok.mp ok
  have stored : (c.state.put { pc with currentExp := some total }).WellKeyed := keyed.put _
  have only : CastOnly c.state (c.state.put { pc with currentExp := some total }).progressRealm :=
    (CastOnly.put _ _).trans (.progressRealm _)
  refine ⟨stored.progressRealm, only.quests, fun exp h => ?_⟩
  obtain ⟨own, present, earned⟩ := h
  obtain rfl := Option.some.inj (present.symm.trans player)
  rw [nonzero?_earned earned] at raised
  obtain rfl := Option.some.inj (Outcome.ofArithmetic_eq_ok.mp raised)
  refine GameState.Earned.progressRealm ⟨_, GameState.pc?_put_self player keyed
    (GameState.pc?_eq_some player).2 rfl, ?_⟩ stored
  rw [← promised]
  rfl

theorem completeQuest_pays (keyed : c.state.WellKeyed) (found : c.state.quest? q.title = some old)
    (status : old.status = q.status) (ok : c.completeQuest q = .ok next) :
    Pays c.state next.state := by
  rw [completeQuest] at ok
  split_ifs at ok with already
  · cases ok
    refine .replaced (q := { q with status := .completed }) found keyed rfl fun exp h => ?_
    rwa [if_neg fun both => both.1 (status.trans already)]
  · obtain ⟨last, quests, paid⟩ := payReward_earns (c := c.putQuest { q with status := .completed })
      keyed ok
    refine .replaced (q := { q with status := .completed }) found last quests fun exp h => ?_
    rw [if_pos ⟨fun done => already (status.symm.trans done), rfl⟩]
    exact paid exp h

theorem quest?_titled {title : Option String} (found : c.quest? title = some q) :
    c.state.quest? q.title = some q := by
  obtain ⟨asked, -, first⟩ := Option.bind_eq_some_iff.mp found
  have named : q.title = asked := by simpa using List.find?_some first
  rw [GameState.quest?, named]
  exact first

theorem assignQuest_pays (keyed : c.state.WellKeyed) (y : Yields (c.assignQuest attrs) p) :
    Pays c.state p.scene.state := by
  rw [assignQuest] at y
  split at y
  · obtain rfl := yields_pure.mp y
    exact .refl keyed
  · obtain rfl := yields_pure.mp y
    have active : QuestStatus.active ≠ .completed := by decide
    exact GameState.Pays.entered keyed rfl active

theorem updateQuest_pays (keyed : c.state.WellKeyed) (y : Yields (c.updateQuest attrs) p) :
    Pays c.state p.scene.state := by
  rw [updateQuest] at y
  split at y
  swap
  · obtain rfl := yields_pure.mp y
    exact .refl keyed
  rename_i quest word found _
  have titled := quest?_titled found
  split at y
  · obtain rfl := yields_pure.mp y
    exact .refl keyed
  · obtain ⟨next, completed, y⟩ := y.bind
    obtain rfl := yields_pure.mp y
    exact completeQuest_pays keyed titled rfl (yields_ofOutcome.mp completed)
  · rename_i status other _
    obtain rfl := yields_pure.mp y
    refine .replaced (q := { quest with status }) titled keyed rfl fun exp h => ?_
    rwa [if_neg fun both => other both.2]

theorem completeQuestObjective_pays (keyed : c.state.WellKeyed)
    (y : Yields (c.completeQuestObjective attrs) p) : Pays c.state p.scene.state := by
  rw [completeQuestObjective] at y
  split at y
  swap
  · obtain rfl := yields_pure.mp y
    exact .refl keyed
  rename_i quest description found _
  split at y
  · obtain rfl := yields_pure.mp y
    exact .refl keyed
  rename_i later done
  obtain ⟨objectives, -, rfl⟩ := Option.map_eq_some_iff.mp done
  have titled := quest?_titled found
  split_ifs at y
  · obtain ⟨next, completed, y⟩ := y.bind
    obtain rfl := yields_pure.mp y
    exact completeQuest_pays (q := { quest with objectives }) keyed titled rfl
      (yields_ofOutcome.mp completed)
  · obtain rfl := yields_pure.mp y
    refine .replaced (q := { quest with objectives }) titled keyed rfl fun exp h => ?_
    rwa [if_neg fun both => both.1 both.2]

end Scene

theorem TagKind.play_pays {kind : TagKind} {attrs : Fields} {c : Scene} {p : Played}
    (ofQuests : kind ∈ TagKind.ofQuests) (keyed : c.state.WellKeyed)
    (y : Yields (kind.play attrs c) p) : c.state.Pays p.scene.state := by
  simp only [TagKind.ofQuests, List.mem_cons, List.not_mem_nil, or_false] at ofQuests
  rcases ofQuests with rfl | rfl | rfl
  · exact Scene.assignQuest_pays keyed y
  · exact Scene.updateQuest_pays keyed y
  · exact Scene.completeQuestObjective_pays keyed y

end Gamebook
