import Gamebook.Proofs.Interpretation.Frame
import Gamebook.Proofs.Interpretation.Steps
import Gamebook.Proofs.Tag.Journal

/-!
The experience that a narrative of quests is worth. Every tag pays what the quest promised that it has
completed, if any; a tag that fails has completed none, for its state is dropped with the payment. So
the sum over the tags is what the player gains, in whatever order quests are completed, failed, taken
up again or assigned anew.
-/

namespace Gamebook

open GameState (Earned Pays)

/-- What the quest that a step has completed promised. -/
def TagStep.payout (x : TagStep) : Nat := x.before.state.payout x.after.state

theorem Skill.Settled.earned {s t : GameState} {exp : Int} (run : Skill.Settled s t)
    (h : s.WellKeyed) (earned : s.Earned exp) : t.Earned exp := by
  obtain ⟨pc, player, whole⟩ := earned
  obtain ⟨later, present, -, same⟩ := Settled.leads run h player
  exact ⟨later, present, same.exp ▸ whole⟩

/-- A step of a tag of quests pays for at most one quest; if the tag has failed it pays for none. -/
theorem TagStep.Runs.pays {rules : List Rule} {x : TagStep} {kind : TagKind} (run : x.Runs rules)
    (known : x.tag.kind? = some kind) (ofQuests : kind ∈ TagKind.ofQuests)
    (keyed : x.before.state.WellKeyed) :
    x.before.state.Pays x.after.state ∧ (x.failed = true → x.payout = 0) := by
  cases run with
  | passed _ state failed =>
    rw [TagStep.payout, state, failed]
    exact ⟨.refl keyed, nofun⟩
  | failed state _ =>
    rw [TagStep.payout, state]
    exact ⟨.refl keyed, fun _ => GameState.payout_eq_zero fun _ => GameState.completes_kept rfl⟩
  | played told yields state failed =>
    obtain rfl := Option.some.inj (told.symm.trans known)
    rw [state, failed]
    exact ⟨TagKind.play_pays (c := { state := x.before.state, rules }) ofQuests keyed yields, nofun⟩

/-- What steps have come to on a state with some experience: the player has gained what they paid. -/
structure Paid (s : GameState) (exp : Int) (done : List TagStep) (t : GameState) : Prop where
  keyed : t.WellKeyed
  gained : t.Earned (exp + (done.map TagStep.payout).sum)
  each : ∀ x ∈ done, x.before.state.Pays x.after.state ∧ (x.failed = true → x.payout = 0)
  titles : (s.quests.map (·.title)).Nodup → (t.quests.map (·.title)).Nodup

namespace Paid

variable {s t : GameState} {exp : Int} {done : List TagStep} {x : TagStep}

theorem step (h : Paid s exp done x.before.state) (pays : x.before.state.Pays x.after.state)
    (failed : x.failed = true → x.payout = 0) : Paid s exp (done ++ [x]) x.after.state where
  keyed := pays.keyed
  gained := by
    rw [List.map_append, List.sum_append, List.map_singleton, List.sum_singleton, Nat.cast_add,
      ← add_assoc]
    exact pays.paid _ h.gained
  each y listed := by
    rcases List.mem_append.mp listed with before | last
    · exact h.each y before
    · exact List.mem_singleton.mp last ▸ ⟨pays, failed⟩
  titles := pays.titles ∘ h.titles

theorem synchronize {settled : GameState × List (String × String)} (h : Paid s exp done t)
    (given : Play.Yields (Skill.synchronize t) settled) : Paid s exp done settled.1 := by
  have run := (Skill.synchronize_gives h.keyed).of_yields given
  have quests := (Skill.synchronize_castOnly given).quests
  exact ⟨run.wellKeyed h.keyed, run.earned h.keyed h.gained, h.each, quests ▸ h.titles⟩

end Paid

/-- A narrative of quest tags, on a state with a player of whole or missing experience, gives a result
in which the player has gained what the quests promised that its tags completed, one by one. Each tag
has completed at most one quest, and none if it failed; titles that were distinct are so again. -/
theorem interpret_pays_quests {s : GameState} {rules : List Rule} {text : String} {d : Draws}
    {exp : Int} (keyed : s.WellKeyed) (earned : s.Earned exp)
    (quests : ∀ t ∈ Tag.find text, ∃ kind ∈ TagKind.ofQuests, t.kind? = some kind) :
    ∃ i d', interpret rules text s d = (.ok i, d') ∧
      i.state.Earned (exp + ((stepsOf rules text s d).map TagStep.payout).sum) ∧
      (∀ x ∈ stepsOf rules text s d, x.before.state.Pays x.after.state ∧
        (x.failed = true → x.payout = 0)) ∧
      ((s.quests.map (·.title)).Nodup → (i.state.quests.map (·.title)).Nodup) := by
  obtain ⟨i, d', ok, paid⟩ := interpret_carries (P := Paid s exp)
    (Q := Paid s exp (stepsOf rules text s d)) keyed
    ⟨keyed, by simpa using earned, fun _ none => absurd none List.not_mem_nil, id⟩
    (fun done x later split run h => by
      have member : x ∈ stepsOf rules text s d :=
        split ▸ List.mem_append_right done List.mem_cons_self
      obtain ⟨kind, ofQuests, told⟩ := quests x.tag (Progress.steps_tag member)
      obtain ⟨pays, failed⟩ := run.pays told ofQuests h.keyed
      exact h.step pays failed)
    (fun _ => id) (fun _ _ h given => h.synchronize given)
  exact ⟨i, d', ok, paid.gained, paid.each, paid.titles⟩

/-- A hero with a quest for herbs that is worth two hundred. -/
def herbalist : GameState where
  knownEntities := [("Hero", { name := "Hero", kind := .pc, currentExp := some (.int 10) })]
  quests := [{
    title := "Herbs"
    reward := some "a ring, 200 EXP and 50 exp"
    objectives := [{ description := "Find them" }] }]

/-- The quest is completed, reported again, taken up again and completed by its objective; another is
assigned, failed and completed without a reward. -/
def errands : String :=
  "[QUEST_UPDATED: title=Herbs status=completed][QUEST_UPDATED: title=Herbs status=completed]" ++
    "[QUEST_UPDATED: title=Herbs status=active]" ++
    "[QUEST_OBJECTIVE_COMPLETED: questTitle=Herbs objectiveDescription=\"Find them\"]" ++
    "[QUEST_ASSIGNED: title=Wolf][QUEST_UPDATED: title=Wolf status=failed]" ++
    "[QUEST_UPDATED: title=Wolf status=completed]"

theorem errands_pay : herbalist.WellKeyed ∧ herbalist.Earned 10 ∧
    (∀ t ∈ Tag.find errands, ∃ kind ∈ TagKind.ofQuests, t.kind? = some kind) ∧
    ∃ i d', interpret [] errands herbalist {} = (.ok i, d') ∧ i.state.Earned 410 ∧
      (i.state.quests.map (·.title)).Nodup := by
  have keyed : herbalist.WellKeyed := by decide
  have earned : herbalist.Earned 10 := ⟨_, rfl, rfl⟩
  have quests : ∀ t ∈ Tag.find errands, ∃ kind ∈ TagKind.ofQuests, t.kind? = some kind := by
    decide +kernel
  obtain ⟨i, d', ok, gained, -, distinct⟩ := interpret_pays_quests keyed earned quests
  have sum : ((stepsOf [] errands herbalist {}).map TagStep.payout).sum = 400 := by decide +kernel
  rw [sum] at gained
  exact ⟨keyed, earned, quests, i, d', ok, gained, distinct (by decide)⟩

end Gamebook
