import Gamebook.Proofs.Acting.Run

/-!
A narrative as a course of steps, each with what the narrative has come to before its tag and after it.
What holds at the start and is carried on by every step, whatever came before, holds of the whole
course.
-/

namespace Gamebook

open Play (Yields)

/-- A tag with what a narrative has come to before and after it. -/
structure TagStep where
  tag : Tag
  before : Progress
  after : Progress

namespace TagStep

/-- Whether the tag has failed. -/
def failed (x : TagStep) : Bool := x.after.failed ≠ x.before.failed

/-- What becomes of a tag: it is passed over, it fails and leaves the state alone, or it is played. -/
inductive Runs (rules : List Rule) (x : TagStep) : Prop
  | passed (idle : x.tag.kind? = none ∨ x.tag.kind? = some .defineRealmSystem ∨
      Attribute.parse x.tag.body = []) (state : x.after.state = x.before.state)
    (failed : x.failed = false)
  | failed (state : x.after.state = x.before.state) (failed : x.failed = true)
  | played {kind : TagKind} {p : Played} (known : x.tag.kind? = some kind)
    (yields : Yields
      (kind.play (Attribute.parse x.tag.body) { state := x.before.state, rules }) p)
    (state : x.after.state = p.scene.state) (failed : x.failed = false)

end TagStep

namespace Progress

variable {rules : List Rule} {acc : Progress × Draws} {tags : List Tag} {x : TagStep}

/-- The steps of tags that are played one after another. -/
def steps (rules : List Rule) : List Tag → Progress × Draws → List TagStep
  | [], _ => []
  | t :: rest, acc =>
    ⟨t, acc.1, (playTag rules acc t).1⟩ :: steps rules rest (playTag rules acc t)

theorem steps_tag (member : x ∈ steps rules tags acc) : x.tag ∈ tags := by
  induction tags generalizing acc with
  | nil => exact nomatch member
  | cons tag tags ih =>
    rcases List.mem_cons.mp member with rfl | later
    · exact List.mem_cons_self
    · exact List.mem_cons_of_mem tag (ih later)

theorem playTag_runs (rules : List Rule) (acc : Progress × Draws) (t : Tag) :
    TagStep.Runs rules ⟨t, acc.1, (playTag rules acc t).1⟩ := by
  obtain ⟨p, d⟩ := acc
  have same (q : List String) : decide (q ≠ q) = false := decide_eq_false (· rfl)
  rw [playTag]
  dsimp only
  split
  · rename_i known
    exact .passed (.inr (.inl known)) rfl (same _)
  · rename_i unknown
    exact .passed (.inl unknown) rfl (same _)
  · rename_i kind _ known
    split
    · rename_i empty
      exact .passed (.inr (.inr empty)) rfl (same _)
    · rw [playKind]
      split
      · rename_i played d' ok
        exact .played known ⟨d, d', ok⟩ rfl (same _)
      · exact .failed rfl (by simp [TagStep.failed])

theorem steps_runs (member : x ∈ steps rules tags acc) : x.Runs rules := by
  induction tags generalizing acc with
  | nil => exact nomatch member
  | cons tag tags ih =>
    rw [steps, List.mem_cons] at member
    rcases member with rfl | later
    · exact playTag_runs rules acc tag
    · exact ih later

/-- What holds at the start and is kept by every step holds before and after each of them. -/
theorem steps_keep {P : GameState → Prop} (start : P acc.1.state)
    (keep : ∀ x ∈ steps rules tags acc, x.Runs rules → P x.before.state → P x.after.state) :
    ∀ x ∈ steps rules tags acc, P x.before.state ∧ P x.after.state := by
  induction tags generalizing acc with
  | nil => exact List.forall_mem_nil _
  | cons tag tags ih =>
    rw [steps, List.forall_mem_cons] at keep ⊢
    have next := keep.1 (playTag_runs rules acc tag) start
    exact ⟨⟨start, next⟩, ih next keep.2⟩

/-- What holds at the start and is carried on by every step holds in the end. A step knows the steps
before it and those that are to come. -/
theorem steps_carry {P : List TagStep → GameState → Prop} {all done : List TagStep}
    (carry : ∀ done x later, all = done ++ x :: later → x.Runs rules → P done x.before.state →
      P (done ++ [x]) x.after.state)
    (split : all = done ++ steps rules tags acc) (h : P done acc.1.state) :
    P all (tags.foldl (playTag rules) acc).1.state := by
  induction tags generalizing acc done with
  | nil =>
    rw [split, steps, List.append_nil]
    exact h
  | cons tag tags ih =>
    have next := carry done _ _ split (playTag_runs rules acc tag) h
    exact ih (split.trans (List.append_cons ..)) next

end Progress

/-- The steps of a narrative. -/
def stepsOf (rules : List Rule) (text : String) (s : GameState) (d : Draws) : List TagStep :=
  Progress.steps rules (Tag.find text) ({ state := s }, d)

/-- Interpretation on a well-keyed state gives a result. It has what holds at the start, is carried on
by every step and is kept by synchronization. -/
theorem interpret_carries {P : List TagStep → GameState → Prop} {Q : GameState → Prop}
    {rules : List Rule} {text : String} {s : GameState} {d : Draws} (keyed : s.WellKeyed)
    (start : P [] s)
    (carry : ∀ done x later, stepsOf rules text s d = done ++ x :: later → x.Runs rules →
      P done x.before.state → P (done ++ [x]) x.after.state)
    (still : ∀ t, P (stepsOf rules text s d) t → Q t)
    (settle : ∀ t done, P (stepsOf rules text s d) t → Yields (Skill.synchronize t) done →
      Q done.1) :
    ∃ i d', interpret rules text s d = (.ok i, d') ∧ Q i.state := by
  obtain ⟨i, d', ok⟩ := interpret_gives keyed rules text d
  refine ⟨i, d', ok, ?_⟩
  obtain ⟨p, ⟨d₁, played⟩, -, kept, settled⟩ := interpret_ok ok
  have reached : P (stepsOf rules text s d) (Progress.playAll rules (Tag.find text) s d).1.state :=
    Progress.steps_carry carry rfl start
  rw [played] at reached
  by_cases none : p.applied = []
  · rw [kept none]
    exact still _ reached
  · obtain ⟨done, synchronized, state⟩ := settled none
    rw [state]
    exact settle _ done reached synchronized

end Gamebook
