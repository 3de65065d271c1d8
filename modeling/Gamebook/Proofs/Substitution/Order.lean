import Mathlib.Data.List.Nodup
import Gamebook.Proofs.Outcome
import Gamebook.Substitution.Run

/-!
Rules in the order of their age. What a list of rules makes of a text depends on the rules that work
at the placement and on nothing else: these run oldest first, whatever the order of the list and
whatever rules stand in it that are idle there.
-/

namespace Gamebook

/-- Lists that come of putting elements with a property into a list, anywhere. -/
inductive Interspersed {α : Type} (P : α → Prop) : List α → List α → Prop
  | nil : Interspersed P [] []
  | kept (a : α) {xs ys : List α} (rest : Interspersed P xs ys) :
    Interspersed P (a :: xs) (a :: ys)
  | added {a : α} {xs ys : List α} (fits : P a) (rest : Interspersed P xs ys) :
    Interspersed P xs (a :: ys)

theorem Interspersed.filter {α : Type} {P : α → Prop} {xs ys : List α} {p : α → Bool}
    (h : Interspersed P xs ys)
    (without : ∀ a, P a → p a = false) : ys.filter p = xs.filter p := by
  induction h with
  | nil => rfl
  | kept a rest ih => rw [List.filter_cons, List.filter_cons, ih]
  | added fits rest ih => rw [List.filter_cons, without _ fits, if_neg Bool.false_ne_true, ih]

namespace Rule

variable {placement : Placement} {r : Rule} {rules inOrder : List Rule}

/-- Whether a rule has nothing to do at a placement. -/
def Idle (placement : Placement) (r : Rule) : Prop := r.disabled = true ∨ placement ∉ r.placement

/-- Whether a rule is to run at a placement. -/
def worksAt (placement : Placement) (r : Rule) : Bool :=
  !r.disabled && r.placement.contains placement

theorem worksAt_iff : r.worksAt placement = true ↔ ¬r.Idle placement := by
  rw [worksAt, Idle, not_or, not_not, Bool.and_eq_true, Bool.not_eq_true', Bool.not_eq_true,
    List.contains_iff_mem]

theorem Idle.worksAt (idle : r.Idle placement) : r.worksAt placement = false :=
  Bool.eq_false_iff.mpr fun works => worksAt_iff.mp works idle

/-- Rules by their age, oldest first. -/
def byAge (rules : List Rule) : List Rule := rules.mergeSort fun a b => a.createdAt ≤ b.createdAt

theorem byAge_sorted (rules : List Rule) :
    (byAge rules).Pairwise (·.createdAt ≤ ·.createdAt) := by
  have sorted : (byAge rules).Pairwise fun a b => decide (a.createdAt ≤ b.createdAt) = true :=
    List.pairwise_mergeSort (fun a b c => by simpa using Int.le_trans)
      (fun a b => by simpa using Int.le_total _ _) rules
  exact sorted.imp of_decide_eq_true

/-- Rules of different ages have one order by age. -/
theorem byAge_eq (distinct : (rules.map createdAt).Nodup) (same : rules.Perm inOrder)
    (sorted : inOrder.Pairwise (·.createdAt ≤ ·.createdAt)) : byAge rules = inOrder := by
  have all : (byAge rules).Perm rules := List.mergeSort_perm rules _
  refine (all.trans same).eq_of_pairwise (fun a b first second least most => ?_)
    (byAge_sorted rules) sorted
  exact List.inj_on_of_nodup_map distinct (all.mem_iff.mp first) (same.mem_iff.mpr second)
    (Int.le_antisymm least most)

end Rule

section Runs

variable {macros : MacroContext} {o : Occasion} {placement : Placement} {text : String}
  {rules others inOrder : List Rule}

/-- Runs rules over a text in the order in which they are given. -/
def runAll (macros : MacroContext) (o : Occasion) (rules : List Rule) (text : String) :
    Outcome String :=
  rules.foldlM (fun text r => r.run macros o text) text

theorem processText_eq (macros : MacroContext) (o : Occasion) (placement : Placement)
    (rules : List Rule) (text : String) :
    processText macros o placement rules text =
      runAll macros o (Rule.byAge (rules.filter (Rule.worksAt placement))) text := rfl

/-- The rules that work at a placement run oldest first. -/
theorem processText_eq_runAll (distinct : (rules.map Rule.createdAt).Nodup)
    (older : inOrder.Pairwise (·.createdAt < ·.createdAt))
    (works : ∀ r, r ∈ inOrder ↔ r ∈ rules ∧ ¬r.Idle placement) :
    processText macros o placement rules text = runAll macros o inOrder text := by
  have some : ((rules.filter (Rule.worksAt placement)).map Rule.createdAt).Nodup :=
    distinct.sublist (List.filter_sublist.map _)
  have once : inOrder.Nodup :=
    older.imp fun before same => absurd (same ▸ before) (Int.lt_irrefl _)
  have same : (rules.filter (Rule.worksAt placement)).Perm inOrder := by
    refine (List.perm_ext_iff_of_nodup some.of_map once).mpr fun r => ?_
    rw [List.mem_filter, Rule.worksAt_iff, works]
  rw [processText_eq, Rule.byAge_eq some same (older.imp Int.le_of_lt)]

/-- Rules of different ages do the same to a text in every order of the list and with any idle rules
put in anywhere: those that work at the placement run oldest first. -/
theorem processText_by_age (macros : MacroContext) (o : Occasion) (placement : Placement)
    (text : String) {rules shuffled padded : List Rule}
    (distinct : (rules.map Rule.createdAt).Nodup) (order : shuffled.Perm rules)
    (more : Interspersed (Rule.Idle placement) shuffled padded) :
    processText macros o placement padded text = processText macros o placement rules text ∧
      ∀ inOrder : List Rule, inOrder.Pairwise (·.createdAt < ·.createdAt) →
        (∀ r, r ∈ inOrder ↔ r ∈ rules ∧ ¬r.Idle placement) →
        processText macros o placement rules text = runAll macros o inOrder text := by
  refine ⟨?_, fun inOrder older works => processText_eq_runAll distinct older works⟩
  have some : ((rules.filter (Rule.worksAt placement)).map Rule.createdAt).Nodup :=
    distinct.sublist (List.filter_sublist.map _)
  have same : (rules.filter (Rule.worksAt placement)).Perm
      (Rule.byAge (padded.filter (Rule.worksAt placement))) := by
    rw [more.filter fun r idle => idle.worksAt]
    exact (order.symm.filter _).trans (List.mergeSort_perm _ _).symm
  rw [processText_eq, processText_eq, Rule.byAge_eq some same (Rule.byAge_sorted _)]

namespace Rule

/-- The oldest rule writes what the next one is about. -/
def naming : Rule where
  id := "name"
  findRegex := "kiếm"
  replaceString := "Sword"
  placement := [.narratorOutput]
  createdAt := 1

def sharpening : Rule where
  id := "edge"
  findRegex := "Sword"
  replaceString := "sharp Sword"
  placement := [.narratorOutput]
  createdAt := 2

/-- A rule that is switched off, as old as the first. -/
def blunting : Rule :=
  { sharpening with id := "blunt", findRegex := "sharp", disabled := true, createdAt := 1 }

/-- A rule for what the player writes. -/
def boasting : Rule := { naming with placement := [.playerInput], replaceString := "Blade" }

end Rule

open Rule in
theorem sharpening_by_age : ([naming, sharpening].map Rule.createdAt).Nodup ∧
    [sharpening, naming].Perm [naming, sharpening] ∧
    Interspersed (Rule.Idle .narratorOutput) [sharpening, naming]
      [boasting, sharpening, blunting, naming] ∧
    processText {} {} .narratorOutput [boasting, sharpening, blunting, naming] "kiếm" =
      .ok "sharp Sword" := by
  have distinct : ([naming, sharpening].map Rule.createdAt).Nodup := by decide
  have order : [sharpening, naming].Perm [naming, sharpening] := List.Perm.swap _ _ _
  have more : Interspersed (Rule.Idle .narratorOutput) [sharpening, naming]
      [boasting, sharpening, blunting, naming] :=
    .added (.inr (by decide)) (.kept _ (.added (.inl rfl) (.kept _ .nil)))
  refine ⟨distinct, order, more, ?_⟩
  have older : [naming, sharpening].Pairwise (·.createdAt < ·.createdAt) := by decide
  have works : ∀ r, r ∈ [naming, sharpening] ↔
      r ∈ [naming, sharpening] ∧ ¬r.Idle .narratorOutput := by
    refine fun r => (and_iff_left_of_imp fun listed => ?_).symm
    rw [← worksAt_iff]
    revert r
    decide
  obtain ⟨unmoved, oldestFirst⟩ :=
    processText_by_age {} {} .narratorOutput "kiếm" distinct order more
  have ordered :
      (runAll {} {} [naming, sharpening] "kiếm").toOption.any (· = "sharp Sword") = true := by
    decide +kernel
  obtain ⟨out, ran, whole⟩ := Outcome.exists_ok ordered
  rw [unmoved, oldestFirst _ older works, ran, of_decide_eq_true whole]

end Runs

end Gamebook
