import Mathlib
import Gamebook.Failure

/-!
Results of steps that can fail: what the steps of a successful run gave, and which failures a run
can have if its steps fail on numbers alone.
-/

namespace Gamebook.Outcome

variable {α β : Type}

theorem bind_eq_ok {x : Outcome α} {f : α → Outcome β} {b : β} :
    (x >>= f) = .ok b ↔ ∃ a, x = .ok a ∧ f a = .ok b := by
  cases x <;> simp [bind, Except.bind]

theorem pure_eq_ok {a b : α} : (pure a : Outcome α) = .ok b ↔ a = b := by
  simp [pure, Except.pure]

theorem map_eq_ok {x : Outcome α} {f : α → β} {b : β} :
    x.map f = .ok b ↔ ∃ a, x = .ok a ∧ f a = b := by
  cases x <;> simp [Except.map]

theorem ofArithmetic_eq_ok {x : Option α} {a : α} : ofArithmetic x = .ok a ↔ x = some a := by
  cases x <;> simp [ofArithmetic]

theorem mapM_eq_ok {f : α → Outcome β} {xs : List α} {ys : List β} :
    xs.mapM f = .ok ys ↔ List.Forall₂ (fun x y => f x = .ok y) xs ys := by
  induction xs generalizing ys with
  | nil =>
      rw [List.mapM_nil, pure_eq_ok, List.forall₂_nil_left_iff]
      exact eq_comm
  | cons x xs ih =>
      simp only [List.mapM_cons, bind_eq_ok, pure_eq_ok, List.forall₂_cons_left_iff, ih]
      constructor
      · rintro ⟨y, hy, ys', hys, rfl⟩
        exact ⟨y, ys', hy, hys, rfl⟩
      · rintro ⟨y, ys', hy, hys, rfl⟩
        exact ⟨y, hy, ys', hys, rfl⟩

/-- Each of the results comes from an element. -/
theorem exists_of_mem_mapM {f : α → Outcome β} {xs : List α} {ys : List β} {y : β}
    (ok : xs.mapM f = .ok ys) (member : y ∈ ys) : ∃ x ∈ xs, f x = .ok y := by
  induction mapM_eq_ok.mp ok with
  | nil => exact absurd member List.not_mem_nil
  | @cons x _ xs _ first _ ih =>
      rcases List.mem_cons.mp member with rfl | later
      · exact ⟨x, List.mem_cons_self, first⟩
      · obtain ⟨x', listed, made⟩ := ih (mapM_eq_ok.mpr ‹_›) later
        exact ⟨x', List.mem_cons_of_mem x listed, made⟩

/-- What every step gives, a list of results has. -/
theorem forall_mem_of_mapM {P : β → Prop} {f : α → Outcome β} {xs : List α} {ys : List β}
    (step : ∀ x y, f x = .ok y → P y) (ok : xs.mapM f = .ok ys) : ∀ y ∈ ys, P y := by
  intro y member
  obtain ⟨x, -, made⟩ := exists_of_mem_mapM ok member
  exact step x y made

theorem exists_foldlM_with {P : β → Prop} {f : β → α → Outcome β} {xs : List α} {b : β}
    (h : ∀ b, P b → ∀ x ∈ xs, ∃ b', f b x = .ok b' ∧ P b') (start : P b) :
    ∃ b', xs.foldlM f b = .ok b' ∧ P b' := by
  induction xs generalizing b with
  | nil => exact ⟨b, rfl, start⟩
  | cons x xs ih =>
      obtain ⟨next, step, kept⟩ := h b start x List.mem_cons_self
      obtain ⟨b', rest, last⟩ := ih
        (fun c hc z member => h c hc z (List.mem_cons_of_mem x member)) kept
      refine ⟨b', ?_, last⟩
      rw [List.foldlM_cons, bind_eq_ok]
      exact ⟨next, step, rest⟩

theorem exists_foldlM {f : β → α → Outcome β} {xs : List α} (b : β)
    (h : ∀ b, ∀ x ∈ xs, ∃ b', f b x = .ok b') : ∃ b', xs.foldlM f b = .ok b' := by
  have total : ∃ b', xs.foldlM f b = .ok b' ∧ True := by
    refine exists_foldlM_with (fun b _ x member => ?_) trivial
    obtain ⟨b', step⟩ := h b x member
    exact ⟨b', step, trivial⟩
  obtain ⟨b', all, -⟩ := total
  exact ⟨b', all⟩

/-- What every step keeps, a fold keeps. -/
theorem foldlM_keeps {P : β → Prop} {f : β → α → Outcome β} {xs : List α} {b b' : β}
    (step : ∀ b x b', P b → f b x = .ok b' → P b') (start : P b) (ok : xs.foldlM f b = .ok b') :
    P b' := by
  induction xs generalizing b with
  | nil => exact pure_eq_ok.mp ok ▸ start
  | cons x xs ih =>
      rw [List.foldlM_cons, bind_eq_ok] at ok
      obtain ⟨next, first, rest⟩ := ok
      exact ih (step b x next start first) rest

/-- A result that passes a check exists. -/
theorem exists_ok {x : Outcome α} {p : α → Bool} (h : x.toOption.any p = true) :
    ∃ a, x = .ok a ∧ p a = true := by
  cases x with
  | error e => exact nomatch h
  | ok a => exact ⟨a, rfl, h⟩

/-! ### Numbers out of range -/

/-- A failure on a numeral too long to read or a whole number beyond the doubles. -/
inductive OutOfRange : Failure → Prop
  | tooLong (digits : Nat) : OutOfRange (.numeralTooLong digits)
  | beyond : OutOfRange .beyondDouble

/-- A result that is missing only if a number is out of range. -/
def Ranged (x : Outcome α) : Prop := ∀ e, x = .error e → OutOfRange e

theorem ranged_ok (a : α) : Ranged (.ok a : Outcome α) := nofun

theorem ranged_bind {x : Outcome α} {f : α → Outcome β} (hx : Ranged x) (hf : ∀ a, Ranged (f a)) :
    Ranged (x >>= f) := by
  intro e h
  cases x with
  | error e' =>
      obtain rfl := Except.error.inj h
      exact hx e' rfl
  | ok a => exact hf a e h

theorem ranged_map {x : Outcome α} (f : α → β) (hx : Ranged x) : Ranged (x.map f) := by
  intro e h
  cases x with
  | error e' =>
      obtain rfl := Except.error.inj h
      exact hx e' rfl
  | ok a => exact nomatch h

theorem ranged_ofArithmetic (x : Option α) : Ranged (ofArithmetic x) := by
  intro e h
  cases x with
  | none =>
      obtain rfl := Except.error.inj h
      exact .beyond
  | some a => exact nomatch h

theorem ranged_mapM {f : α → Outcome β} (hf : ∀ a, Ranged (f a)) (xs : List α) :
    Ranged (xs.mapM f) := by
  induction xs with
  | nil => exact ranged_ok []
  | cons x xs ih =>
      rw [List.mapM_cons]
      apply ranged_bind (hf x)
      intro y
      exact ranged_bind ih fun ys => ranged_ok (y :: ys)

theorem ranged_foldlM {f : β → α → Outcome β} (hf : ∀ b a, Ranged (f b a)) (xs : List α) (b : β) :
    Ranged (xs.foldlM f b) := by
  induction xs generalizing b with
  | nil => exact ranged_ok b
  | cons x xs ih =>
      rw [List.foldlM_cons]
      exact ranged_bind (hf b x) ih

end Gamebook.Outcome
