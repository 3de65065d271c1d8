import Mathlib.Data.List.Basic
import Gamebook.Text.Basic

/-!
Lists from which elements are left out because of those kept before them. What is kept is related to
all that was kept before it, and what is left out is ruled out by what is kept; a list of texts without
repetitions is the plainest case.
-/

namespace Gamebook

/-! ### Folds that keep some elements -/

section Keep

variable {α : Type} {p : List α → α → Bool} {xs start : List α}

/-- The elements of a list, one after another, that the ones kept before do not rule out. -/
def keepFrom (p : List α → α → Bool) (start xs : List α) : List α :=
  xs.foldl (fun kept x => if p kept x then kept else kept ++ [x]) start

theorem keepFrom_cons_of_ruled {x : α} (ruled : p start x = true) :
    keepFrom p start (x :: xs) = keepFrom p start xs := by
  rw [keepFrom, List.foldl_cons, if_pos ruled, keepFrom]

theorem keepFrom_cons_of_free {x : α} (free : p start x = false) :
    keepFrom p start (x :: xs) = keepFrom p (start ++ [x]) xs := by
  rw [keepFrom, List.foldl_cons, if_neg (Bool.eq_false_iff.mp free), keepFrom]

theorem prefix_keepFrom : start <+: keepFrom p start xs := by
  induction xs generalizing start with
  | nil => exact List.prefix_rfl
  | cons x xs ih =>
    cases free : p start x with
    | true =>
      rw [keepFrom_cons_of_ruled free]
      exact ih
    | false =>
      rw [keepFrom_cons_of_free free]
      exact (List.prefix_append start [x]).trans ih

/-- What is not ruled out by what was kept in the end was kept, if ruling out is by members alone. -/
theorem mem_keepFrom_or {x : α} (grows : ∀ {kept later x}, kept ⊆ later → p kept x = true →
    p later x = true) (member : x ∈ xs) :
    x ∈ keepFrom p start xs ∨ p (keepFrom p start xs) x = true := by
  induction xs generalizing start with
  | nil => exact absurd member List.not_mem_nil
  | cons y xs ih =>
    cases free : p start y with
    | true =>
      rw [keepFrom_cons_of_ruled free]
      rcases List.mem_cons.mp member with rfl | later
      · exact .inr (grows prefix_keepFrom.subset free)
      · exact ih later
    | false =>
      rw [keepFrom_cons_of_free free]
      rcases List.mem_cons.mp member with rfl | later
      · exact .inl (prefix_keepFrom.subset (List.mem_append_right start (List.mem_singleton_self x)))
      · exact ih later

/-- A symmetric relation that holds where nothing is ruled out holds among all that are kept. -/
theorem pairwise_keepFrom {R : α → α → Prop} (apart : ∀ {kept x}, p kept x = false →
    ∀ y ∈ kept, R y x) (h : start.Pairwise R) : (keepFrom p start xs).Pairwise R := by
  induction xs generalizing start with
  | nil => exact h
  | cons x xs ih =>
    cases free : p start x with
    | true =>
      rw [keepFrom_cons_of_ruled free]
      exact ih h
    | false =>
      rw [keepFrom_cons_of_free free]
      refine ih (List.pairwise_append.mpr ⟨h, List.pairwise_singleton R x, ?_⟩)
      intro y before z last
      exact List.mem_singleton.mp last ▸ apart free y before

/-- What holds at the start and of all that is not ruled out holds of all that are kept. -/
theorem forall_mem_keepFrom {P : α → Prop} (free : ∀ {kept x}, x ∈ xs → p kept x = false → P x)
    (h : ∀ x ∈ start, P x) : ∀ x ∈ keepFrom p start xs, P x := by
  induction xs generalizing start with
  | nil => exact h
  | cons x xs ih =>
    cases ruled : p start x with
    | true =>
      rw [keepFrom_cons_of_ruled ruled]
      exact ih (fun later => free (.tail x later)) h
    | false =>
      rw [keepFrom_cons_of_free ruled]
      refine ih (fun later => free (.tail x later)) (List.forall_mem_append.mpr ⟨h, ?_⟩)
      exact List.forall_mem_singleton.mpr (free List.mem_cons_self ruled)

theorem mem_of_mem_keepFrom {x : α} (member : x ∈ keepFrom p start xs) : x ∈ start ∨ x ∈ xs :=
  forall_mem_keepFrom (P := fun x => x ∈ start ∨ x ∈ xs) (fun listed _ => .inr listed)
    (fun _ => .inl) x member

end Keep

/-! ### Lists without repetitions -/

section Distinct

variable {x : String} {start xs : List String}

/-- With those on a list ruled out, the others are kept by their first places. -/
theorem keepFrom_mem_eq (start xs : List String) :
    keepFrom (fun seen x => decide (x ∈ seen)) start xs =
      start ++ (xs.filter (· ∉ start)).eraseDups := by
  induction xs generalizing start with
  | nil => exact (List.append_nil start).symm
  | cons x xs ih =>
    by_cases listed : x ∈ start
    · rw [keepFrom_cons_of_ruled (decide_eq_true listed), ih, List.filter_cons,
        if_neg (by simpa using listed)]
    · have rest : xs.filter (· ∉ start ++ [x]) =
          (xs.filter (· ∉ start)).filter fun y => !y == x := by
        rw [List.filter_filter]
        refine List.filter_congr fun y _ => ?_
        simp [Bool.beq_eq_decide_eq, Bool.and_comm]
      rw [keepFrom_cons_of_free (decide_eq_false listed), ih, rest, List.filter_cons,
        if_pos (by simpa using listed), List.eraseDups_cons, List.append_assoc]
      rfl

theorem mem_keepFrom_mem :
    x ∈ keepFrom (fun seen x => decide (x ∈ seen)) start xs ↔ x ∈ start ∨ x ∈ xs := by
  rw [keepFrom_mem_eq, List.mem_append, List.mem_eraseDups, List.mem_filter, decide_eq_true_eq]
  by_cases listed : x ∈ start <;> simp [listed]

theorem nodup_keepFrom_mem (h : start.Nodup) :
    (keepFrom (fun seen x => decide (x ∈ seen)) start xs).Nodup :=
  pairwise_keepFrom (fun free _ before same => of_decide_eq_false free (same ▸ before)) h

/-- Leaving elements out keeps the order of the first places. -/
theorem filter_eraseDups (keep : String → Bool) (xs : List String) :
    xs.eraseDups.filter keep = (xs.filter keep).eraseDups := by
  induction n : xs.length using Nat.strongRecOn generalizing xs with
  | ind n ih =>
    subst n
    cases xs with
    | nil => rfl
    | cons x xs =>
      have shorter : (xs.filter fun y => !y == x).length < (x :: xs).length :=
        Nat.lt_succ_of_le (List.length_filter_le _ xs)
      rw [List.eraseDups_cons, List.filter_cons, List.filter_cons, ih _ shorter _ rfl]
      split_ifs with kept
      · rw [List.eraseDups_cons, List.filter_filter, List.filter_filter]
        simp only [Bool.and_comm]
      · rw [List.filter_filter]
        congr 1
        refine List.filter_congr fun y _ => ?_
        by_cases same : y = x <;> simp [same, kept]

namespace Text

theorem distinct_eq_keepFrom (xs : List String) :
    distinct xs = keepFrom (fun seen x => decide (x ∈ seen)) [] xs := by
  simp only [distinct, keepFrom, decide_eq_true_eq]

theorem distinct_eq_eraseDups (xs : List String) : distinct xs = xs.eraseDups := by
  rw [distinct_eq_keepFrom, keepFrom_mem_eq]
  simp

theorem mem_distinct_iff : x ∈ distinct xs ↔ x ∈ xs := by
  rw [distinct_eq_eraseDups, List.mem_eraseDups]

theorem nodup_distinct (xs : List String) : (distinct xs).Nodup := by
  rw [distinct_eq_keepFrom]
  exact nodup_keepFrom_mem List.nodup_nil

end Text

end Distinct

end Gamebook
