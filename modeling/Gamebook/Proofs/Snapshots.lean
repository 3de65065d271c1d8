import Mathlib.Data.List.Induction
import Mathlib.Tactic.SplitIfs
import Gamebook.Snapshots

/-!
Snapshots by the calls that a store has had. The state of a turn is the one that was saved for it
last, unless the store has gone back to an earlier turn since. A call that is refused leaves no
trace.
-/

namespace Gamebook.Snapshots

variable {k : Snapshots} {s : GameState} {turn asked : Int} {t : Nat}

/-! ### Single operations -/

theorem load?_cons (entry : Nat × GameState) (saved : List (Nat × GameState)) (asked : Int) :
    load? ⟨entry :: saved⟩ asked =
      if (entry.1 : Int) = asked then some entry.2 else load? ⟨saved⟩ asked := by
  rw [load?, List.find?_cons]
  split_ifs with here
  · rw [decide_eq_true here]
    rfl
  · rw [decide_eq_false here]
    rfl

theorem load?_save (k : Snapshots) (s : GameState) (asked : Int) :
    (k.save s).load? asked = if (s.turnCount : Int) = asked then some s else k.load? asked := by
  obtain ⟨saved⟩ := k
  rw [save]
  induction saved with
  | nil => exact load?_cons (s.turnCount, s) [] asked
  | cons entry saved ih =>
    obtain ⟨t, other⟩ := entry
    rw [insert]
    by_cases before : s.turnCount < t
    · rw [if_pos before, load?_cons]
    by_cases same : s.turnCount = t
    · rw [if_neg before, if_pos same, load?_cons, load?_cons, same]
      split_ifs <;> rfl
    · rw [if_neg before, if_neg same, load?_cons, load?_cons, ih]
      split_ifs with here there
      · omega
      all_goals rfl

theorem load?_upTo (k : Snapshots) (turn asked : Int) :
    (k.upTo turn).load? asked = if asked ≤ turn then k.load? asked else none := by
  obtain ⟨saved⟩ := k
  rw [upTo]
  induction saved with
  | nil => exact (ite_self none).symm
  | cons entry saved ih =>
    rw [List.filter_cons, load?_cons]
    by_cases kept : (entry.1 : Int) ≤ turn
    · rw [if_pos (decide_eq_true kept), load?_cons, ih]
      split_ifs with here below
      · rfl
      · omega
      all_goals rfl
    · rw [if_neg (by simpa using kept), ih]
      split_ifs with below here
      · omega
      all_goals rfl

theorem mem_turns_iff : t ∈ k.turns ↔ k.load? t ≠ none := by
  obtain ⟨saved⟩ := k
  rw [turns]
  induction saved with
  | nil => exact iff_of_false List.not_mem_nil (· rfl)
  | cons entry saved ih =>
    rw [List.map_cons, List.mem_cons, ih, load?_cons]
    split_ifs with here
    · exact iff_of_true (.inl (by omega)) (Option.some_ne_none _)
    · exact or_iff_right (by omega)

/-! ### Ascending turns -/

/-- Whether the turns are listed in ascending order, each once. -/
def Ascending (k : Snapshots) : Prop := k.turns.Pairwise (· < ·)

theorem Ascending.save (h : k.Ascending) (s : GameState) : (k.save s).Ascending := by
  obtain ⟨saved⟩ := k
  rw [Snapshots.save, Ascending, turns]
  rw [Ascending, turns] at h
  induction saved with
  | nil => exact List.pairwise_singleton _ _
  | cons entry saved ih =>
    obtain ⟨t, other⟩ := entry
    obtain ⟨first, rest⟩ := List.pairwise_cons.mp h
    rw [insert]
    split_ifs with before same
    · refine List.pairwise_cons.mpr ⟨fun later listed => ?_, h⟩
      rcases List.mem_cons.mp listed with rfl | behind
      · exact before
      · exact Nat.lt_trans before (first later behind)
    · exact same ▸ h
    · refine List.pairwise_cons.mpr ⟨fun later listed => ?_, ih rest⟩
      have known : later = s.turnCount ∨ later ∈ saved.map (·.1) := by
        have loaded := (mem_turns_iff (k := Snapshots.save ⟨saved⟩ s)).mp listed
        rw [load?_save] at loaded
        split_ifs at loaded with own
        · exact .inl (by omega)
        · exact .inr (mem_turns_iff.mpr loaded)
      rcases known with rfl | behind
      · exact Nat.lt_of_le_of_ne (Nat.not_lt.mp before) (Ne.symm same)
      · exact first later behind

theorem Ascending.upTo (h : k.Ascending) (turn : Int) : (k.upTo turn).Ascending :=
  h.sublist (List.filter_sublist.map _)

/-- In ascending order the latest state is that of the greatest turn. -/
theorem Ascending.latest?_eq (h : k.Ascending) :
    k.latest? = k.turns.max?.bind fun t => k.load? t := by
  obtain ⟨saved⟩ := k
  rcases List.eq_nil_or_concat saved with rfl | ⟨earlier, last, rfl⟩
  · rfl
  rw [List.concat_eq_append] at h ⊢
  have below : ∀ entry ∈ earlier, entry.1 < last.1 := by
    rw [Ascending, turns, List.map_append, List.pairwise_append] at h
    exact fun entry listed => h.2.2 _ (List.mem_map_of_mem listed) _ (List.mem_singleton_self _)
  have greatest : (turns ⟨earlier ++ [last]⟩).max? = some last.1 := by
    rw [List.max?_eq_some_iff, turns, List.map_append]
    refine ⟨List.mem_append_right _ (List.mem_singleton_self _), fun t listed => ?_⟩
    rcases List.mem_append.mp listed with before | final
    · obtain ⟨entry, member, rfl⟩ := List.mem_map.mp before
      exact Nat.le_of_lt (below entry member)
    · exact Nat.le_of_eq (List.mem_singleton.mp final)
  have found : load? ⟨earlier ++ [last]⟩ last.1 = some last.2 := by
    clear h greatest
    induction earlier with
    | nil => exact (load?_cons last [] _).trans (if_pos rfl)
    | cons entry earlier ih =>
      obtain ⟨first, rest⟩ := List.forall_mem_cons.mp below
      rw [List.cons_append, load?_cons, if_neg (by omega), ih rest]
  rw [greatest, latest?, List.getLast?_append]
  exact found.symm

theorem turns_upTo (k : Snapshots) (turn : Int) :
    (k.upTo turn).turns = k.turns.filter fun t : Nat => (t : Int) ≤ turn := by
  rw [turns, turns, List.filter_map]
  rfl

/-! ### Calls -/

/-- A call of a store. -/
inductive Call where
  | save (s : GameState)
  | load (turn : Int)
  | latest
  | turns
  | rollback (turn : Int)

/-- What a call is answered by. -/
inductive Answer where
  | saved
  | state (found : Option GameState)
  | turns (listed : List Nat)
  | refused (reason : Failure)

/-- Carries a call out. One that is refused leaves the store as it was. -/
def perform (k : Snapshots) : Call → Answer × Snapshots
  | .save s => (.saved, k.save s)
  | .load turn => (.state (k.load? turn), k)
  | .latest => (.state k.latest?, k)
  | .turns => (.turns k.turns, k)
  | .rollback turn =>
    match k.rollback turn with
    | .ok (s, k') => (.state (some s), k')
    | .error reason => (.refused reason, k)

theorem perform_rollback_of_some (h : k.load? turn = some s) :
    k.perform (.rollback turn) = (.state (some s), k.upTo turn) := by
  simp only [perform, rollback, h]

theorem perform_rollback_of_none (h : k.load? turn = none) :
    k.perform (.rollback turn) = (.refused (.noSnapshot turn), k) := by
  simp only [perform, rollback, h]

/-! ### Histories -/

/-- A call with its answer. -/
abbrev Exchange := Call × Answer

/-- Whether a state was saved for a turn. -/
def Exchange.Saves (turn : Int) (x : Exchange) : Prop :=
  ∃ s, x.1 = .save s ∧ (s.turnCount : Int) = turn

/-- Whether the store went back to a turn before the given one. -/
def Exchange.Erases (turn : Int) (x : Exchange) : Prop :=
  ∃ earlier s, x = (.rollback earlier, .state (some s)) ∧ earlier < turn

/-- Whether a state was saved for a turn, with nothing saved for that turn and no return to an
earlier one since. -/
def Standing (history : List Exchange) (turn : Int) (s : GameState) : Prop :=
  ∃ before after, history = before ++ (.save s, .saved) :: after ∧ (s.turnCount : Int) = turn ∧
    ∀ x ∈ after, ¬Exchange.Saves turn x ∧ ¬Exchange.Erases turn x

theorem not_standing_nil : ¬Standing [] turn s := by
  rintro ⟨before, after, split, -⟩
  exact absurd split (by simp)

theorem standing_concat {history : List Exchange} {x : Exchange} :
    Standing (history ++ [x]) turn s ↔
      x = (.save s, .saved) ∧ (s.turnCount : Int) = turn ∨
        ¬x.Saves turn ∧ ¬x.Erases turn ∧ Standing history turn s := by
  constructor
  · rintro ⟨before, after, split, own, quiet⟩
    rcases List.eq_nil_or_concat after with rfl | ⟨after, last, rfl⟩
    · obtain ⟨-, last⟩ := List.append_inj' split rfl
      exact .inl ⟨(List.cons.inj last).1, own⟩
    · rw [List.concat_eq_append, ← List.cons_append, ← List.append_assoc] at split
      obtain ⟨rfl, same⟩ := List.append_inj' split rfl
      obtain rfl := (List.cons.inj same).1
      obtain ⟨quiet, still⟩ := List.forall_mem_append.mp (List.concat_eq_append ▸ quiet)
      obtain ⟨unsaved, unerased⟩ := still x (List.mem_singleton_self x)
      exact .inr ⟨unsaved, unerased, before, after, rfl, own, quiet⟩
  · rintro (⟨rfl, own⟩ | ⟨unsaved, unerased, before, after, rfl, own, quiet⟩)
    · exact ⟨history, [], rfl, own, List.forall_mem_nil _⟩
    · refine ⟨before, after ++ [x], by simp, own, List.forall_mem_append.mpr ⟨quiet, ?_⟩⟩
      exact List.forall_mem_singleton.mpr ⟨unsaved, unerased⟩

/-- A call other than a save and a return leaves what stands. -/
theorem standing_concat_of_quiet {history : List Exchange} {x : Exchange}
    (unsaved : ¬x.Saves turn) (unerased : ¬x.Erases turn) :
    Standing (history ++ [x]) turn s ↔ Standing history turn s := by
  rw [standing_concat]
  constructor
  · rintro (⟨rfl, own⟩ | ⟨-, -, stands⟩)
    · exact absurd ⟨s, rfl, own⟩ unsaved
    · exact stands
  · exact fun stands => .inr ⟨unsaved, unerased, stands⟩

/-- A store that holds what its history says: its turns in ascending order, each with the state that
stands for it. -/
structure Records (history : List Exchange) (k : Snapshots) : Prop where
  loads : ∀ turn s, k.load? turn = some s ↔ Standing history turn s
  ascending : k.Ascending

theorem Records.new : Records [] {} :=
  ⟨fun _ _ => iff_of_false nofun not_standing_nil, List.Pairwise.nil⟩

/-- Every call carries the record on. -/
theorem Records.perform {history : List Exchange} (h : Records history k) (call : Call) :
    Records (history ++ [(call, (k.perform call).1)]) (k.perform call).2 := by
  have silent {answer : Answer} (unsaved : ∀ s, call ≠ .save s)
      (unerased : ∀ turn s, (call, answer) ≠ (.rollback turn, .state (some s))) :
      Records (history ++ [(call, answer)]) k := by
    refine ⟨fun turn s => ?_, h.ascending⟩
    refine (h.loads turn s).trans (standing_concat_of_quiet ?_ ?_).symm
    · rintro ⟨s, same, -⟩
      exact unsaved s same
    · rintro ⟨earlier, s, same, -⟩
      exact unerased earlier s same
  cases call with
  | save new =>
    refine ⟨fun turn s => ?_, h.ascending.save new⟩
    rw [Snapshots.perform, load?_save, standing_concat, ← h.loads]
    have unerased : ¬Exchange.Erases turn (.save new, .saved) := by
      rintro ⟨earlier, s, same, -⟩
      cases same
    split_ifs with own
    · constructor
      · intro same
        obtain rfl := Option.some.inj same
        exact .inl ⟨rfl, own⟩
      · rintro (⟨same, -⟩ | ⟨unsaved, -⟩)
        · cases same
          rfl
        · exact absurd ⟨new, rfl, own⟩ unsaved
    · have unsaved : ¬Exchange.Saves turn (.save new, .saved) := by
        rintro ⟨s, same, other⟩
        cases same
        exact own other
      constructor
      · exact fun found => .inr ⟨unsaved, unerased, found⟩
      · rintro (⟨same, other⟩ | ⟨-, -, found⟩)
        · cases same
          exact absurd other own
        · exact found
  | load turn => exact silent nofun nofun
  | latest => exact silent nofun nofun
  | turns => exact silent nofun nofun
  | rollback back =>
    cases found : k.load? back with
    | none =>
      rw [perform_rollback_of_none found]
      exact silent nofun nofun
    | some reached =>
      rw [perform_rollback_of_some found]
      refine ⟨fun turn s => ?_, h.ascending.upTo back⟩
      rw [load?_upTo]
      have unsaved : ¬Exchange.Saves turn (.rollback back, .state (some reached)) := by
        rintro ⟨s, same, -⟩
        cases same
      split_ifs with below
      · refine (h.loads turn s).trans (standing_concat_of_quiet unsaved ?_).symm
        rintro ⟨earlier, s, same, before⟩
        cases same
        omega
      · refine iff_of_false nofun fun stands => ?_
        rcases standing_concat.mp stands with ⟨same, -⟩ | ⟨-, unerased, -⟩
        · cases same
        · exact unerased ⟨back, reached, rfl, by omega⟩

/-- One call more, with its answer. -/
def exchange (course : List Exchange × Snapshots) (call : Call) : List Exchange × Snapshots :=
  let (answer, k) := course.2.perform call
  (course.1 ++ [(call, answer)], k)

/-- What was said with a new store in calls, one after another, and the store in the end. -/
def converse (calls : List Call) : List Exchange × Snapshots := calls.foldl exchange ([], {})

theorem converse_records (calls : List Call) : Records (converse calls).1 (converse calls).2 := by
  induction calls using List.reverseRecOn with
  | nil => exact .new
  | append_singleton calls call ih =>
    rw [converse, List.foldl_append]
    exact ih.perform call

/-- After any calls of a new store, what stands for a turn is what is loaded for it; the turns are
listed in ascending order; the latest state is that of the greatest of them; and going back to a turn
gives its state and takes away just the turns after it, or is refused if there is none, and changes
nothing. -/
theorem converse_stands (calls : List Call) :
    let (history, k) := converse calls
    (∀ turn s, k.load? turn = some s ↔ Standing history turn s) ∧
    (k.turns.Pairwise (· < ·) ∧ ∀ t, t ∈ k.turns ↔ k.load? t ≠ none) ∧
    k.latest? = k.turns.max?.bind (fun t => k.load? t) ∧
    ∀ turn, match k.load? turn with
      | some s => ∃ k', k.perform (.rollback turn) = (.state (some s), k') ∧
        (∀ asked, k'.load? asked = if asked ≤ turn then k.load? asked else none) ∧
        k'.turns = k.turns.filter (fun t : Nat => decide ((t : Int) ≤ turn))
      | none => k.perform (.rollback turn) = (.refused (.noSnapshot turn), k) := by
  obtain ⟨loads, ascending⟩ := converse_records calls
  refine ⟨loads, ⟨ascending, fun t => mem_turns_iff⟩, ascending.latest?_eq, fun turn => ?_⟩
  split
  · rename_i s found
    exact ⟨_, perform_rollback_of_some found, load?_upTo _ turn, turns_upTo _ turn⟩
  · rename_i none
    exact perform_rollback_of_none none

end Gamebook.Snapshots
