import Mathlib
import Gamebook.Cleanup.Partition
import Gamebook.Proofs.Memory.Enhancement
import Gamebook.Proofs.Number.Amount

/-!
The choice of active memories as a run of decisions, one for each memory in the order in which they
are taken. A decision either admits its memory or puts it away. What a whole choice keeps is shown
for one decision and then, by induction, for a run.
-/

namespace Gamebook

open Outcome

theorem totalCost_eq_sum (ms : List Memory) : totalCost ms = (ms.map Memory.tokenCost).sum := by
  rw [totalCost, List.sum, List.foldr_map]

theorem totalCost_cons (m : Memory) (ms : List Memory) :
    totalCost (m :: ms) = m.tokenCost + totalCost ms := by
  rw [totalCost_eq_sum, List.map_cons, List.sum_cons, ← totalCost_eq_sum]

theorem totalCost_append (xs ys : List Memory) :
    totalCost (xs ++ ys) = totalCost xs + totalCost ys := by
  simp only [totalCost_eq_sum, List.map_append, List.sum_append]

theorem totalCost_perm {xs ys : List Memory} (h : xs.Perm ys) : totalCost xs = totalCost ys := by
  rw [totalCost_eq_sum, totalCost_eq_sum]
  exact (h.map _).sum_eq

namespace Memory

/-- What cleanup leaves of a memory in any case. -/
def essence (m : Memory) : String × Bool := (m.text, m.pinned)

/-- The form in which a memory that is not pinned is weighed. -/
inductive Offered (s : GameState) (m : Memory) : Memory → Prop
  | asIs : m.needsEnhancement s = false → Offered s m m
  | refreshed {e : Memory} : m.needsEnhancement s = true → m.enhanced s = .ok e → Offered s m e

theorem essence_enhanced {m e : Memory} {s : GameState} (h : m.enhanced s = .ok e) :
    e.essence = m.essence := by
  obtain ⟨x, -, rfl⟩ := enhanced_eq_ok.mp h
  rfl

end Memory

namespace Choice

/-- One decision. -/
inductive Decides (c : CleanupConfig) (budget : Double) (s : GameState) (ch : Choice) :
    Memory × Nat → Choice → Prop
  | pinned {m : Memory} {place : Nat} (pin : m.pinned = true) (room : ch.hasRoom c = true) :
      Decides c budget s ch (m, place) (ch.keep place m)
  | overflow {m : Memory} {place : Nat} (pin : m.pinned = true) (full : ch.hasRoom c = false) :
      Decides c budget s ch (m, place) (ch.archive s.turnCount m)
  | unimportant {m : Memory} {place : Nat} (loose : m.pinned = false)
      (low : m.importanceBelow c.lowImportance = true) :
      Decides c budget s ch (m, place) (ch.archive s.turnCount m)
  | kept {m : Memory} {place : Nat} (loose : m.pinned = false)
      (high : m.importanceBelow c.lowImportance = false) (complete : m.needsEnhancement s = false)
      (fitting : ch.fits c budget m = true) :
      Decides c budget s ch (m, place) (ch.keep place m)
  | refreshed {m e : Memory} {place : Nat} (loose : m.pinned = false)
      (high : m.importanceBelow c.lowImportance = false) (stale : m.needsEnhancement s = true)
      (done : m.enhanced s = .ok e) (fitting : ch.fits c budget e = true) :
      Decides c budget s ch (m, place) (ch.refresh place e)
  | costly {m a : Memory} {place : Nat} (loose : m.pinned = false)
      (high : m.importanceBelow c.lowImportance = false) (offer : m.Offered s a)
      (unfit : ch.fits c budget a = false) :
      Decides c budget s ch (m, place) (ch.archive s.turnCount m)

/-- The decisions on a list of memories, from the first to the last. -/
inductive Run (c : CleanupConfig) (budget : Double) (s : GameState) :
    Choice → List (Memory × Nat) → Choice → Prop
  | done {ch : Choice} : Run c budget s ch [] ch
  | step {ch next last : Choice} {entry : Memory × Nat} {rest : List (Memory × Nat)} :
      Decides c budget s ch entry next → Run c budget s next rest last →
      Run c budget s ch (entry :: rest) last

variable {c : CleanupConfig} {budget : Double} {s : GameState} {ch next last : Choice}
  {entry : Memory × Nat} {entries : List (Memory × Nat)}

theorem decides_pinned (pin : entry.1.pinned = true) :
    Decides c budget s ch entry next ↔ ch.addPinned c s.turnCount entry = next := by
  constructor
  · intro h
    cases h with
    | pinned _ room => simp only [addPinned, room, if_true]
    | overflow _ full => simp only [addPinned, full, Bool.false_eq_true, if_false]
    | unimportant loose | kept loose | refreshed loose | costly loose =>
        exact nomatch pin.symm.trans loose
  · rintro rfl
    rw [addPinned]
    split_ifs with room
    · exact .pinned pin room
    · exact .overflow pin (Bool.not_eq_true _ ▸ room)

theorem decides_other (loose : entry.1.pinned = false) :
    Decides c budget s ch entry next ↔ ch.addOther c budget s entry = .ok next := by
  constructor
  · intro h
    cases h with
    | pinned pin | overflow pin => exact nomatch pin.symm.trans loose
    | unimportant _ low => simp only [addOther, low, if_true]
    | kept _ high complete fitting =>
        simp only [addOther, high, complete, fitting, Bool.false_eq_true, if_false, if_true]
    | refreshed _ high stale done fitting =>
        simp only [addOther, high, stale, Bool.false_eq_true, if_false, if_true, bind_eq_ok,
          pure_eq_ok]
        exact ⟨_, done, if_pos fitting⟩
    | costly _ high offer unfit =>
        cases offer with
        | asIs complete =>
            simp only [addOther, high, complete, unfit, Bool.false_eq_true, if_false]
        | refreshed stale done =>
            simp only [addOther, high, stale, Bool.false_eq_true, if_false, if_true, bind_eq_ok,
              pure_eq_ok]
            exact ⟨_, done, if_neg (by rw [unfit]; exact Bool.false_ne_true)⟩
  · intro h
    obtain ⟨m, place⟩ := entry
    simp only [addOther] at h
    split_ifs at h with low stale fitting
    · obtain rfl := Except.ok.inj h
      exact .unimportant loose low
    · obtain ⟨e, done, result⟩ := bind_eq_ok.mp h
      obtain rfl := pure_eq_ok.mp result
      split_ifs with fitting
      · exact .refreshed loose (Bool.eq_false_of_not_eq_true low) stale done fitting
      · exact .costly loose (Bool.eq_false_of_not_eq_true low) (.refreshed stale done)
          (Bool.eq_false_of_not_eq_true fitting)
    · obtain rfl := Except.ok.inj h
      exact .kept loose (Bool.eq_false_of_not_eq_true low) (Bool.eq_false_of_not_eq_true stale)
        fitting
    · obtain rfl := Except.ok.inj h
      exact .costly loose (Bool.eq_false_of_not_eq_true low)
        (.asIs (Bool.eq_false_of_not_eq_true stale)) (Bool.eq_false_of_not_eq_true fitting)

theorem run_append {xs ys : List (Memory × Nat)} :
    Run c budget s ch (xs ++ ys) last ↔
      ∃ mid, Run c budget s ch xs mid ∧ Run c budget s mid ys last := by
  induction xs generalizing ch with
  | nil =>
      constructor
      · intro h
        exact ⟨ch, .done, h⟩
      · rintro ⟨_, ⟨⟩, h⟩
        exact h
  | cons entry xs ih =>
      constructor
      · rintro (_ | ⟨first, others⟩)
        obtain ⟨mid, left, right⟩ := ih.mp others
        exact ⟨mid, .step first left, right⟩
      · rintro ⟨mid, _ | ⟨first, left⟩, right⟩
        exact .step first (ih.mpr ⟨mid, left, right⟩)

theorem run_pinned (pins : ∀ entry ∈ entries, entry.1.pinned = true) :
    Run c budget s ch entries last ↔ entries.foldl (addPinned c s.turnCount) ch = last := by
  induction entries generalizing ch with
  | nil =>
      constructor
      · rintro ⟨⟩
        rfl
      · rintro rfl
        exact .done
  | cons entry entries ih =>
      have pin := pins entry List.mem_cons_self
      have others := fun e he => pins e (List.mem_cons_of_mem _ he)
      constructor
      · rintro (_ | ⟨first, rest⟩)
        rw [List.foldl_cons, (decides_pinned pin).mp first]
        exact (ih others).mp rest
      · intro h
        exact .step ((decides_pinned pin).mpr rfl) ((ih others).mpr h)

theorem run_others (loose : ∀ entry ∈ entries, entry.1.pinned = false) :
    Run c budget s ch entries last ↔ entries.foldlM (addOther c budget s) ch = .ok last := by
  induction entries generalizing ch with
  | nil =>
      rw [List.foldlM_nil, pure_eq_ok]
      constructor
      · rintro ⟨⟩
        rfl
      · rintro rfl
        exact .done
  | cons entry entries ih =>
      have other := loose entry List.mem_cons_self
      have others := fun e he => loose e (List.mem_cons_of_mem _ he)
      rw [List.foldlM_cons, bind_eq_ok]
      constructor
      · rintro (_ | ⟨first, rest⟩)
        exact ⟨_, (decides_other other).mp first, (ih others).mp rest⟩
      · rintro ⟨next, first, rest⟩
        exact .step ((decides_other other).mpr first) ((ih others).mpr rest)

end Choice

/-- Memories with their places in the order of the decisions: the pinned ones first. -/
def queue (memories : List Memory) : List (Memory × Nat) :=
  (ranked memories).filter (·.1.pinned) ++ (ranked memories).filter (!·.1.pinned)

theorem queue_perm (memories : List Memory) : (queue memories).Perm memories.zipIdx :=
  (List.filter_append_perm _ _).trans (List.mergeSort_perm _ _)

theorem queue_memories (memories : List Memory) :
    ((queue memories).map (·.1)).Perm memories := by
  have places := (queue_perm memories).map Prod.fst
  rwa [List.zipIdx_map_fst] at places

theorem pinned_of_mem_filter (entries : List (Memory × Nat)) :
    ∀ entry ∈ entries.filter (·.1.pinned), entry.1.pinned = true := by
  intro entry member
  exact (List.mem_filter.mp member).2

theorem loose_of_mem_filter (entries : List (Memory × Nat)) :
    ∀ entry ∈ entries.filter (!·.1.pinned), entry.1.pinned = false := by
  intro entry member
  simpa using (List.mem_filter.mp member).2

/-- A choice is made exactly by a run over the whole queue. -/
theorem partition_eq_ok {c : CleanupConfig} {memories : List Memory} {s : GameState} {ch : Choice} :
    partition c memories s = .ok ch ↔
      ∃ budget, c.memoryTokenBudget = .ok budget ∧
        Choice.Run c budget s {} (queue memories) ch := by
  have pins := pinned_of_mem_filter (ranked memories)
  have loose := loose_of_mem_filter (ranked memories)
  simp only [partition, bind_eq_ok, queue, Choice.run_append, Choice.run_pinned pins,
    Choice.run_others loose, exists_eq_left']

namespace Choice

/-! ### What a run accounts for -/

/-- All memories decided on, as they came out. -/
def accounted (ch : Choice) : List Memory := ch.admitted.map (·.2) ++ ch.archived

variable {c : CleanupConfig} {budget : Double} {s : GameState} {ch next last : Choice}
  {entry : Memory × Nat} {entries : List (Memory × Nat)}

theorem active_perm (ch : Choice) : ch.active.Perm (ch.admitted.map (·.2)) :=
  (List.mergeSort_perm _ _).map _

theorem accounted_perm_active (ch : Choice) : (ch.active ++ ch.archived).Perm ch.accounted :=
  ch.active_perm.append_right _

theorem accounted_keep (ch : Choice) (place : Nat) (m : Memory) :
    (ch.keep place m).accounted.Perm (m :: ch.accounted) := by
  simp only [accounted, keep, List.map_append, List.map_cons, List.map_nil, List.append_assoc,
    List.singleton_append]
  exact List.perm_middle

theorem accounted_refresh (ch : Choice) (place : Nat) (m : Memory) :
    (ch.refresh place m).accounted.Perm (m :: ch.accounted) := accounted_keep ch place m

theorem accounted_archive (ch : Choice) (turn : Nat) (m : Memory) :
    (ch.archive turn m).accounted.Perm (m.archivedIn turn :: ch.accounted) := by
  simp only [accounted, archive, ← List.append_assoc]
  exact List.perm_append_singleton _ _

/-- A decision accounts for its memory and forgets none. -/
theorem Decides.accounts (h : Decides c budget s ch entry next) :
    (next.accounted.map Memory.essence).Perm ((entry.1 :: ch.accounted).map Memory.essence) := by
  cases h with
  | pinned | kept => exact (accounted_keep ch _ _).map _
  | overflow | unimportant | costly => exact (accounted_archive ch _ _).map _
  | refreshed _ _ _ done =>
      rw [List.map_cons, ← Memory.essence_enhanced done]
      exact (accounted_refresh ch _ _).map _

theorem Run.accounts (h : Run c budget s ch entries last) :
    (last.accounted.map Memory.essence).Perm
      ((entries.map (·.1) ++ ch.accounted).map Memory.essence) := by
  induction h with
  | done => exact List.Perm.refl _
  | step first _ ih =>
      rw [List.map_append] at ih ⊢
      exact ih.trans ((first.accounts.append_left _).trans List.perm_middle)

/-- What every decision on a list of memories keeps, the whole run keeps. -/
theorem Run.preserves {P : Choice → Prop} (h : Run c budget s ch entries last)
    (kept : ∀ entry ∈ entries, ∀ ch next, Decides c budget s ch entry next → P ch → P next)
    (start : P ch) : P last := by
  induction h with
  | done => exact start
  | step first _ ih =>
      apply ih
      · intro entry member
        exact kept entry (List.mem_cons_of_mem _ member)
      · exact kept _ List.mem_cons_self _ _ first start

/-! ### The ceiling and the budget -/

theorem hasRoom_iff : ch.hasRoom c = true ↔ ch.admitted.length < c.maxActiveMemories := by
  rw [hasRoom, decide_eq_true_eq]

theorem fits_iff {m : Memory} : ch.fits c budget m = true ↔
    (Number.int (ch.usage + m.tokenCost : Nat)).le (.float budget) = true ∧
      ch.hasRoom c = true := by
  rw [fits, Bool.and_eq_true]

theorem Decides.length_le (h : Decides c budget s ch entry next)
    (room : ch.admitted.length ≤ c.maxActiveMemories) :
    next.admitted.length ≤ c.maxActiveMemories := by
  have grown {place : Nat} {m : Memory} (free : ch.hasRoom c = true) :
      (ch.admitted ++ [(place, m)]).length ≤ c.maxActiveMemories := by
    rw [List.length_append]
    exact hasRoom_iff.mp free
  cases h with
  | pinned _ free => exact grown free
  | overflow | unimportant | costly => exact room
  | kept _ _ _ fitting | refreshed _ _ _ _ fitting => exact grown (fits_iff.mp fitting).2

/-- The usage is what the admitted memories cost. -/
def Counted (ch : Choice) : Prop := ch.usage = totalCost (ch.admitted.map (·.2))

theorem Decides.counted (h : Decides c budget s ch entry next) (counted : ch.Counted) :
    next.Counted := by
  have grown (place : Nat) (m : Memory) :
      ch.usage + m.tokenCost = totalCost ((ch.admitted ++ [(place, m)]).map (·.2)) := by
    rw [List.map_append, totalCost_append, ← counted, List.map_cons, totalCost_cons, List.map_nil,
      totalCost, List.foldr_nil, Nat.add_zero]
  cases h with
  | overflow | unimportant | costly => exact counted
  | pinned | kept | refreshed => exact grown _ _

/-- Only pinned memories have been admitted. -/
def AllPinned (ch : Choice) : Prop := ∀ m ∈ ch.admitted.map (·.2), m.pinned = true

theorem Decides.allPinned (h : Decides c budget s ch entry next) (pin : entry.1.pinned = true)
    (pins : ch.AllPinned) : next.AllPinned := by
  cases h with
  | pinned =>
      intro a member
      simp only [keep, List.map_append, List.mem_append, List.map_cons, List.map_nil,
        List.mem_singleton] at member
      rcases member with member | rfl
      · exact pins a member
      · exact pin
  | overflow => exact pins
  | unimportant loose | kept loose | refreshed loose | costly loose =>
      exact nomatch pin.symm.trans loose

theorem Run.allPinned (h : Run c budget s {} entries last)
    (pins : ∀ entry ∈ entries, entry.1.pinned = true) : last.AllPinned := by
  refine h.preserves (fun entry member _ _ decision start => ?_) ?_
  · exact decision.allPinned (pins entry member) start
  · exact fun m member => absurd member List.not_mem_nil

/-- Only pinned memories take a choice beyond the budget. -/
def WithinBudget (budget : Double) (ch : Choice) : Prop :=
  ch.AllPinned ∨ (Number.int ch.usage).le (.float budget) = true

theorem Decides.withinBudget (h : Decides c budget s ch entry next)
    (loose : entry.1.pinned = false) (within : ch.WithinBudget budget) :
    next.WithinBudget budget := by
  cases h with
  | pinned pin | overflow pin => exact nomatch pin.symm.trans loose
  | unimportant | costly => exact within
  | kept _ _ _ fitting | refreshed _ _ _ _ fitting => exact .inr (fits_iff.mp fitting).1

/-! ### What is admitted -/

/-- How an admitted memory came out of the one decided on. -/
inductive Taken (c : CleanupConfig) (s : GameState) (m : Memory) : Memory → Prop
  | pinned : m.pinned = true → Taken c s m m
  | loose {a : Memory} : m.pinned = false → m.importanceBelow c.lowImportance = false →
      m.Offered s a → Taken c s m a

theorem Decides.taken (h : Decides c budget s ch entry next) :
    ∀ a ∈ next.admitted.map (·.2), a ∈ ch.admitted.map (·.2) ∨ Taken c s entry.1 a := by
  have grown {place : Nat} {b : Memory} (taken : Taken c s entry.1 b) :
      ∀ a ∈ (ch.admitted ++ [(place, b)]).map (·.2),
        a ∈ ch.admitted.map (·.2) ∨ Taken c s entry.1 a := by
    intro a member
    simp only [List.map_append, List.mem_append, List.map_cons, List.map_nil,
      List.mem_singleton] at member
    rcases member with member | rfl
    · exact .inl member
    · exact .inr taken
  cases h with
  | pinned pin => exact grown (.pinned pin)
  | overflow | unimportant | costly => exact fun a member => .inl member
  | kept loose high complete => exact grown (.loose loose high (.asIs complete))
  | refreshed loose high stale done => exact grown (.loose loose high (.refreshed stale done))

theorem Decides.grows (h : Decides c budget s ch entry next) :
    ch.enhanced <+: next.enhanced ∧ ch.archived <+: next.archived := by
  cases h with
  | pinned | kept => exact ⟨List.prefix_refl _, List.prefix_refl _⟩
  | overflow | unimportant | costly => exact ⟨List.prefix_refl _, List.prefix_append _ _⟩
  | refreshed => exact ⟨List.prefix_append _ _, List.prefix_refl _⟩

theorem Run.grows (h : Run c budget s ch entries last) :
    ch.enhanced <+: last.enhanced ∧ ch.archived <+: last.archived := by
  induction h with
  | done => exact ⟨List.prefix_refl _, List.prefix_refl _⟩
  | step first _ ih => exact ⟨first.grows.1.trans ih.1, first.grows.2.trans ih.2⟩

theorem Decides.untouched (h : Decides c budget s ch entry next) (enhanced : next.enhanced = [])
    (archived : next.archived = []) : next.admitted = ch.admitted ++ [entry.swap] := by
  cases h with
  | pinned | kept => rfl
  | overflow | unimportant | costly => exact absurd archived (List.concat_ne_nil _ _)
  | refreshed => exact absurd enhanced (List.concat_ne_nil _ _)

/-- If nothing was enhanced or put away, every memory was admitted as it was. -/
theorem Run.untouched (h : Run c budget s ch entries last) (enhanced : last.enhanced = [])
    (archived : last.archived = []) : last.admitted = ch.admitted ++ entries.map Prod.swap := by
  induction h with
  | done => exact (List.append_nil _).symm
  | step first rest ih =>
      -- the two lists only grow, so they were empty after the first decision as well
      have earlier := rest.grows
      rw [enhanced, archived, List.prefix_nil, List.prefix_nil] at earlier
      rw [ih enhanced archived, first.untouched earlier.1 earlier.2, List.append_assoc]
      rfl

/-! ### Memories that stay as they are -/

/-- A memory that is taken as it is, given room and budget. -/
def Settled (c : CleanupConfig) (s : GameState) (m : Memory) : Prop := Taken c s m m

theorem decides_settled (room : ch.hasRoom c = true) (settled : Settled c s entry.1)
    (within : entry.1.pinned = true ∨
      (Number.int (ch.usage + entry.1.tokenCost : Nat)).le (.float budget) = true) :
    ∃ next, Decides c budget s ch entry next ∧
      next.admitted = ch.admitted ++ [(entry.2, entry.1)] ∧ next.archived = ch.archived ∧
      next.usage = ch.usage + entry.1.tokenCost := by
  obtain ⟨m, place⟩ := entry
  cases settled with
  | pinned pin => exact ⟨_, .pinned pin room, rfl, rfl, rfl⟩
  | loose loose high offer =>
      have cheap := within.resolve_left fun pin => nomatch pin.symm.trans loose
      have fitting := fits_iff.mpr ⟨cheap, room⟩
      cases offer with
      | asIs complete => exact ⟨_, .kept loose high complete fitting, rfl, rfl, rfl⟩
      | refreshed stale done => exact ⟨_, .refreshed loose high stale done fitting, rfl, rfl, rfl⟩

/-- With room for all and a budget for whatever is not pinned, settled memories are all admitted,
in any order. -/
theorem run_settled (room : ch.admitted.length + entries.length ≤ c.maxActiveMemories)
    (settled : ∀ entry ∈ entries, Settled c s entry.1)
    (within : (∀ entry ∈ entries, entry.1.pinned = true) ∨
      (Number.int (ch.usage + totalCost (entries.map (·.1)) : Nat)).le (.float budget) = true) :
    ∃ last, Run c budget s ch entries last ∧
      last.admitted = ch.admitted ++ entries.map Prod.swap ∧ last.archived = ch.archived := by
  induction entries generalizing ch with
  | nil => exact ⟨ch, .done, (List.append_nil _).symm, rfl⟩
  | cons entry entries ih =>
      rw [List.length_cons] at room
      have free : ch.hasRoom c = true := hasRoom_iff.mpr (by omega)
      have cost : ch.usage + totalCost ((entry :: entries).map (·.1)) =
          ch.usage + entry.1.tokenCost + totalCost (entries.map (·.1)) := by
        rw [List.map_cons, totalCost_cons, Nat.add_assoc]
      rw [cost] at within
      have affordable : entry.1.pinned = true ∨
          (Number.int (ch.usage + entry.1.tokenCost : Nat)).le (.float budget) = true := by
        apply within.imp
        · intro pins
          exact pins entry List.mem_cons_self
        · exact Number.int_le_antitone (Int.ofNat_le.mpr (Nat.le_add_right _ _))
      obtain ⟨next, first, admitted, archived, usage⟩ :=
        decides_settled free (settled entry List.mem_cons_self) affordable
      have left : next.admitted.length + entries.length ≤ c.maxActiveMemories := by
        rw [admitted, List.length_append, List.length_singleton]
        omega
      obtain ⟨last, rest, all, none⟩ := ih left
        (fun entry member => settled entry (List.mem_cons_of_mem _ member)) (by
          rw [usage]
          exact within.imp_left fun pins entry member =>
            pins entry (List.mem_cons_of_mem _ member))
      refine ⟨last, .step first rest, ?_, none.trans archived⟩
      rw [all, admitted, List.append_assoc]
      rfl

/-- Memories that are admitted with their places come out in their old order. -/
theorem active_eq {memories : List Memory}
    (h : ch.admitted.Perm (memories.zipIdx.map Prod.swap)) : ch.active = memories := by
  have places : (memories.zipIdx.map Prod.snd).Pairwise (· < ·) := by
    rw [List.zipIdx_map_snd]
    exact List.pairwise_lt_range'
  have ascending : (memories.zipIdx.map Prod.swap).Pairwise
      fun a b => decide (a.1 ≤ b.1) = true := by
    apply List.pairwise_map.mpr
    apply (List.pairwise_map.mp places).imp
    intro a b before
    exact decide_eq_true before.le
  have sorted : (ch.admitted.mergeSort fun a b => decide (a.1 ≤ b.1)).Pairwise
      fun a b => decide (a.1 ≤ b.1) = true := by
    apply List.pairwise_mergeSort
    · intro a b d
      simpa using Nat.le_trans
    · intro a b
      simpa using Nat.le_total a.1 b.1
  have same := (List.mergeSort_perm ch.admitted fun a b => decide (a.1 ≤ b.1)).trans h
  have order := same.eq_of_pairwise (fun a b ha hb le ge => ?_) sorted ascending
  · rw [active, order, List.map_map]
    exact List.zipIdx_map_fst 0 memories
  · have stored {p : Nat × Memory} (member : p ∈ memories.zipIdx.map Prod.swap) :
        memories[p.1]? = some p.2 := by
      obtain ⟨q, found, rfl⟩ := List.mem_map.mp member
      exact List.mem_zipIdx_iff_getElem?.mp found
    have place : a.1 = b.1 := Nat.le_antisymm (of_decide_eq_true le) (of_decide_eq_true ge)
    have memory := (stored (same.mem_iff.mp ha)).symm.trans (place ▸ stored hb)
    exact Prod.ext place (Option.some.inj memory)

end Choice

section Partition

variable {c : CleanupConfig} {memories : List Memory} {s : GameState} {ch : Choice}

theorem partition_accounts (h : partition c memories s = .ok ch) :
    ((ch.active ++ ch.archived).map Memory.essence).Perm (memories.map Memory.essence) := by
  obtain ⟨budget, -, run⟩ := partition_eq_ok.mp h
  refine (ch.accounted_perm_active.map _).trans (run.accounts.trans (List.Perm.map _ ?_))
  exact (List.append_nil _).symm ▸ queue_memories memories

theorem partition_length_le (h : partition c memories s = .ok ch) :
    ch.active.length ≤ c.maxActiveMemories := by
  obtain ⟨budget, -, run⟩ := partition_eq_ok.mp h
  have room : ch.admitted.length ≤ c.maxActiveMemories :=
    run.preserves (P := fun ch => ch.admitted.length ≤ c.maxActiveMemories)
      (fun _ _ _ _ decision room => decision.length_le room) (Nat.zero_le _)
  rwa [ch.active_perm.length_eq, List.length_map]

/-- The pinned memories come first, so what is admitted after them keeps to the budget. -/
theorem partition_withinBudget (h : partition c memories s = .ok ch) :
    ∃ budget, c.memoryTokenBudget = .ok budget ∧
      ((∀ m ∈ ch.active, m.pinned = true) ∨
        (Number.int (totalCost ch.active)).le (.float budget) = true) := by
  obtain ⟨budget, known, run⟩ := partition_eq_ok.mp h
  refine ⟨budget, known, ?_⟩
  have counted : ch.Counted :=
    run.preserves (fun _ _ _ _ decision counted => decision.counted counted) rfl
  -- the run is cut where the pinned memories end: the bound begins to hold there
  obtain ⟨mid, pins, others⟩ := Choice.run_append.mp run
  have allPinned : mid.AllPinned := pins.allPinned (pinned_of_mem_filter _)
  have within : ch.WithinBudget budget := by
    refine others.preserves (fun entry member _ _ decision start => ?_) (.inl allPinned)
    exact decision.withinBudget (loose_of_mem_filter _ entry member) start
  rcases within with pinned | cheap
  · exact .inl fun m member => pinned m (ch.active_perm.mem_iff.mp member)
  · rw [counted, ← totalCost_perm ch.active_perm] at cheap
    exact .inr cheap

theorem partition_taken (h : partition c memories s = .ok ch) :
    ∀ a ∈ ch.active, ∃ m ∈ memories, Choice.Taken c s m a := by
  obtain ⟨budget, -, run⟩ := partition_eq_ok.mp h
  have taken : ∀ a ∈ ch.admitted.map (·.2), ∃ m ∈ memories, Choice.Taken c s m a := by
    refine run.preserves (P := fun ch => ∀ a ∈ ch.admitted.map (·.2), ∃ m ∈ memories,
      Choice.Taken c s m a) (fun entry member _ _ decision start a admitted => ?_) ?_
    · rcases decision.taken a admitted with earlier | now
      · exact start a earlier
      · have place := (queue_perm memories).mem_iff.mp member
        exact ⟨entry.1, List.fst_mem_of_mem_zipIdx place, now⟩
    · exact fun a member => absurd member List.not_mem_nil
  intro a member
  exact taken a (ch.active_perm.mem_iff.mp member)

theorem partition_untouched (h : partition c memories s = .ok ch) (enhanced : ch.enhanced = [])
    (archived : ch.archived = []) : ch.active = memories := by
  obtain ⟨budget, -, run⟩ := partition_eq_ok.mp h
  apply Choice.active_eq
  rw [run.untouched enhanced archived]
  exact (queue_perm memories).map _

/-- Settled memories within the ceiling and the budget are chosen all, in their old order. -/
theorem partition_settled {budget : Double} (known : c.memoryTokenBudget = .ok budget)
    (room : memories.length ≤ c.maxActiveMemories)
    (settled : ∀ m ∈ memories, Choice.Settled c s m)
    (within : (∀ m ∈ memories, m.pinned = true) ∨
      (Number.int (totalCost memories)).le (.float budget) = true) :
    ∃ ch, partition c memories s = .ok ch ∧ ch.active = memories ∧ ch.archived = [] := by
  have stored {entry : Memory × Nat} (member : entry ∈ queue memories) : entry.1 ∈ memories :=
    (queue_memories memories).mem_iff.mp (List.mem_map_of_mem member)
  have length : (queue memories).length = memories.length := by
    rw [(queue_perm memories).length_eq, List.length_zipIdx]
  have all : ∃ last, Choice.Run c budget s {} (queue memories) last ∧
      last.admitted = [] ++ (queue memories).map Prod.swap ∧ last.archived = [] := by
    apply Choice.run_settled
    · exact (Nat.zero_add _).trans_le (length.trans_le room)
    · intro entry member
      exact settled entry.1 (stored member)
    · apply within.imp
      · intro pins entry member
        exact pins entry.1 (stored member)
      · intro cheap
        rwa [totalCost_perm (queue_memories memories), Nat.zero_add]
  obtain ⟨ch, run, admitted, archived⟩ := all
  refine ⟨ch, partition_eq_ok.mpr ⟨budget, known, run⟩, Choice.active_eq ?_, archived⟩
  rw [admitted]
  exact (queue_perm memories).map _

end Partition

end Gamebook
