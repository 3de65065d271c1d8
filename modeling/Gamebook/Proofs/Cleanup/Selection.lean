import Mathlib
import Gamebook.Proofs.Cleanup.Failure

/-!
The choice of active memories as a selection from the list that was given. Each memory is taken or
put away at its place. Nothing that was put away could still be taken in the end: room and budget
only shrink while memories are decided on, so what did not fit then does not fit now.
-/

namespace Gamebook

open Outcome

namespace Choice

variable {c : CleanupConfig} {budget : Double} {s : GameState} {ch next last : Choice}
  {entry : Memory × Nat} {entries : List (Memory × Nat)}

/-! ### What is refused -/

/-- Whether there is neither room nor budget for a memory in the form in which it is weighed. Pinned
ones need room only, and unimportant ones are refused in any case. -/
structure Refuses (c : CleanupConfig) (budget : Double) (s : GameState) (ch : Choice) (m : Memory) :
    Prop where
  pinned : m.pinned = true → ch.hasRoom c = false
  loose : m.pinned = false → m.importanceBelow c.lowImportance = false →
    ∃ a, m.Offered s a ∧ ch.fits c budget a = false

/-- A decision takes its memory or puts it away. -/
theorem Decides.taken_or_refused (h : Decides c budget s ch entry next) :
    (∃ a, Taken c s entry.1 a ∧ next.admitted = ch.admitted ++ [(entry.2, a)] ∧
        next.archived = ch.archived) ∨
      next.admitted = ch.admitted ∧
        next.archived = ch.archived ++ [entry.1.archivedIn s.turnCount] ∧
        Refuses c budget s ch entry.1 := by
  cases h with
  | pinned pin => exact .inl ⟨_, .pinned pin, rfl, rfl⟩
  | kept loose high complete => exact .inl ⟨_, .loose loose high (.asIs complete), rfl, rfl⟩
  | refreshed loose high stale done =>
    exact .inl ⟨_, .loose loose high (.refreshed stale done), rfl, rfl⟩
  | overflow pin full =>
    refine .inr ⟨rfl, rfl, fun _ => full, fun loose => ?_⟩
    exact nomatch pin.symm.trans loose
  | unimportant loose low =>
    refine .inr ⟨rfl, rfl, fun pin => ?_, fun _ high => ?_⟩
    · exact nomatch pin.symm.trans loose
    · exact nomatch low.symm.trans high
  | costly loose high offer unfit =>
    refine .inr ⟨rfl, rfl, fun pin => ?_, fun _ _ => ⟨_, offer, unfit⟩⟩
    exact nomatch pin.symm.trans loose

/-- Whether a choice has gone on: more is admitted, and its cost counted. -/
structure GoesOn (ch last : Choice) : Prop where
  admitted : ch.admitted <+: last.admitted
  usage : ch.usage ≤ last.usage

theorem GoesOn.trans (h : GoesOn ch next) (later : GoesOn next last) : GoesOn ch last :=
  ⟨h.admitted.trans later.admitted, h.usage.trans later.usage⟩

theorem Decides.goesOn (h : Decides c budget s ch entry next) : GoesOn ch next := by
  cases h with
  | pinned | kept | refreshed => exact ⟨List.prefix_append _ _, Nat.le_add_right _ _⟩
  | overflow | unimportant | costly => exact ⟨List.prefix_rfl, le_rfl⟩

theorem Run.goesOn (h : Run c budget s ch entries last) : GoesOn ch last := by
  induction h with
  | done => exact ⟨List.prefix_rfl, le_rfl⟩
  | step first _ ih => exact first.goesOn.trans ih

theorem GoesOn.full (h : GoesOn ch last) (full : ch.hasRoom c = false) : last.hasRoom c = false := by
  rw [hasRoom, decide_eq_false_iff_not, not_lt] at full ⊢
  exact full.trans h.admitted.length_le

/-- What did not fit does not fit later. -/
theorem GoesOn.unfit {m : Memory} (h : GoesOn ch last) (unfit : ch.fits c budget m = false) :
    last.fits c budget m = false := by
  rw [← Bool.not_eq_true, fits_iff] at unfit ⊢
  rintro ⟨cheap, room⟩
  refine unfit ⟨Number.int_le_antitone ?_ cheap, ?_⟩
  · exact Int.ofNat_le.mpr (Nat.add_le_add_right h.usage _)
  · by_contra none
    exact nomatch room.symm.trans (h.full (Bool.eq_false_of_not_eq_true none))

theorem Refuses.later {m : Memory} (h : Refuses c budget s ch m) (on : GoesOn ch last) :
    Refuses c budget s last m where
  pinned pin := on.full (h.pinned pin)
  loose loose high := by
    obtain ⟨a, offer, unfit⟩ := h.loose loose high
    exact ⟨a, offer, on.unfit unfit⟩

/-! ### A run as a selection -/

/-- Memories with their places, as they were decided on: those that were taken, with what they were
taken as, and those that were put away. -/
structure Selects (c : CleanupConfig) (budget : Double) (s : GameState) (ch : Choice)
    (entries : List (Memory × Nat)) (last : Choice) (took : List ((Memory × Nat) × Memory))
    (away : List (Memory × Nat)) : Prop where
  all : (took.map (·.1) ++ away).Perm entries
  admitted : last.admitted = ch.admitted ++ took.map fun t => (t.1.2, t.2)
  taken : ∀ t ∈ took, Taken c s t.1.1 t.2
  archived : last.archived = ch.archived ++ away.map fun entry => entry.1.archivedIn s.turnCount
  refused : ∀ entry ∈ away, Refuses c budget s last entry.1

theorem Run.selects (h : Run c budget s ch entries last) :
    ∃ took away, Selects c budget s ch entries last took away := by
  induction h with
  | done =>
    exact ⟨[], [], {
      all := .refl _
      admitted := (List.append_nil _).symm
      taken := fun _ member => absurd member List.not_mem_nil
      archived := (List.append_nil _).symm
      refused := fun _ member => absurd member List.not_mem_nil }⟩
  | @step ch next last entry rest first later ih =>
    obtain ⟨took, away, sel⟩ := ih
    rcases first.taken_or_refused with ⟨a, taken, admitted, archived⟩ | ⟨admitted, archived, refused⟩
    · refine ⟨(entry, a) :: took, away, sel.all.cons entry, ?_, ?_, ?_, sel.refused⟩
      · rw [sel.admitted, admitted, List.append_assoc]
        rfl
      · exact List.forall_mem_cons.mpr ⟨taken, sel.taken⟩
      · rw [sel.archived, archived]
    · refine ⟨took, entry :: away, List.perm_middle.trans (sel.all.cons entry), ?_, sel.taken, ?_, ?_⟩
      · rw [sel.admitted, admitted]
      · rw [sel.archived, archived, List.append_assoc]
        rfl
      · have now := refused.later (first.goesOn.trans later.goesOn)
        exact List.forall_mem_cons.mpr ⟨now, sel.refused⟩

theorem Selects.append {mid : Choice} {others : List (Memory × Nat)}
    {took took' : List ((Memory × Nat) × Memory)} {away away' : List (Memory × Nat)}
    (first : Selects c budget s ch entries mid took away)
    (later : Selects c budget s mid others last took' away') (on : GoesOn mid last) :
    Selects c budget s ch (entries ++ others) last (took ++ took') (away ++ away') where
  all := by
    rw [List.map_append, List.append_assoc]
    calc List.Perm _ (took.map (·.1) ++ (away ++ (took'.map (·.1) ++ away'))) :=
          (List.perm_append_comm_assoc _ _ _).append_left _
      List.Perm _ (entries ++ others) := by
          rw [← List.append_assoc]
          exact first.all.append later.all
  admitted := by rw [later.admitted, first.admitted, List.append_assoc, ← List.map_append]
  taken := List.forall_mem_append.mpr ⟨first.taken, later.taken⟩
  archived := by rw [later.archived, first.archived, List.append_assoc, ← List.map_append]
  refused := List.forall_mem_append.mpr
    ⟨fun entry member => (first.refused entry member).later on, later.refused⟩

theorem Run.length_le (h : Run c budget s ch entries last)
    (room : ch.admitted.length ≤ c.maxActiveMemories) :
    last.admitted.length ≤ c.maxActiveMemories :=
  h.preserves (P := fun ch => ch.admitted.length ≤ c.maxActiveMemories)
    (fun _ _ _ _ decision room => decision.length_le room) room

theorem length_eq_of_full (room : ch.admitted.length ≤ c.maxActiveMemories)
    (full : ch.hasRoom c = false) : ch.admitted.length = c.maxActiveMemories := by
  rw [hasRoom, decide_eq_false_iff_not, not_lt] at full
  exact room.antisymm full

/-- A choice that has no room left admits nothing. -/
theorem Run.admitted_of_full (h : Run c budget s ch entries last)
    (room : ch.admitted.length ≤ c.maxActiveMemories) (full : ch.hasRoom c = false) :
    ch.admitted = last.admitted := by
  refine h.goesOn.admitted.eq_of_length_le ?_
  rw [length_eq_of_full room full]
  exact h.length_le room

/-! ### Places -/

/-- What was taken, in the order of the places. -/
def inOrder (took : List ((Memory × Nat) × Memory)) : List ((Memory × Nat) × Memory) :=
  took.mergeSort fun a b => a.1.2 ≤ b.1.2

theorem active_eq_inOrder {took : List ((Memory × Nat) × Memory)}
    (admitted : ch.admitted = took.map fun t => (t.1.2, t.2)) :
    ch.active = (inOrder took).map (·.2) := by
  have sorted : (inOrder took).map (fun t => (t.1.2, t.2)) =
      (took.map fun t => (t.1.2, t.2)).mergeSort fun a b => a.1 ≤ b.1 :=
    List.map_mergeSort fun _ _ _ _ => rfl
  rw [active, admitted, ← sorted, List.map_map]
  rfl

theorem inOrder_pairwise {took : List ((Memory × Nat) × Memory)}
    (distinct : (took.map (·.1.2)).Nodup) : ((inOrder took).map (·.1)).Pairwise (·.2 < ·.2) := by
  have ascending : (inOrder took).Pairwise fun a b => decide (a.1.2 ≤ b.1.2) = true := by
    apply List.pairwise_mergeSort
    · intro a b d
      simpa using Nat.le_trans
    · intro a b
      simpa using Nat.le_total a.1.2 b.1.2
  have apart : (inOrder took).Pairwise fun a b => a.1.2 ≠ b.1.2 := by
    have same : ((inOrder took).map (·.1.2)).Perm (took.map (·.1.2)) :=
      (List.mergeSort_perm took _).map _
    exact List.pairwise_map.mp (same.nodup_iff.mpr distinct)
  rw [List.pairwise_map]
  refine (ascending.and apart).imp fun both => ?_
  exact lt_of_le_of_ne (of_decide_eq_true both.1) both.2

/-- What stays as it is and what is enhanced make up what is admitted. -/
def Divided (ch : Choice) : Prop := (ch.kept ++ ch.enhanced).Perm (ch.admitted.map (·.2))

theorem Decides.divided (h : Decides c budget s ch entry next) (divided : ch.Divided) :
    next.Divided := by
  have grown (place : Nat) (m : Memory) :
      (m :: (ch.kept ++ ch.enhanced)).Perm ((ch.admitted ++ [(place, m)]).map (·.2)) := by
    rw [List.map_append]
    exact (divided.cons m).trans (List.perm_append_singleton _ _).symm
  cases h with
  | overflow | unimportant | costly => exact divided
  | pinned | kept =>
    refine List.Perm.trans ?_ (grown _ _)
    exact (List.append_assoc _ _ _).symm ▸ List.perm_middle
  | refreshed =>
    refine List.Perm.trans ?_ (grown _ _)
    exact (List.append_assoc _ _ _) ▸ List.perm_append_singleton _ _

end Choice

/-- How the active memories have been chosen from a list. With their places, the memories are told
apart into those that are taken, in their old order, and those that are put away. Pinned ones are put
away only where there is room for none but pinned ones, and what costs more than the budget is pinned;
an important one that is put away would not fit even now. -/
structure Selected (c : CleanupConfig) (budget : Double) (memories : List Memory) (s : GameState)
    (ch : Choice) (taken away : List (Memory × Nat)) : Prop where
  all : (taken ++ away).Perm memories.zipIdx
  ordered : taken.Pairwise (·.2 < ·.2)
  active : List.Forall₂ (fun entry a => Choice.Taken c s entry.1 a) taken ch.active
  divided : (ch.kept ++ ch.enhanced).Perm ch.active
  archived : ch.archived = away.map fun entry => entry.1.archivedIn s.turnCount
  length_le : ch.active.length ≤ c.maxActiveMemories
  overflow : ∀ entry ∈ away, entry.1.pinned = true →
    ch.active.length = c.maxActiveMemories ∧ ∀ a ∈ ch.active, a.pinned = true
  affords : if (Number.int (totalCost (ch.active.filter (·.pinned)))).le (.float budget) then
      (Number.int (totalCost ch.active)).le (.float budget) = true
    else ∀ a ∈ ch.active, a.pinned = true
  maximal : ∀ entry ∈ away, entry.1.pinned = false →
    entry.1.importanceBelow c.lowImportance = false → ∃ a, entry.1.Offered s a ∧
      (ch.active.length = c.maxActiveMemories ∨
        (Number.int (totalCost ch.active + a.tokenCost : Nat)).le (.float budget) = false)

section Selected

variable {c : CleanupConfig} {memories : List Memory} {s : GameState} {ch : Choice}

/-- If the pinned memories keep to the budget, so do all; otherwise all are pinned. -/
theorem affords_of_withinBudget {budget : Double} {active : List Memory}
    (within : (∀ m ∈ active, m.pinned = true) ∨
      (Number.int (totalCost active)).le (.float budget) = true) :
    if (Number.int (totalCost (active.filter (·.pinned)))).le (.float budget) then
      (Number.int (totalCost active)).le (.float budget) = true
    else ∀ a ∈ active, a.pinned = true := by
  split_ifs with cheap
  · rcases within with pins | all
    · rwa [List.filter_eq_self.mpr pins] at cheap
    · exact all
  · refine within.resolve_right fun all => cheap (Number.int_le_antitone ?_ all)
    have split := totalCost_perm (List.filter_append_perm (·.pinned) active)
    rw [totalCost_append] at split
    omega

/-- A choice is a run over the whole queue, as a selection from it. Pinned memories come first: if one
is refused, there is no room for others, and all that are admitted are pinned. -/
theorem exists_selects (h : partition c memories s = .ok ch) :
    ∃ budget, c.memoryTokenBudget = .ok budget ∧ Choice.Run c budget s {} (queue memories) ch ∧
      ∃ took away, Choice.Selects c budget s {} (queue memories) ch took away ∧
        ∀ entry ∈ away, entry.1.pinned = true → ch.AllPinned := by
  obtain ⟨budget, known, run⟩ := partition_eq_ok.mp h
  obtain ⟨mid, pins, others⟩ := Choice.run_append.mp run
  obtain ⟨took, away, first⟩ := pins.selects
  obtain ⟨took', away', later⟩ := others.selects
  refine ⟨budget, known, run, _, _, first.append later others.goesOn, fun entry member pin => ?_⟩
  rcases List.mem_append.mp member with early | late
  · have room : mid.admitted.length ≤ c.maxActiveMemories := pins.length_le (Nat.zero_le _)
    have full : mid.hasRoom c = false := (first.refused entry early).pinned pin
    have same : mid.admitted = ch.admitted := others.admitted_of_full room full
    rw [Choice.AllPinned, ← same]
    exact pins.allPinned (pinned_of_mem_filter _)
  · have listed := later.all.mem_iff.mp (List.mem_append_right _ late)
    exact nomatch pin.symm.trans (loose_of_mem_filter _ entry listed)

/-- A choice is a selection from the memories. It is made unless numbers are out of reach. -/
theorem partition_selects (c : CleanupConfig) (memories : List Memory) (s : GameState) :
    (c.maxTokenBudget ≤ farthest → s.knownEntities.length ≤ crowd →
      (∀ m ∈ memories, m.InReach s) → ∃ ch, partition c memories s = .ok ch) ∧
    ∀ ch, partition c memories s = .ok ch → ∃ budget, c.memoryTokenBudget = .ok budget ∧
      ∃ taken away, Selected c budget memories s ch taken away := by
  refine ⟨CleanupConfig.exists_partition, fun ch h => ?_⟩
  obtain ⟨budget, known, run, took, away, sel, pinnedOnly⟩ := exists_selects h
  have room : ch.active.length ≤ c.maxActiveMemories := partition_length_le h
  have size : ch.admitted.length = ch.active.length := by
    rw [ch.active_perm.length_eq, List.length_map]
  have counted : ch.usage = totalCost ch.active := by
    have counted : ch.Counted :=
      run.preserves (fun _ _ _ _ decision counted => decision.counted counted) rfl
    rw [counted, totalCost_perm ch.active_perm]
  have divided : ch.Divided :=
    run.preserves (fun _ _ _ _ decision divided => decision.divided divided) (.refl _)
  have shown : ch.active = (Choice.inOrder took).map (·.2) := Choice.active_eq_inOrder sel.admitted
  have all : (took.map (·.1) ++ away).Perm memories.zipIdx := sel.all.trans (queue_perm memories)
  have distinct : (took.map (·.1.2)).Nodup := by
    have places := (all.map Prod.snd).nodup_iff.mpr (List.zipIdx_map_snd 0 _ ▸ List.nodup_range')
    rw [List.map_append, List.map_map] at places
    exact (List.nodup_append.mp places).1
  refine ⟨budget, known, (Choice.inOrder took).map (·.1), away, ?_⟩
  constructor
  · exact (((List.mergeSort_perm took _).map _).append_right away).trans all
  · exact Choice.inOrder_pairwise distinct
  · rw [shown, List.forall₂_map_left_iff, List.forall₂_map_right_iff, List.forall₂_same]
    exact fun t member => sel.taken t (List.mem_mergeSort.mp member)
  · exact divided.trans ch.active_perm.symm
  · exact sel.archived
  · exact room
  · intro entry member pin
    have full := (sel.refused entry member).pinned pin
    rw [← size] at room ⊢
    refine ⟨Choice.length_eq_of_full room full, fun a active => ?_⟩
    exact pinnedOnly entry member pin a (ch.active_perm.mem_iff.mp active)
  · obtain ⟨same, known', within⟩ := partition_withinBudget h
    obtain rfl := Except.ok.inj (known.symm.trans known')
    exact affords_of_withinBudget within
  · intro entry member loose high
    obtain ⟨a, offer, unfit⟩ := (sel.refused entry member).loose loose high
    refine ⟨a, offer, ?_⟩
    cases free : ch.hasRoom c with
    | false =>
      rw [← size] at room ⊢
      exact .inl (Choice.length_eq_of_full room free)
    | true =>
      refine .inr (Bool.eq_false_of_not_eq_true fun cheap => ?_)
      rw [← counted] at cheap
      exact nomatch unfit.symm.trans (Choice.fits_iff.mpr ⟨cheap, free⟩)

/-- Room for forty memories and a budget of 30 tokens for them. -/
def modest : CleanupConfig where
  maxActiveMemories := 40
  maxTokenBudget := 100

/-- A pinned memory. -/
def oath : Memory := { text := "The oath", pinned := true }

/-- An important memory of two hundred characters. -/
def saga : Memory where
  text := String.ofList (List.replicate 200 'x')
  importance := some (.ofInt 90)
  category := some .general
  relatedEntities := some []
  tags := some []

/-- A short memory that matters less. -/
def errand : Memory := { saga with text := "An errand", importance := some (.ofInt 50) }

theorem ranked_oath_saga_errand :
    ranked [oath, saga, errand] = [(saga, 1), (errand, 2), (oath, 0)] := by
  have first : saga.precedes errand = true := by decide +kernel
  have second : oath.precedes saga = false := by decide +kernel
  have third : oath.precedes errand = false := by decide +kernel
  simp [ranked, List.mergeSort, first, second, third]

theorem oath_saga_errand_inReach : ∀ m ∈ [oath, saga, errand], m.InReach {} := by
  intro m member
  simp only [List.mem_cons, List.not_mem_nil, or_false] at member
  rcases member with rfl | rfl | rfl <;> exact ⟨nofun, nofun, Nat.zero_le _⟩

/-- The long memory does not fit the budget; the short one behind it does. -/
theorem modest_selects : modest.maxTokenBudget ≤ farthest ∧
    (∀ m ∈ [oath, saga, errand], m.InReach {}) ∧
    ∃ ch, partition modest [oath, saga, errand] {} = .ok ch ∧
      ch.archived.map (·.text) = [saga.text] ∧
      ∃ budget, modest.memoryTokenBudget = .ok budget ∧
        ∃ taken away, Selected modest budget [oath, saga, errand] {} ch taken away := by
  have affordable : modest.maxTokenBudget ≤ farthest := by decide +kernel
  obtain ⟨ch, ok⟩ := (partition_selects modest [oath, saga, errand] {}).1 affordable (Nat.zero_le _)
    oath_saga_errand_inReach
  have archived : ((partition modest [oath, saga, errand] {}).toOption.any fun ch =>
      decide (ch.archived.map (·.text) = [saga.text])) = true := by
    simp only [partition, ranked_oath_saga_errand]
    decide +kernel
  rw [ok] at archived
  exact ⟨affordable, oath_saga_errand_inReach, ch, ok, of_decide_eq_true archived,
    (partition_selects _ _ _).2 ch ok⟩

end Selected

end Gamebook
