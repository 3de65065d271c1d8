import Mathlib
import Gamebook.Memory.Similarity
import Gamebook.Proofs.Distinct

/-!
Repetition does not depend on the order. Both measures count what two lists share, so a memory repeats
another exactly if that one repeats it. What is left without repetitions is therefore without them in
any order, and whatever was left out repeats something that was kept.
-/

namespace Gamebook

/-! ### Measures -/

section Measures

variable {xs ys : List String}

theorem length_shared_comm (hx : xs.Nodup) (hy : ys.Nodup) :
    (xs.filter (· ∈ ys)).length = (ys.filter (· ∈ xs)).length := by
  refine List.Perm.length_eq ((List.perm_ext_iff_of_nodup (hx.filter _) (hy.filter _)).mpr fun x => ?_)
  simp only [List.mem_filter, decide_eq_true_eq]
  exact and_comm

theorem length_distinct_append_comm (xs ys : List String) :
    (Text.distinct (xs ++ ys)).length = (Text.distinct (ys ++ xs)).length := by
  refine List.Perm.length_eq ((List.perm_ext_iff_of_nodup (Text.nodup_distinct _)
    (Text.nodup_distinct _)).mpr fun x => ?_)
  simp only [Text.mem_distinct_iff, List.mem_append]
  exact or_comm

theorem similarity_comm (xs ys : List String) : similarity xs ys = similarity ys xs := by
  have shared : ((Text.distinct xs).filter (· ∈ ys)).length =
      ((Text.distinct ys).filter (· ∈ xs)).length := by
    have common := length_shared_comm (Text.nodup_distinct xs) (Text.nodup_distinct ys)
    simpa only [Text.mem_distinct_iff] using common
  simp only [similarity, Bool.and_comm xs.isEmpty, Bool.or_comm xs.isEmpty, shared,
    length_distinct_append_comm xs ys]

theorem overlaps_comm (xs ys : List String) : overlaps xs ys = overlaps ys xs := by
  have shared := length_shared_comm (Text.nodup_distinct (xs.map Text.lower))
    (Text.nodup_distinct (ys.map Text.lower))
  simp only [overlaps, Bool.and_comm xs.isEmpty, Bool.or_comm xs.isEmpty, shared, Nat.min_comm
    (Text.distinct (xs.map Text.lower)).length]

end Measures

/-! ### Repetition -/

namespace Memory

variable {m other : Memory} {memories others : List Memory}

theorem repeats_comm (m other : Memory) : m.repeats other = other.repeats m := by
  simp only [repeats, similarity_comm (keywords (normalizeText m.text)),
    overlaps_comm m.related, overlaps_comm m.tagList,
    BEq.comm (a := normalizeText m.text), BEq.comm (a := m.category)]

/-- Neither of two memories repeats the other. -/
def Apart (m other : Memory) : Prop := m.repeats other = false

theorem Apart.symm (h : m.Apart other) : other.Apart m := (repeats_comm other m).trans h

theorem isDuplicate_eq_false : m.isDuplicate memories = false ↔ ∀ other ∈ memories, m.Apart other := by
  simp only [isDuplicate, List.any_eq_false, Bool.not_eq_true, Apart]

theorem isDuplicate_mono (more : memories ⊆ others) (h : m.isDuplicate memories = true) :
    m.isDuplicate others = true := by
  obtain ⟨other, member, repeated⟩ := List.any_eq_true.mp h
  exact List.any_eq_true.mpr ⟨other, more member, repeated⟩

end Memory

/-! ### Lists without repeated memories -/

section Deduplicate

variable {m : Memory} {memories : List Memory}

theorem deduplicate_eq_keepFrom (memories : List Memory) :
    deduplicate memories = keepFrom (fun kept m => m.isDuplicate kept) [] memories := rfl

theorem deduplicate_subset (memories : List Memory) : deduplicate memories ⊆ memories := by
  intro m member
  exact (mem_of_mem_keepFrom member).resolve_left List.not_mem_nil

theorem deduplicate_pairwise (memories : List Memory) :
    (deduplicate memories).Pairwise Memory.Apart := by
  rw [deduplicate_eq_keepFrom]
  refine pairwise_keepFrom (fun free other before => ?_) List.Pairwise.nil
  exact (Memory.isDuplicate_eq_false.mp free other before).symm

/-- What is left out repeats something that is kept. -/
theorem mem_deduplicate_or (member : m ∈ memories) :
    m ∈ deduplicate memories ∨ m.isDuplicate (deduplicate memories) = true := by
  rw [deduplicate_eq_keepFrom]
  exact mem_keepFrom_or Memory.isDuplicate_mono member

theorem deduplicate_eq_nil (none : deduplicate memories = []) : memories = [] := by
  refine List.eq_nil_iff_forall_not_mem.mpr fun m member => ?_
  rcases none ▸ mem_deduplicate_or member with kept | repeated
  · exact List.not_mem_nil kept
  · exact Bool.false_ne_true repeated

/-- In a list of memories that are apart, none repeats any of the others. -/
theorem not_isDuplicate_others {before after others : List Memory}
    (apart : (before ++ m :: after).Pairwise Memory.Apart) (among : others ⊆ before ++ after) :
    m.isDuplicate others = false := by
  refine Memory.isDuplicate_eq_false.mpr fun other member => ?_
  obtain ⟨-, rest, across⟩ := List.pairwise_append.mp apart
  rcases List.mem_append.mp (among member) with early | late
  · exact (across other early m List.mem_cons_self).symm
  · exact (List.pairwise_cons.mp rest).1 other late

end Deduplicate

end Gamebook
