import Mathlib
import Gamebook.History.Window
import Gamebook.Proofs.Outcome

/-!
The window of history: what a pass leaves is the newest part of what it found, and there is a
segment exactly if something older was folded.
-/

namespace Gamebook

open Outcome

variable {history : List Entry} {turn : Int} {c : HistoryConfig} {w : Windowed}

theorem manageHistory_short (short : history.length ≤ c.threshold) :
    manageHistory history turn c =
      .ok { active := history, originalSize := history.length, newSize := history.length } := by
  simp only [manageHistory, if_pos short]

theorem manageHistory_long (long : c.threshold < history.length)
    (h : manageHistory history turn c = .ok w) :
    w.active = history.drop (history.length - c.maxActive) ∧
      ∃ segment, w.segment = some segment ∧
        let turns := coveredTurns history.length ((history.length - c.maxActive : Nat) : Int) turn
        compress (history.take (history.length - c.maxActive)) turns.1 turns.2 c.summaryLength =
          .ok segment := by
  simp only [manageHistory, if_neg (Nat.not_le.mpr long), bind_eq_ok, pure_eq_ok] at h
  obtain ⟨segment, folded, rfl⟩ := h
  exact ⟨rfl, segment, rfl, folded⟩

theorem manageHistory_split (h : manageHistory history turn c = .ok w) :
    ∃ dropped, history = dropped ++ w.active ∧
      (dropped = [] ∧ w.segment = none ∨ dropped ≠ [] ∧ ∃ segment, w.segment = some segment) := by
  by_cases short : history.length ≤ c.threshold
  · rw [manageHistory_short short] at h
    obtain rfl := Except.ok.inj h
    exact ⟨[], rfl, .inl ⟨rfl, rfl⟩⟩
  · have long := Nat.lt_of_not_le short
    obtain ⟨active, segment, folded, -⟩ := manageHistory_long long h
    refine ⟨history.take (history.length - c.maxActive), ?_, .inr ⟨?_, segment, folded⟩⟩
    · rw [active, List.take_append_drop]
    · intro none
      have size := congrArg List.length none
      rw [List.length_take, List.length_nil] at size
      have window := c.maxActive_le_threshold
      omega

theorem manageHistory_length_le (h : manageHistory history turn c = .ok w) :
    w.active.length ≤ c.threshold := by
  by_cases short : history.length ≤ c.threshold
  · rw [manageHistory_short short] at h
    obtain rfl := Except.ok.inj h
    exact short
  · obtain ⟨active, -⟩ := manageHistory_long (Nat.lt_of_not_le short) h
    rw [active, List.length_drop]
    have window := c.maxActive_le_threshold
    omega

/-- What is left is the last part of the history, with the last entry if there is any. -/
theorem manageHistory_suffix (h : manageHistory history turn c = .ok w) :
    w.active <:+ history ∧ w.active.getLast? = history.getLast? := by
  by_cases short : history.length ≤ c.threshold
  · rw [manageHistory_short short] at h
    obtain rfl := Except.ok.inj h
    exact ⟨List.suffix_rfl, rfl⟩
  · obtain ⟨active, -⟩ := manageHistory_long (Nat.lt_of_not_le short) h
    have window := c.two_le_maxActive
    rw [active, List.getLast?_drop, if_neg (by omega)]
    exact ⟨List.drop_suffix _ history, rfl⟩

theorem manageHistory_segment_none (h : manageHistory history turn c = .ok w)
    (none : w.segment = none) : w.active = history := by
  obtain ⟨dropped, split, ⟨rfl, -⟩ | ⟨-, segment, some⟩⟩ := manageHistory_split h
  · exact split.symm
  · exact absurd (none.symm.trans some) nofun

/-! ### What can fail -/

theorem payload?_ranged (e : Entry) : Ranged e.payload? := by
  rw [Entry.payload?]
  split
  · exact ranged_ok none
  · split
    · exact ranged_ok _
    · exact ranged_ok none
    · rintro _ ⟨⟩
      exact .tooLong _

theorem story?_ranged (e : Entry) : Ranged e.story? := ranged_map _ (payload?_ranged e)

theorem Digest.add_ranged (d : Digest) (e : Entry) : Ranged (d.add e) := by
  rw [Digest.add]
  split
  · exact ranged_ok _
  · apply ranged_bind (story?_ranged e)
    intro story
    apply ranged_bind (ranged_map _ (payload?_ranged e))
    intro choices
    exact ranged_ok _

theorem manageHistory_ranged (history : List Entry) (turn : Int) (c : HistoryConfig) :
    Ranged (manageHistory history turn c) := by
  rw [manageHistory]
  split
  · exact ranged_ok _
  · apply ranged_bind
    · exact ranged_bind (ranged_foldlM Digest.add_ranged _ _) fun d => ranged_ok _
    · intro segment
      exact ranged_ok _

/-- An entry whose payload is absent or can be read. -/
def Entry.Readable (e : Entry) : Prop := ∃ v, e.payload? = .ok v

theorem Entry.Readable.story? {e : Entry} (h : e.Readable) : ∃ v, e.story? = .ok v := by
  obtain ⟨v, read⟩ := h
  exact ⟨_, map_eq_ok.mpr ⟨v, read, rfl⟩⟩

theorem Entry.Readable.choices {e : Entry} (h : e.Readable) : ∃ v, e.choices = .ok v := by
  obtain ⟨v, read⟩ := h
  exact ⟨_, map_eq_ok.mpr ⟨v, read, rfl⟩⟩

theorem Digest.exists_add (d : Digest) {e : Entry} (h : e.Readable) : ∃ d', d.add e = .ok d' := by
  obtain ⟨story, told⟩ := h.story?
  obtain ⟨choices, offered⟩ := h.choices
  rw [Digest.add]
  split
  · exact ⟨_, rfl⟩
  · rw [told, offered]
    exact ⟨_, rfl⟩

theorem exists_manageHistory (readable : ∀ e ∈ history, e.Readable) :
    ∃ w, manageHistory history turn c = .ok w := by
  rw [manageHistory]
  split
  · exact ⟨_, rfl⟩
  · have folded : ∃ d, (history.take (history.length - c.maxActive)).foldlM Digest.add {} =
        .ok d := by
      apply exists_foldlM
      intro d e member
      exact d.exists_add (readable e (List.mem_of_mem_take member))
    obtain ⟨d, digested⟩ := folded
    simp only [compress, digested, bind_eq_ok, pure_eq_ok]
    exact ⟨_, _, ⟨d, rfl, rfl⟩, rfl⟩

end Gamebook
