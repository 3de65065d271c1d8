import Mathlib
import Gamebook.Memory.Enhancement
import Gamebook.Proofs.Memory.Importance
import Gamebook.Proofs.Number.Nearest

/-!
Enhancement fills in and never takes away: what it sets once it finds set the next time, so a
second enhancement changes nothing, and a memory that knows more about itself has no lower score.
-/

namespace Gamebook.Memory

open Outcome

theorem stamp_stamp (turn : Nat) (moment : Option Int) :
    stamp turn (stamp turn moment) = stamp turn moment := by
  by_cases unset : isUnset moment = true
  · simp only [stamp, if_pos unset, ite_self]
  · simp only [stamp, if_neg unset]

theorem filled_text (m : Memory) (s : GameState) : (m.filled s).text = m.text := rfl

theorem filled_pinned (m : Memory) (s : GameState) : (m.filled s).pinned = m.pinned := rfl

theorem filled_createdAt (m : Memory) (s : GameState) :
    (m.filled s).createdAt = stamp s.turnCount m.createdAt := rfl

theorem filled_lastAccessed (m : Memory) (s : GameState) :
    (m.filled s).lastAccessed = stamp s.turnCount m.lastAccessed := rfl

theorem filled_source (m : Memory) (s : GameState) :
    (m.filled s).source = some (m.source.getD (detectSource m.text)) := rfl

theorem filled_category (m : Memory) (s : GameState) :
    (m.filled s).category = some (m.category.getD (suggestCategory m.text)) := rfl

theorem filled_emotionalWeight (m : Memory) (s : GameState) :
    (m.filled s).emotionalWeight = some (m.emotionalWeight.getD (Gamebook.emotionalWeight m.text)) :=
  rfl

theorem filled_relatedEntities (m : Memory) (s : GameState) :
    (m.filled s).relatedEntities =
      if m.related.isEmpty then some (Gamebook.relatedEntities m.text s.knownEntities)
      else m.relatedEntities := rfl

theorem filled_tags (m : Memory) (s : GameState) :
    (m.filled s).tags =
      if m.tagList.isEmpty then some (generateTags m.text (m.filled s).related) else m.tags := rfl

theorem filled_related_of_given {m : Memory} (s : GameState) (given : ¬ m.related.isEmpty = true) :
    (m.filled s).related = m.related := by
  rw [related, filled_relatedEntities, if_neg given, related]

/-- Related entities that are empty after filling in were looked for. -/
theorem filled_relatedEntities_of_empty {m : Memory} {s : GameState}
    (empty : (m.filled s).related.isEmpty = true) :
    (m.filled s).relatedEntities = some (Gamebook.relatedEntities m.text s.knownEntities) := by
  by_cases missing : m.related.isEmpty = true
  · rw [filled_relatedEntities, if_pos missing]
  · rw [filled_related_of_given s missing] at empty
    exact absurd empty missing

/-- Tags that are empty after filling in were generated. -/
theorem filled_tags_of_empty {m : Memory} {s : GameState}
    (empty : (m.filled s).tagList.isEmpty = true) :
    (m.filled s).tags = some (generateTags m.text (m.filled s).related) := by
  by_cases missing : m.tagList.isEmpty = true
  · rw [filled_tags, if_pos missing]
  · rw [tagList, filled_tags, if_neg missing] at empty
    exact absurd empty missing

attribute [ext] Memory

/-- Filling in a second time changes nothing, whatever importance was noted meanwhile. -/
theorem filled_filled (m : Memory) (s : GameState) (noted : Option Double) :
    ({ m.filled s with importance := noted } : Memory).filled s =
      { m.filled s with importance := noted } := by
  have related : (({ m.filled s with importance := noted } : Memory).filled s).relatedEntities =
      (m.filled s).relatedEntities := by
    rw [filled_relatedEntities]
    split_ifs with empty
    · exact (filled_relatedEntities_of_empty empty).symm
    · rfl
  have tags : (({ m.filled s with importance := noted } : Memory).filled s).tags =
      (m.filled s).tags := by
    rw [filled_tags]
    split_ifs with empty
    · rw [Memory.related, related]
      exact (filled_tags_of_empty empty).symm
    · rfl
  exact Memory.ext rfl rfl rfl rfl rfl (stamp_stamp _ _) (stamp_stamp _ _) related tags rfl rfl

theorem analyze_noted (m : Memory) (s : GameState) (noted : Option Double) :
    ({ m with importance := noted } : Memory).analyze s = m.analyze s := rfl

theorem score_noted (m : Memory) (s : GameState) (noted : Option Double) :
    ({ m with importance := noted } : Memory).score s = m.score s := rfl

theorem enhance_eq_ok {m : Memory} {r : Enhancement} {s : GameState} :
    m.enhance s = .ok r ↔ ∃ analysis, (m.filled s).analyze s = .ok analysis ∧
      { enhanced := { m.filled s with importance := some analysis.score }
        changes := m.changeLog (m.filled s) ++
          ["Importance score: " ++ analysis.score.text ++ "/100"]
        suggestions := analysis.suggestions } = r := by
  simp only [enhance, bind_eq_ok, pure_eq_ok]

theorem enhanced_eq_ok {m e : Memory} {s : GameState} :
    m.enhanced s = .ok e ↔
      ∃ x, (m.filled s).score s = .ok x ∧ { m.filled s with importance := some x } = e := by
  simp only [enhanced, score, map_eq_ok, enhance_eq_ok]
  constructor
  · rintro ⟨_, ⟨analysis, analyzed, rfl⟩, rfl⟩
    exact ⟨_, ⟨analysis, analyzed, rfl⟩, rfl⟩
  · rintro ⟨_, ⟨analysis, analyzed, rfl⟩, rfl⟩
    exact ⟨_, ⟨analysis, analyzed, rfl⟩, rfl⟩

/-- An enhanced memory stays as it is when it is enhanced again. -/
theorem enhanced_enhanced {m e : Memory} {s : GameState} (h : m.enhanced s = .ok e) :
    e.enhanced s = .ok e := by
  obtain ⟨x, scored, rfl⟩ := enhanced_eq_ok.mp h
  refine enhanced_eq_ok.mpr ⟨x, ?_, ?_⟩
  · rw [filled_filled, score_noted]
    exact scored
  · rw [filled_filled]

theorem sourcePoints_le_filled (m : Memory) (s : GameState) :
    sourcePoints m.source ≤ sourcePoints (m.filled s).source := by
  cases h : m.source with
  | none => exact sourcePoints_ge _
  | some source =>
      have kept : (m.filled s).source = some source := by
        rw [filled_source, h, Option.getD_some]
      rw [kept]

/-- A moment that is filled in earns a bonus or none; one that was set earns the same. -/
theorem momentBonus_sublist {label : String} {full : Int} {rate : Double} {turn : Nat}
    {moment : Option Int} {before after : List Bonus}
    (hbefore : momentBonus label full rate turn moment = .ok before)
    (hafter : momentBonus label full rate turn (stamp turn moment) = .ok after) :
    before.Sublist after := by
  by_cases unset : isUnset moment = true
  · cases moment with
    | none =>
        obtain rfl := Except.ok.inj hbefore
        exact List.nil_sublist after
    | some t =>
        have zero : t = 0 := of_decide_eq_true unset
        simp only [momentBonus, if_pos zero] at hbefore
        obtain rfl := Except.ok.inj hbefore
        exact List.nil_sublist after
  · rw [stamp, if_neg unset, hbefore] at hafter
    obtain rfl := Except.ok.inj hafter
    exact List.Sublist.refl before

theorem entityBonus_sublist_filled (m : Memory) (s : GameState) :
    (entityBonus s m).Sublist (entityBonus s (m.filled s)) := by
  by_cases missing : m.related.isEmpty = true
  · have nobody : m.related = [] := List.isEmpty_iff.mp missing
    have nothing : entityBonus s m = [] := by
      simp only [entityBonus, nobody, List.map_nil, List.foldl_nil, if_pos]
    rw [nothing]
    exact List.nil_sublist _
  · simp only [entityBonus, filled_related_of_given s missing]
    exact List.Sublist.refl _

theorem emotionBonus_sublist_filled (m : Memory) (s : GameState) :
    (emotionBonus m).Sublist (emotionBonus (m.filled s)) := by
  cases h : m.emotionalWeight with
  | none =>
      simp only [emotionBonus, h]
      exact List.nil_sublist _
  | some w =>
      have kept : (m.filled s).emotionalWeight = some w := by
        rw [filled_emotionalWeight, h, Option.getD_some]
      simp only [emotionBonus, h, kept]
      exact List.Sublist.refl _

theorem categoryBonus_sublist_filled (m : Memory) (s : GameState) :
    (categoryBonus m).Sublist (categoryBonus (m.filled s)) := by
  cases h : m.category with
  | none =>
      simp only [categoryBonus, h]
      exact List.nil_sublist _
  | some category =>
      have kept : (m.filled s).category = some category := by
        rw [filled_category, h, Option.getD_some]
      simp only [categoryBonus, h, kept]
      exact List.Sublist.refl _

/-- The feeling read from a text is a number. -/
theorem emotionalWeight_ne_nan (text : String) : Gamebook.emotionalWeight text ≠ .nan := by
  have raised (low x : Double) (number : low ≠ .nan) : (if low.lt x then x else low) ≠ .nan := by
    split_ifs with above
    · rintro rfl
      rw [Double.lt_nan] at above
      exact nomatch above
    · exact number
  simp only [Gamebook.emotionalWeight]
  exact raised _ _ (Double.ofInt_ne_nan (-10))

theorem filled_emotionalWeight_ne_nan {m : Memory} (s : GameState)
    (number : m.emotionalWeight ≠ some .nan) : (m.filled s).emotionalWeight ≠ some .nan := by
  cases h : m.emotionalWeight with
  | none =>
      have found : (m.filled s).emotionalWeight = some (Gamebook.emotionalWeight m.text) := by
        rw [filled_emotionalWeight, h, Option.getD_none]
      rw [found]
      exact fun same => emotionalWeight_ne_nan m.text (Option.some.inj same)
  | some w =>
      have kept : (m.filled s).emotionalWeight = some w := by
        rw [filled_emotionalWeight, h, Option.getD_some]
      rw [kept, ← h]
      exact number

/-- Apart from the source, a filled memory has the bonuses of the memory among its own. -/
theorem bonuses_filled {m : Memory} {s : GameState} {bs bs' : List Bonus}
    (before : m.bonuses s = .ok bs) (after : (m.filled s).bonuses s = .ok bs') :
    ∃ rest rest', bs = sourceBonus m :: rest ∧ bs' = sourceBonus (m.filled s) :: rest' ∧
      rest.Sublist rest' := by
  obtain ⟨created, accessed, hcreated, haccessed, rfl⟩ := bonuses_eq_ok.mp before
  obtain ⟨created', accessed', hcreated', haccessed', rfl⟩ := bonuses_eq_ok.mp after
  rw [filled_createdAt] at hcreated'
  rw [filled_lastAccessed] at haccessed'
  refine ⟨_, _, rfl, rfl, ?_⟩
  have pin : pinBonus (m.filled s) = pinBonus m := by
    rw [pinBonus, pinBonus, filled_pinned]
  have content : contentBonus (m.filled s) = contentBonus m := by
    rw [contentBonus, contentBonus, filled_text]
  rw [pin, content]
  exact (((((List.Sublist.refl _).append (momentBonus_sublist hcreated hcreated')).append
    (momentBonus_sublist haccessed haccessed')).append (entityBonus_sublist_filled m s)).append
    (emotionBonus_sublist_filled m s)).append (categoryBonus_sublist_filled m s) |>.append
    (List.Sublist.refl _)

/-- Enhancement never lowers a score. -/
theorem score_height_le_filled {m : Memory} {s : GameState} {x y : Double}
    (before : m.score s = .ok x) (after : (m.filled s).score s = .ok y) : x.height ≤ y.height := by
  by_cases spoilt : m.emotionalWeight = some .nan
  · rw [score_of_nan spoilt before]
    exact Nat.zero_le _
  · obtain ⟨bs, sum, hbs, hsum, hx⟩ := score_eq_ok.mp before
    obtain ⟨bs', sum', hbs', hsum', hy⟩ := score_eq_ok.mp after
    have start : (Number.int 0).NonNegative := Int.le_refl 0
    have fewer := bonuses_nonNegative spoilt hbs
    have all := bonuses_nonNegative (filled_emotionalWeight_ne_nan s spoilt) hbs'
    have low := addBonuses_nonNegative start fewer hsum
    have high := addBonuses_nonNegative start all hsum'
    obtain ⟨rest, rest', rfl, rfl, more⟩ := bonuses_filled hbs hbs'
    obtain ⟨next, step, fold⟩ := addBonuses_cons_eq_ok.mp hsum
    obtain ⟨next', step', fold'⟩ := addBonuses_cons_eq_ok.mp hsum'
    obtain rfl := Option.some.inj step
    obtain rfl := Option.some.inj step'
    have source : (Number.int (0 + sourcePoints m.source)).UpTo
        (.int (0 + sourcePoints (m.filled s).source)) :=
      .whole (Int.add_le_add_left (sourcePoints_le_filled m s) 0)
    have positive (t : Option MemorySource) : (Number.int (0 + sourcePoints t)).NonNegative :=
      Int.add_nonneg le_rfl ((by decide : (0 : Int) ≤ 10).trans (sourcePoints_ge t))
    have order := addBonuses_upTo more (fun b hb => all b (List.mem_cons_of_mem _ hb))
      (positive _) (positive _) source fold fold'
    rw [(clamp_eq_ok low hx).2, (clamp_eq_ok high hy).2]
    exact le_min (order.capped_le low) (Double.capped_le_full _)

theorem score_height_le {m : Memory} {s : GameState} {x : Double} (scored : m.score s = .ok x) : x.height ≤ Double.fullHeight := by
  by_cases spoilt : m.emotionalWeight = some .nan
  · rw [score_of_nan spoilt scored]
    exact Nat.zero_le _
  · obtain ⟨bs, sum, hbs, hsum, hx⟩ := score_eq_ok.mp scored
    have start : (Number.int 0).NonNegative := Int.le_refl 0
    have sign := addBonuses_nonNegative start (bonuses_nonNegative spoilt hbs) hsum
    rw [(clamp_eq_ok sign hx).2]
    exact Double.capped_le_full _

/-- An enhanced memory notes its own score, which is no lower than the score of the memory. -/
theorem score_rises {m e : Memory} {s : GameState} {x : Double} (scored : m.score s = .ok x) (h : m.enhanced s = .ok e) :
    ∃ y, e.score s = .ok y ∧ e.importance = some y ∧ Double.Rises x y := by
  obtain ⟨y, later, rfl⟩ := enhanced_eq_ok.mp h
  refine ⟨y, (score_noted (m.filled s) s _).trans later, rfl, ?_⟩
  exact Double.rises_of_height_le (score_nonNegative scored) (score_nonNegative later)
    (score_height_le_filled scored later) (score_height_le later)

theorem enhanced_congr {s s' : GameState} (turn : s'.turnCount = s.turnCount)
    (known : s'.knownEntities = s.knownEntities) (m : Memory) : m.enhanced s' = m.enhanced s := by
  have same : m.filled s' = m.filled s := by
    simp only [filled, connected, turn, known]
  simp only [enhanced, enhance, same, analyze_congr turn known]

theorem enhanced_ranged (m : Memory) (s : GameState) : Ranged (m.enhanced s) := by
  apply ranged_map
  exact ranged_bind (analyze_ranged _ s) fun analysis => ranged_ok _

end Gamebook.Memory
