import Mathlib
import Gamebook.Proofs.Memory.Reach

/-!
What enhancement keeps of what was set. A source, a category and a feeling stay as they are. A moment
stays unless it is turn zero, which counts as none, and a list stays unless it is empty and something
is found in the end. An enhanced memory is kept whole, and from the first turn on nothing is reported of
it but its score.
-/

namespace Gamebook.Memory

/-- A moment other than turn zero is kept; turn zero is, if it is the present one. -/
theorem stamp_some_eq_iff {turn : Nat} {t : Int} :
    stamp turn (some t) = some t ↔ t ≠ 0 ∨ turn = 0 := by
  have unset : isUnset (some t) = true ↔ t = 0 := decide_eq_true_iff
  rw [stamp]
  split_ifs with zero
  · rw [unset.mp zero, Option.some.injEq, Int.natCast_eq_zero]
    exact (or_iff_right fun nonzero => nonzero rfl).symm
  · exact iff_of_true rfl (.inl (mt unset.mpr zero))

theorem isSome_stamp (turn : Nat) (moment : Option Int) : (stamp turn moment).isSome := by
  cases moment with
  | none => rfl
  | some t =>
    rw [stamp]
    split_ifs <;> rfl

theorem isUnset_stamp {turn : Nat} (begun : turn ≠ 0) (moment : Option Int) :
    isUnset (stamp turn moment) = false := by
  have present : isUnset (some (turn : Int)) = false :=
    decide_eq_false fun zero => begun (Int.natCast_eq_zero.mp zero)
  rw [stamp]
  split_ifs with unset
  · exact present
  · exact Bool.eq_false_iff.mpr unset

section Lists

variable {given : Option (List String)} {names found : List String}

/-- A list that is not empty is kept; the empty one is, if nothing is found. -/
theorem fill_eq_iff (set : given = some names) :
    (if (given.getD []).isEmpty then some found else given) = some names ↔
      names ≠ [] ∨ found = [] := by
  rw [set, Option.getD_some]
  split_ifs with empty
  · rw [List.isEmpty_iff.mp empty, Option.some.injEq]
    exact (or_iff_right fun nonempty => nonempty rfl).symm
  · exact iff_of_true rfl (.inl (mt List.isEmpty_iff.mpr empty))

theorem isSome_fill : (if (given.getD []).isEmpty then some found else given).isSome := by
  cases given with
  | none => rfl
  | some names =>
    split_ifs <;> rfl

end Lists

/-- What is set in a memory once it has been enhanced. -/
structure Complete (m : Memory) : Prop where
  source : m.source.isSome
  category : m.category.isSome
  createdAt : m.createdAt.isSome
  lastAccessed : m.lastAccessed.isSome
  relatedEntities : m.relatedEntities.isSome
  tags : m.tags.isSome
  emotionalWeight : m.emotionalWeight.isSome
  importance : m.importance.isSome

/-- What an enhanced memory keeps of the memory, and exactly when it does. -/
structure Keeps (s : GameState) (m e : Memory) : Prop where
  text : e.text = m.text
  pinned : e.pinned = m.pinned
  extras : e.extras = m.extras
  source : ∀ x, m.source = some x → e.source = some x
  category : ∀ x, m.category = some x → e.category = some x
  emotionalWeight : ∀ x, m.emotionalWeight = some x → e.emotionalWeight = some x
  createdAt : ∀ t, m.createdAt = some t → (e.createdAt = some t ↔ t ≠ 0 ∨ s.turnCount = 0)
  lastAccessed : ∀ t, m.lastAccessed = some t → (e.lastAccessed = some t ↔ t ≠ 0 ∨ s.turnCount = 0)
  relatedEntities : ∀ names, m.relatedEntities = some names →
    (e.relatedEntities = some names ↔
      names ≠ [] ∨ Gamebook.relatedEntities m.text s.knownEntities = [])
  tags : ∀ tags, m.tags = some tags →
    (e.tags = some tags ↔ tags ≠ [] ∨ generateTags m.text e.related = [])

theorem keeps_of_enhanced {s : GameState} {m e : Memory} (h : m.enhanced s = .ok e) :
    m.Keeps s e := by
  obtain ⟨x, -, rfl⟩ := enhanced_eq_ok.mp h
  constructor
  · exact filled_text m s
  · exact filled_pinned m s
  · rfl
  · intro source set
    change (m.filled s).source = _
    rw [filled_source, set, Option.getD_some]
  · intro category set
    change (m.filled s).category = _
    rw [filled_category, set, Option.getD_some]
  · intro weight set
    change (m.filled s).emotionalWeight = _
    rw [filled_emotionalWeight, set, Option.getD_some]
  · intro t set
    change (m.filled s).createdAt = _ ↔ _
    rw [filled_createdAt, set, stamp_some_eq_iff]
  · intro t set
    change (m.filled s).lastAccessed = _ ↔ _
    rw [filled_lastAccessed, set, stamp_some_eq_iff]
  · intro names set
    exact fill_eq_iff set
  · intro tags set
    exact fill_eq_iff set

theorem complete_of_enhanced {s : GameState} {m e : Memory} (h : m.enhanced s = .ok e) :
    e.Complete := by
  obtain ⟨x, -, rfl⟩ := enhanced_eq_ok.mp h
  exact {
    source := rfl
    category := rfl
    createdAt := isSome_stamp _ _
    lastAccessed := isSome_stamp _ _
    relatedEntities := isSome_fill
    tags := isSome_fill
    emotionalWeight := rfl
    importance := rfl }

/-- Enhancement gives a result unless numbers are out of reach, leaves nothing unset, and keeps what
was set but for turn zero and empty lists. -/
theorem enhanced_keeps (m : Memory) (s : GameState) :
    (m.InReach s → s.knownEntities.length ≤ crowd → ∃ e, m.enhanced s = .ok e) ∧
    ∀ e, m.enhanced s = .ok e → m.Keeps s e ∧ e.Complete := by
  refine ⟨fun reach known => ?_, fun e ok => ⟨keeps_of_enhanced ok, complete_of_enhanced ok⟩⟩
  obtain ⟨e, ok, -⟩ := reach.exists_enhanced known
  exact ⟨e, ok⟩

/-- The state of the fifth turn, in which Lan is known. -/
def hamlet : GameState where
  turnCount := 5
  knownEntities := [("Lan", { name := "Lan", kind := .npc })]

/-- A memory of Lan, in which all is set but the tags. -/
def farewell (made : Int) (names : List String) : Memory where
  text := "Lan rời làng"
  source := some .manual
  category := some .general
  createdAt := some made
  lastAccessed := some 3
  relatedEntities := some names
  emotionalWeight := some 0

theorem farewell_inReach {made : Int} (near : (5 - made).natAbs ≤ farthest) {names : List String}
    (few : names.length ≤ crowd) : (farewell made names).InReach hamlet where
  created t same := by
    rwa [← Option.some.inj same]
  accessed t same := by
    rw [← Option.some.inj same]
    decide +kernel
  related := few

theorem length_hamlet_le : hamlet.knownEntities.length ≤ crowd := by decide +kernel

/-- What was noted in the first turn is kept in the fifth, and tags are added. -/
theorem farewell_kept : (farewell 1 ["Minh"]).InReach hamlet ∧
    hamlet.knownEntities.length ≤ crowd ∧ ∃ e, (farewell 1 ["Minh"]).enhanced hamlet = .ok e ∧
      e.createdAt = some 1 ∧ e.relatedEntities = some ["Minh"] ∧ e.tags.isSome := by
  have reach : (farewell 1 ["Minh"]).InReach hamlet :=
    farewell_inReach (by decide +kernel) (by decide +kernel)
  obtain ⟨e, ok⟩ := (enhanced_keeps _ _).1 reach length_hamlet_le
  obtain ⟨keeps, complete⟩ := (enhanced_keeps _ _).2 e ok
  refine ⟨reach, length_hamlet_le, e, ok, ?_, ?_, complete.tags⟩
  · exact (keeps.createdAt 1 rfl).mpr (.inl (by decide))
  · exact (keeps.relatedEntities _ rfl).mpr (.inl (by decide))

/-- A memory of turn zero becomes one of the fifth turn, and an empty list is filled. -/
theorem farewell_dated_anew : ∃ e, (farewell 0 []).enhanced hamlet = .ok e ∧
    (farewell 0 []).createdAt = some 0 ∧ e.createdAt = some 5 ∧
    (farewell 0 []).relatedEntities = some [] ∧ e.relatedEntities = some ["Lan"] := by
  have reach : (farewell 0 []).InReach hamlet :=
    farewell_inReach (by decide +kernel) (Nat.zero_le _)
  obtain ⟨e, ok, -⟩ := reach.exists_enhanced length_hamlet_le
  obtain ⟨x, -, rfl⟩ := enhanced_eq_ok.mp ok
  refine ⟨_, ok, rfl, rfl, rfl, ?_⟩
  change some (Gamebook.relatedEntities (farewell 0 []).text hamlet.knownEntities) = _
  decide +kernel

/-! ### Enhancing again -/

/-- Where nothing is unset there is nothing to report. -/
theorem Complete.changeLog_self {m : Memory} (h : m.Complete) (created : isUnset m.createdAt = false)
    (accessed : isUnset m.lastAccessed = false) : m.changeLog m = [] := by
  obtain ⟨source, from_⟩ := Option.isSome_iff_exists.mp h.source
  obtain ⟨category, kind⟩ := Option.isSome_iff_exists.mp h.category
  obtain ⟨weight, felt⟩ := Option.isSome_iff_exists.mp h.emotionalWeight
  simp [changeLog, created, accessed, from_, kind, felt]

/-- A memory that was enhanced stays as it is when it is enhanced again, and gets the same advice. Once
turns are counted, its score is all that is reported then. -/
theorem enhance_settles (m : Memory) (s : GameState) :
    (m.InReach s → s.knownEntities.length ≤ crowd → ∃ r, m.enhance s = .ok r) ∧
    ∀ r, m.enhance s = .ok r → ∃ again, r.enhanced.enhance s = .ok again ∧
      again.enhanced = r.enhanced ∧ again.suggestions = r.suggestions ∧
      (s.turnCount ≠ 0 → ∃ x, again.changes = ["Importance score: " ++ Double.text x ++ "/100"]) := by
  constructor
  · intro reach known
    obtain ⟨e, ok, -⟩ := reach.exists_enhanced known
    obtain ⟨r, enhanced, -⟩ := Outcome.map_eq_ok.mp ok
    exact ⟨r, enhanced⟩
  · intro r ok
    have complete : r.enhanced.Complete :=
      complete_of_enhanced (Outcome.map_eq_ok.mpr ⟨r, ok, rfl⟩)
    obtain ⟨analysis, analyzed, rfl⟩ := enhance_eq_ok.mp ok
    have same := filled_filled m s (some analysis.score)
    refine ⟨_, enhance_eq_ok.mpr ⟨analysis, ?_, rfl⟩, ?_, rfl, fun begun => ⟨analysis.score, ?_⟩⟩
    · rw [same, analyze_noted]
      exact analyzed
    · rw [same]
    · rw [same, complete.changeLog_self (isUnset_stamp begun _) (isUnset_stamp begun _)]
      rfl

theorem farewell_settled : (farewell 1 []).InReach hamlet ∧
    hamlet.knownEntities.length ≤ crowd ∧ ∃ r again, (farewell 1 []).enhance hamlet = .ok r ∧
      r.enhanced.relatedEntities = some ["Lan"] ∧ r.enhanced.enhance hamlet = .ok again ∧
      again.enhanced = r.enhanced ∧ again.changes.length = 1 := by
  have reach : (farewell 1 []).InReach hamlet := farewell_inReach (by decide +kernel) (Nat.zero_le _)
  obtain ⟨r, ok⟩ := (enhance_settles _ _).1 reach length_hamlet_le
  obtain ⟨again, done, same, -, reported⟩ := (enhance_settles _ _).2 r ok
  obtain ⟨x, score⟩ := reported (by decide)
  refine ⟨reach, length_hamlet_le, r, again, ok, ?_, done, same, ?_⟩
  · obtain ⟨analysis, -, rfl⟩ := enhance_eq_ok.mp ok
    change some (Gamebook.relatedEntities (farewell 1 []).text hamlet.knownEntities) = _
    decide +kernel
  · rw [score]
    rfl

end Gamebook.Memory
