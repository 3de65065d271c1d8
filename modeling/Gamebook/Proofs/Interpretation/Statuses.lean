import Mathlib.Data.List.Perm.Subperm
import Gamebook.Proofs.Interpretation.Frame

/-!
The status limit. A newcomer with a type takes the place of the status of its name and pushes out the
older ones of its type, so that its owner bears two of the type at most; all others stay, in their
order. No tag gives an owner a third status of a type.
-/

namespace Gamebook

open Play (Yields yields_pure)

namespace Status

variable {statuses before survivors : List Status} {new s : Status}

/-- The statuses of a type that an owner bears. -/
def borne (statuses : List Status) (owner : String) (type : Option String) : List Status :=
  statuses.filter fun s => s.owner = owner ∧ s.type = type

/-- Whether every owner bears at most two statuses of each type that counts. -/
def WithinLimit (statuses : List Status) : Prop :=
  ∀ owner type, type ≠ "" → (borne statuses owner (some type)).length ≤ maxPerType

/-! ### A newcomer -/

/-- The statuses of other owners than a newcomer's. -/
def strangers (statuses : List Status) (new : Status) : List Status :=
  statuses.filter fun s => s.owner ≠ new.owner

/-- The statuses of a newcomer's owner with another name and another type. -/
def bystanders (statuses : List Status) (new : Status) : List Status :=
  statuses.filter fun s => s.owner = new.owner ∧ s.name ≠ new.name ∧ s.type ≠ new.type

/-- The statuses of a newcomer's owner with another name and its type. -/
def rivals (statuses : List Status) (new : Status) : List Status :=
  statuses.filter fun s => s.owner = new.owner ∧ s.name ≠ new.name ∧ s.type = new.type

/-- What stands in front of a newcomer under the limit. No other status has its owner and name, and
its owner bears at most two of its type. The statuses of other owners stay in their order, and so do
those of its owner with another name and another type. Of those with another name and its type the
oldest go, and only as many as have to. -/
structure Admits (statuses : List Status) (new : Status) (before : List Status) : Prop where
  refreshed : ∀ s ∈ before, s.owner = new.owner → s.name ≠ new.name
  limited : (borne (before ++ [new]) new.owner new.type).length ≤ maxPerType
  strangers : strangers before new = strangers statuses new
  bystanders : bystanders before new = bystanders statuses new
  rivals : ∃ evicted, rivals statuses new = evicted ++ rivals before new ∧
    (evicted ≠ [] → (rivals before new).length + 1 = maxPerType)

theorem mem_strangers : s ∈ strangers statuses new ↔ s ∈ statuses ∧ s.owner ≠ new.owner := by
  simp [strangers]

theorem mem_bystanders : s ∈ bystanders statuses new ↔
    s ∈ statuses ∧ s.owner = new.owner ∧ s.name ≠ new.name ∧ s.type ≠ new.type := by
  simp [bystanders]

theorem mem_rivals : s ∈ rivals statuses new ↔
    s ∈ statuses ∧ s.owner = new.owner ∧ s.name ≠ new.name ∧ s.type = new.type := by
  simp [rivals]

/-- Of the newcomer's type only the last one survives. -/
theorem addLimited_typed (statuses : List Status) (typed : new.isTyped = true) :
    addLimited statuses new = strangers statuses new ++ bystanders statuses new ++
      lastOf 1 (rivals statuses new) ++ [new] := by
  have trimmed (xs : List Status) :
      (if maxPerType ≤ xs.length then lastOf (maxPerType - 1) xs else xs) = lastOf 1 xs := by
    split_ifs with full
    · rfl
    · have few : xs.length - 1 = 0 := by
        have below : ¬2 ≤ xs.length := full
        omega
      rw [lastOf, few, List.drop_zero]
  rw [addLimited, if_neg (by simp [typed])]
  simp only [trimmed, List.filter_filter, strangers, bystanders, rivals]
  congr 4
  all_goals
    funext s
    rw [Bool.eq_iff_iff]
    simp only [Bool.and_eq_true, bne_iff_ne, beq_iff_eq, Bool.not_eq_true', Bool.and_eq_false_iff,
      beq_eq_false_iff_ne, decide_eq_true_eq]
    tauto

/-- The parts in front of a newcomer are told apart by owner, name and type. -/
theorem parts_of_front (among : ∀ s ∈ survivors, s ∈ rivals statuses new) :
    strangers (strangers statuses new ++ bystanders statuses new ++ survivors) new =
        strangers statuses new ∧
      bystanders (strangers statuses new ++ bystanders statuses new ++ survivors) new =
        bystanders statuses new ∧
      rivals (strangers statuses new ++ bystanders statuses new ++ survivors) new = survivors := by
  have stranger (s) (member : s ∈ strangers statuses new) := (mem_strangers.mp member).2
  have bystander (s) (member : s ∈ bystanders statuses new) := (mem_bystanders.mp member).2
  have rival (s) (member : s ∈ survivors) := (mem_rivals.mp (among s member)).2
  refine ⟨?_, ?_, ?_⟩
  · rw [Status.strangers, List.filter_append, List.filter_append, List.filter_eq_self.mpr,
      List.filter_eq_nil_iff.mpr, List.filter_eq_nil_iff.mpr, List.append_nil, List.append_nil]
    · intro s member
      simp [rival s member]
    · intro s member
      simp [bystander s member]
    · intro s member
      simp [stranger s member]
  · rw [Status.bystanders, List.filter_append, List.filter_append, List.filter_eq_nil_iff.mpr,
      List.filter_eq_self.mpr, List.filter_eq_nil_iff.mpr, List.nil_append, List.append_nil]
    · intro s member
      simp [rival s member]
    · intro s member
      simp [bystander s member]
    · intro s member
      simp [stranger s member]
  · rw [Status.rivals, List.filter_append, List.filter_append, List.filter_eq_nil_iff.mpr,
      List.filter_eq_nil_iff.mpr, List.filter_eq_self.mpr, List.nil_append, List.nil_append]
    · intro s member
      simp [rival s member]
    · intro s member
      simp [bystander s member]
    · intro s member
      simp [stranger s member]

/-- Without the status of its name, an owner bears a newcomer's rivals of its type. -/
theorem borne_of_refreshed (refreshed : ∀ s ∈ before, s.owner = new.owner → s.name ≠ new.name) :
    borne before new.owner new.type = rivals before new := by
  apply List.filter_congr
  intro s member
  rw [decide_eq_decide]
  constructor
  · rintro ⟨owned, typed⟩
    exact ⟨owned, refreshed s member owned, typed⟩
  · rintro ⟨owned, -, typed⟩
    exact ⟨owned, typed⟩

theorem addLimited_admits (statuses : List Status) (typed : new.isTyped = true) :
    ∃ before, addLimited statuses new = before ++ [new] ∧ Admits statuses new before := by
  have among (s) (member : s ∈ lastOf 1 (rivals statuses new)) : s ∈ rivals statuses new :=
    List.mem_of_mem_drop member
  have short : (lastOf 1 (rivals statuses new)).length = min 1 (rivals statuses new).length := by
    rw [lastOf, List.length_drop]
    omega
  obtain ⟨sameStrangers, sameBystanders, survivors⟩ := parts_of_front among
  have refreshed : ∀ s ∈ strangers statuses new ++ bystanders statuses new ++
      lastOf 1 (rivals statuses new), s.owner = new.owner → s.name ≠ new.name := by
    intro s member owned
    rcases List.mem_append.mp member with member | member
    · rcases List.mem_append.mp member with member | member
      · exact absurd owned (mem_strangers.mp member).2
      · exact (mem_bystanders.mp member).2.2.1
    · exact (mem_rivals.mp (among s member)).2.2.1
  refine ⟨_, addLimited_typed statuses typed, refreshed, ?_, sameStrangers, sameBystanders, ?_⟩
  · have alone : (borne [new] new.owner new.type).length ≤ 1 := List.length_filter_le _ _
    rw [borne, List.filter_append, List.length_append, ← borne, ← borne,
      borne_of_refreshed refreshed, survivors, short]
    change _ ≤ 2
    omega
  · rw [survivors]
    refine ⟨(rivals statuses new).take ((rivals statuses new).length - 1),
      (List.take_append_drop _ _).symm, fun evicted => ?_⟩
    have some : (rivals statuses new).length - 1 ≠ 0 := fun none =>
      evicted (by rw [none, List.take_zero])
    rw [short]
    change _ = 2
    omega

/-! ### The limit -/

theorem borne_append (xs ys : List Status) (owner : String) (type : Option String) :
    borne (xs ++ ys) owner type = borne xs owner type ++ borne ys owner type :=
  List.filter_append ..

theorem borne_sublist {xs ys : List Status} (h : xs.Sublist ys) (owner : String)
    (type : Option String) : (borne xs owner type).length ≤ (borne ys owner type).length :=
  (h.filter _).length_le

theorem WithinLimit.sublist {xs : List Status} (h : WithinLimit statuses)
    (sub : xs.Sublist statuses) : WithinLimit xs :=
  fun owner type filled => (borne_sublist sub owner _).trans (h owner type filled)

/-- What another owner bears stands among the strangers. -/
theorem borne_strangers {owner : String} (apart : new.owner ≠ owner) (type : Option String) :
    borne (strangers statuses new) owner type = borne statuses owner type := by
  rw [borne, strangers, List.filter_filter]
  apply List.filter_congr
  intro s _
  rw [Bool.eq_iff_iff]
  simp only [Bool.and_eq_true, decide_eq_true_eq]
  exact and_iff_left_of_imp fun kind same => apart (same.symm.trans kind.1)

/-- What a newcomer's owner bears of another type stands among the bystanders. -/
theorem borne_bystanders (refreshed : ∀ s ∈ before, s.owner = new.owner → s.name ≠ new.name)
    {type : Option String} (apart : new.type ≠ type) :
    borne (bystanders before new) new.owner type = borne before new.owner type := by
  rw [borne, bystanders, List.filter_filter]
  apply List.filter_congr
  intro s member
  rw [Bool.eq_iff_iff]
  simp only [Bool.and_eq_true, decide_eq_true_eq]
  exact and_iff_left_of_imp fun kind =>
    ⟨kind.1, refreshed s member kind.1, fun same => apart (same.symm.trans kind.2)⟩

/-- In front of a newcomer nobody bears more of another kind than before. -/
theorem Admits.length_borne_le (h : Admits statuses new before) {owner : String}
    {type : Option String} (apart : ¬(new.owner = owner ∧ new.type = type)) :
    (borne before owner type).length ≤ (borne statuses owner type).length := by
  by_cases own : new.owner = owner
  · obtain rfl := own
    rw [← borne_bystanders h.refreshed (fun same => apart ⟨rfl, same⟩), h.bystanders]
    exact borne_sublist List.filter_sublist _ _
  · rw [← borne_strangers own, h.strangers, borne_strangers own]

theorem WithinLimit.addLimited (h : WithinLimit statuses) (new : Status) :
    WithinLimit (addLimited statuses new) := by
  intro owner type filled
  by_cases typed : new.isTyped = true
  · obtain ⟨before, result, admits⟩ := addLimited_admits statuses typed
    rw [result]
    by_cases own : new.owner = owner ∧ new.type = some type
    · rw [← own.1, ← own.2]
      exact admits.limited
    · have other : borne [new] owner (some type) = [] :=
        List.filter_eq_nil_iff.mpr (by simpa using own)
      rw [borne_append, other, List.append_nil]
      exact (admits.length_borne_le own).trans (h owner type filled)
  · -- A newcomer whose type does not count is of none of the types that do.
    have other : borne [new] owner (some type) = [] := by
      refine List.filter_eq_nil_iff.mpr fun s member => ?_
      obtain rfl := List.mem_singleton.mp member
      intro kind
      have same : s.type = some type := (of_decide_eq_true kind).2
      exact typed (by simpa [isTyped, same] using filled)
    rw [Status.addLimited, if_pos (by simpa using typed), borne_append, other, List.append_nil]
    exact h owner type filled

theorem WithinLimit.cure (h : WithinLimit statuses) (name owner : Option String) :
    WithinLimit (cure statuses name owner) :=
  h.sublist List.filter_sublist

end Status

/-! ### Tags -/

namespace Scene

variable {c : Scene} {p : Played} {attrs : Fields} {owner : Option String}

theorem applyStatus_limited (h : Status.WithinLimit c.state.statuses)
    (y : Yields (c.applyStatus owner attrs) p) : Status.WithinLimit p.scene.state.statuses := by
  unfold applyStatus at y
  split at y
  · obtain ⟨status, -, y⟩ := y.bind
    obtain rfl := yields_pure.mp y
    exact h.addLimited status
  · obtain rfl := yields_pure.mp y
    exact h

end Scene

/-- A tag that does not tell of statuses leaves them alone. -/
theorem TagKind.play_statuses {kind : TagKind} {attrs : Fields} {c : Scene} {p : Played}
    (distinct : attrs.keys.Nodup) (y : Yields (kind.play attrs c) p) (other : kind ∉ ofStatuses) :
    p.scene.state.statuses = c.state.statuses := by
  by_contra changed
  have left : Framed (· = kind) c.state p.scene.state :=
    .leaves (play_acts distinct y).left rfl
  obtain ⟨_, told, rfl⟩ := left.statuses changed
  exact other told

theorem TagKind.play_limited {kind : TagKind} {attrs : Fields} {c : Scene} {p : Played}
    (h : Status.WithinLimit c.state.statuses) (distinct : attrs.keys.Nodup)
    (y : Yields (kind.play attrs c) p) : Status.WithinLimit p.scene.state.statuses := by
  cases kind with
  | statusAppliedSelf => exact Scene.applyStatus_limited h y
  | statusAppliedNpc => exact Scene.applyStatus_limited h y
  | statusCuredSelf =>
    obtain rfl := yields_pure.mp y
    exact h.cure _ _
  | statusCuredNpc =>
    obtain rfl := yields_pure.mp y
    exact h.cure _ _
  | _ =>
    rw [play_statuses distinct y (by decide)]
    exact h

/-- A newcomer with a type is admitted under the limit, and no narrative takes a state beyond it. -/
theorem statuses_limited :
    (∀ (statuses : List Status) (new : Status), new.isTyped = true →
      ∃ before, Status.addLimited statuses new = before ++ [new] ∧
        Status.Admits statuses new before) ∧
    ∀ (rules : List Rule) (text : String) (s : GameState) (d : Draws),
      Status.WithinLimit s.statuses →
        (∀ i d', interpret rules text s d = (.ok i, d') → Status.WithinLimit i.state.statuses) ∧
        (s.WellKeyed → ∃ i d', interpret rules text s d = (.ok i, d')) := by
  refine ⟨fun statuses new typed => Status.addLimited_admits statuses typed, ?_⟩
  intro rules text s d limited
  refine ⟨fun i d' ok => ?_, fun keyed => interpret_gives keyed rules text d⟩
  refine interpret_keeps (P := fun t _ => Status.WithinLimit t.statuses)
    (fun stage _ kind p _ y _ before => ?_) (fun _ within => within) ?_ limited ok
  · exact TagKind.play_limited before (Keyed.nodup_ofPairs _) y
  · intro t _ done within given
    obtain ⟨known, party, same⟩ := Skill.synchronize_castOnly given
    rw [same]
    exact within

/-- A player with a chill and an ache, both of one type. -/
def shivering : GameState where
  statuses := [{ name := "Chill", type := some "debuff" }, { name := "Ache", type := some "debuff" }]

/-- A fever on top, which comes back. -/
def relapse : String :=
  "[STATUS_APPLIED_SELF: name=Fever type=Debuff][STATUS_APPLIED_SELF: name=Fever type=debuff]"

theorem shivering_limited : Status.WithinLimit shivering.statuses ∧
    (∃ i d', interpret [] relapse shivering {} = (.ok i, d') ∧
      Status.WithinLimit i.state.statuses) ∧
    Status.isTyped { name := "Fever", type := some "debuff" } = true ∧
    ∃ before, Status.addLimited shivering.statuses { name := "Fever", type := some "debuff" } =
        before ++ [{ name := "Fever", type := some "debuff" }] ∧
      Status.Admits shivering.statuses { name := "Fever", type := some "debuff" } before := by
  have within : Status.WithinLimit shivering.statuses := fun owner type _ =>
    List.length_filter_le _ _
  have keyed : shivering.WellKeyed := by decide
  have limited := statuses_limited.2 [] relapse shivering {} within
  obtain ⟨i, d', ok⟩ := limited.2 keyed
  exact ⟨within, ⟨i, d', ok, limited.1 i d' ok⟩, rfl, statuses_limited.1 _ _ rfl⟩

end Gamebook
