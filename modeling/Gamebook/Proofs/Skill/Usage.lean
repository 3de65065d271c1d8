import Gamebook.Proofs.Cast.Keys
import Gamebook.Proofs.Number.Difference
import Gamebook.Proofs.Skill.Practice
import Gamebook.Skill.Usage

/-!
Experience from use, and what is reported of it. Every skill that an action uses is taken as it was
before the action, so all reports of one skill tell the same gain, while the skill grows by it once. A
skill that stands in the player's list more than once is reported as often.
-/

namespace Gamebook

namespace GameState

variable {s : GameState} {name : String}

/-- Stores entities under their names, one after another. -/
def putAll (s : GameState) (es : List Entity) : GameState :=
  es.foldl (fun t e => t.putKnown e.name e) s

theorem putAll_cons (s : GameState) (e : Entity) (es : List Entity) :
    s.putAll (e :: es) = (s.putKnown e.name e).putAll es := rfl

theorem putAll_rest (s : GameState) (es : List Entity) :
    { s.putAll es with knownEntities := s.knownEntities } = s := by
  induction es generalizing s with
  | nil => rfl
  | cons e es ih => exact congrArg (fun t => { t with knownEntities := s.knownEntities }) (ih _)

theorem keys_putAll {es : List Entity} (known : ∀ e ∈ es, e.name ∈ s.knownEntities.keys) :
    (s.putAll es).knownEntities.keys = s.knownEntities.keys := by
  induction es generalizing s with
  | nil => rfl
  | cons e es ih =>
    have same : (s.putKnown e.name e).knownEntities.keys = s.knownEntities.keys :=
      (Keyed.keys_put _ _ _).trans (if_pos (known e List.mem_cons_self))
    rw [putAll_cons, ih fun x member => same ▸ known x (List.mem_cons_of_mem e member), same]

theorem find?_putAll_of_ne {es : List Entity} (absent : ∀ e ∈ es, e.name ≠ name) :
    (s.putAll es).find? name = s.find? name := by
  induction es generalizing s with
  | nil => rfl
  | cons e es ih =>
    rw [putAll_cons, ih fun x member => absent x (List.mem_cons_of_mem e member)]
    exact Keyed.get?_put_of_ne (absent e List.mem_cons_self)

/-- Of entities that are the same wherever they have the same name, each is found afterwards. -/
theorem find?_putAll {es : List Entity} {e : Entity} (member : e ∈ es)
    (alike : ∀ x ∈ es, x.name = e.name → x = e) : (s.putAll es).find? e.name = some e := by
  induction es generalizing s with
  | nil => exact nomatch member
  | cons first es ih =>
    rw [putAll_cons]
    by_cases later : e ∈ es
    · exact ih later fun x member => alike x (List.mem_cons_of_mem first member)
    · obtain rfl := (List.mem_cons.mp member).resolve_right later
      rw [find?_putAll_of_ne fun x listed same =>
        later (alike x (List.mem_cons_of_mem e listed) same ▸ listed)]
      exact Keyed.get?_put_self _ _ _

end GameState

namespace Skill

open Outcome

variable {s : GameState} {e e' : Entity} {g : Gain} {name : String} {n : Nat}

/-! ### One use -/

/-- By how much the experience of one entity is above that of another, in units. -/
def growth (e e' : Entity) : Int := (expOf e').units - (expOf e).units

/-- What a gain tells of a skill: nothing but the books has changed, and finite experience has grown by
what was gained, told as the nearest double or exactly. -/
structure Tells (e : Entity) (g : Gain) : Prop where
  books : ∃ mastery exp capped eligible, g.skill = booked e mastery exp capped eligible
  finite : (expOf e).IsFinite → (expOf g.skill).IsFinite
  nears : (expOf e).IsFinite → g.expGained.Nears (growth e g.skill)
  exact : (expOf e).Plain → g.expGained.units = growth e g.skill

/-- Experience in ordered books is plain unless it has more binary places than are kept. -/
theorem WellFormed.plain (h : WellFormed e) (fine : (Double.grain : Int) ∣ (expOf e).units) :
    (expOf e).Plain :=
  .inr ⟨h.exp_bounds.1, h.exp_bounds.2.1, fine⟩

theorem expOf_nonzero (e : Entity) : (∃ i, expOf e = .int i) ∨ (expOf e).isZero = false := by
  rw [expOf]
  cases given : Number.nonzero? e.skillExp with
  | none => exact .inl ⟨0, rfl⟩
  | some x => exact .inr (Number.nonzero?_eq_some.mp given).2

theorem Tells.of_cut {reached gained : Number} {mastery : String} {capped eligible : Bool}
    (cut : Number.Cut (expOf e) reached gained) :
    Tells e { skill := booked e mastery reached capped eligible, expGained := gained } := by
  have worth : growth e (booked e mastery reached capped eligible) =
      reached.units - (expOf e).units := by
    rw [growth, units_expOf_booked]
  exact {
    books := ⟨mastery, reached, capped, eligible, rfl⟩
    finite := fun finite => (expOf_of_skillExp rfl).2 (cut.finite finite)
    nears := fun finite => worth ▸ cut.nears finite
    exact := fun plain => worth ▸ cut.exact plain }

/-- A small amount of experience can be added to any skill. -/
theorem exists_addExp (skill : e.kind = .skill) (positive : 0 < n) (few : n < 2 ^ 53) :
    ∃ g, addExp e (.int n) = .ok g ∧ Tells e g := by
  have award : (Number.int n).le (.int 0) = false :=
    Bool.eq_false_iff.mpr fun low => absurd (Number.int_le_int.mp low) (by omega)
  rw [addExp_eq skill award]
  split_ifs with stopped
  · exact ⟨_, rfl, .of_cut (.idle _)⟩
  · have room : (Number.int (threshold (masteryOf e))).le (expOf e) = false :=
      Bool.eq_false_iff.mpr fun full => stopped (Bool.or_eq_true_iff.mpr (.inr full))
    obtain ⟨raised, gained, added, told, cut⟩ := Number.exists_cut positive few
      (threshold_bounds (has_masteryOf e)).2.1 (expOf_nonzero e) room
    exact ⟨_, bind_eq_ok.mpr ⟨raised, ofArithmetic_eq_ok.mpr added,
      bind_eq_ok.mpr ⟨gained, ofArithmetic_eq_ok.mpr told, rfl⟩⟩, .of_cut cut⟩

/-- What a skill gains from one use. -/
def gainFrom (n : Nat) (e : Entity) : Gain := (addExp e (.int n)).toOption.getD { skill := e }

theorem gainFrom_spec (skill : e.kind = .skill) (positive : 0 < n) (few : n < 2 ^ 53) :
    addExp e (.int n) = .ok (gainFrom n e) ∧ Tells e (gainFrom n e) := by
  obtain ⟨g, grown, tells⟩ := exists_addExp skill positive few
  have own : gainFrom n e = g := by
    rw [gainFrom, grown]
    rfl
  exact own ▸ ⟨grown, tells⟩

theorem Tells.skill_name (h : Tells e g) : g.skill.name = e.name := by
  obtain ⟨mastery, exp, capped, eligible, same⟩ := h.books
  rw [same]
  rfl

theorem usageGain_bounds (text : String) : 0 < usageGain text ∧ usageGain text < 2 ^ 53 := by
  simp only [usageGain]
  split_ifs <;> decide

/-! ### All uses -/

/-- The skills that the player has learned, as the list has them. -/
def learnedNames (s : GameState) : List String := (s.pc?.map (·.learnedSkills)).getD []

theorem learnedEntities_eq (s : GameState) :
    learnedEntities s = (learnedNames s).filterMap s.find? := by
  rw [learnedEntities, learnedNames]
  cases s.pc? <;> rfl

/-- The skills to which an action awards experience, as often as it does. -/
def rewarded (s : GameState) (action : String) : List Entity :=
  (usedIn action (learnedEntities s)).filter canGain

/-- How often an action awards experience to an entity: as often as the player's list has a skill that
the action uses and that is not capped. -/
def uses (s : GameState) (action : String) (e : Entity) : Nat :=
  if isUsedIn (Text.lower action) e && canGain e then (learnedNames s).count e.name else 0

theorem mem_rewarded {action : String} (member : e ∈ rewarded s action) :
    e.kind = .skill ∧ ∃ name, s.find? name = some e := by
  obtain ⟨used, can⟩ := List.mem_filter.mp member
  have learned : e ∈ learnedEntities s := (List.mem_filter.mp used).1
  rw [learnedEntities_eq] at learned
  obtain ⟨name, -, found⟩ := List.mem_filterMap.mp learned
  exact ⟨of_decide_eq_true (Bool.and_eq_true_iff.mp can).1, name, found⟩

/-- The entities of a name among those that are looked up are the one that is found, as often as the
name is asked for. -/
theorem filter_filterMap_find? (keyed : s.WellKeyed) (found : s.find? name = some e)
    (names : List String) :
    (names.filterMap s.find?).filter (·.name = name) = List.replicate (names.count name) e := by
  induction names with
  | nil => rfl
  | cons first names ih =>
    by_cases same : first = name
    · subst same
      have own : decide (e.name = first) = true := decide_eq_true (keyed.name_eq found)
      rw [List.filterMap_cons_some found, List.filter_cons, if_pos own, ih, List.count_cons_self,
        List.replicate_succ]
    · rw [List.count_cons_of_ne same, ← ih]
      cases other : s.find? first with
      | none => rw [List.filterMap_cons_none other]
      | some x =>
        have apart : ¬decide (x.name = name) = true := by
          rw [decide_eq_true_iff, keyed.name_eq other]
          exact same
        rw [List.filterMap_cons_some other, List.filter_cons, if_neg apart]

theorem filter_rewarded (keyed : s.WellKeyed) (found : s.find? name = some e) (action : String) :
    (rewarded s action).filter (·.name = name) = List.replicate (uses s action e) e := by
  have order : (rewarded s action).filter (·.name = name) =
      ((learnedEntities s).filter (·.name = name)).filter fun x =>
        isUsedIn (Text.lower action) x && canGain x := by
    simp only [rewarded, usedIn, List.filter_filter]
    exact List.filter_congr fun x _ => by ac_rfl
  rw [order, learnedEntities_eq, filter_filterMap_find? keyed found, List.filter_replicate, uses,
    keyed.name_eq found]
  split_ifs <;> rfl

/-- What an action is reported to award. -/
def results (s : GameState) (action : String) : List Gain :=
  (rewarded s action).map (gainFrom (usageGain action))

theorem mem_results {action : String} (keyed : s.WellKeyed) (member : g ∈ results s action) :
    ∃ e, e.kind = .skill ∧ s.find? g.skill.name = some e ∧ Tells e g := by
  obtain ⟨e, listed, rfl⟩ := List.mem_map.mp member
  obtain ⟨skill, name, found⟩ := mem_rewarded listed
  obtain ⟨positive, few⟩ := usageGain_bounds action
  have tells := (gainFrom_spec skill positive few).2
  refine ⟨e, skill, ?_, tells⟩
  rwa [tells.skill_name, keyed.name_eq found]

/-- All reports of a name are the one of the entity that is found under it. -/
theorem filter_results (keyed : s.WellKeyed) (found : s.find? name = some e) (action : String) :
    (results s action).filter (·.skill.name = name) =
      List.replicate (uses s action e) (gainFrom (usageGain action) e) := by
  obtain ⟨positive, few⟩ := usageGain_bounds action
  rw [results, List.filter_map, ← List.map_replicate, ← filter_rewarded keyed found]
  refine congrArg _ (List.filter_congr fun x member => ?_)
  rw [Function.comp_apply, (gainFrom_spec (mem_rewarded member).1 positive few).2.skill_name]

theorem mem_results_iff {action : String} (keyed : s.WellKeyed) (found : s.find? name = some e) :
    g ∈ results s action ∧ g.skill.name = name ↔
      uses s action e ≠ 0 ∧ g = gainFrom (usageGain action) e := by
  rw [← List.mem_replicate, ← filter_results keyed found, List.mem_filter, decide_eq_true_eq]

/-- The awards of an action: each skill is stored as it comes of its state before the action. -/
theorem awardUsage_eq (s : GameState) (action : String) :
    awardUsage s action =
      .ok (s.putAll ((results s action).map (·.skill)), results s action) := by
  obtain ⟨positive, few⟩ := usageGain_bounds action
  have run (es : List Entity) (acc : GameState × List Gain) :
      es.foldlM (awardOne (usageGain action)) acc =
        .ok (acc.1.putAll ((es.filter canGain).map fun e => (gainFrom (usageGain action) e).skill),
          acc.2 ++ (es.filter canGain).map (gainFrom (usageGain action))) := by
    induction es generalizing acc with
    | nil => exact congrArg Except.ok (Prod.ext rfl (List.append_nil _).symm)
    | cons e es ih =>
      rw [List.foldlM_cons, awardOne]
      by_cases can : canGain e = true
      · obtain ⟨grown, tells⟩ :=
          gainFrom_spec (of_decide_eq_true (Bool.and_eq_true_iff.mp can).1) positive few
        rw [if_pos can, grown, List.filter_cons_of_pos can, List.map_cons, List.map_cons,
          GameState.putAll_cons, tells.skill_name, List.append_cons]
        exact ih _
      · rw [if_neg can, List.filter_cons_of_neg can]
        exact ih acc
  rw [results, List.map_map]
  exact run _ _

theorem find?_unused {action : String} (keyed : s.WellKeyed) (found : s.find? name = some e)
    (unused : uses s action e = 0) :
    (s.putAll ((results s action).map (·.skill))).find? name = some e := by
  rw [GameState.find?_putAll_of_ne, found]
  intro x stored same
  obtain ⟨g, member, rfl⟩ := List.mem_map.mp stored
  exact ((mem_results_iff keyed found).mp ⟨member, same⟩).1 unused

theorem find?_used {action : String} (keyed : s.WellKeyed) (found : s.find? name = some e)
    (used : uses s action e ≠ 0) :
    (s.putAll ((results s action).map (·.skill))).find? name =
      some (gainFrom (usageGain action) e).skill := by
  obtain ⟨member, same⟩ := (mem_results_iff keyed found).mpr ⟨used, rfl⟩
  -- the skill may be stored more than once, but always as the same entity
  have alike : ∀ x ∈ (results s action).map (·.skill),
      x.name = (gainFrom (usageGain action) e).skill.name →
        x = (gainFrom (usageGain action) e).skill := by
    intro x stored like
    obtain ⟨g, listed, rfl⟩ := List.mem_map.mp stored
    rw [((mem_results_iff keyed found).mp ⟨listed, like.trans same⟩).2]
  exact same ▸ GameState.find?_putAll (List.mem_map_of_mem member) alike

/-- What is reported of an entity that an action has made of another: it is as before unless it is
reported, and as every report tells. -/
structure Reported (s : GameState) (action : String) (e e' : Entity) (told : List Gain) : Prop where
  often : told.length = uses s action e
  skill : told ≠ [] → e.kind = .skill
  unmoved : told = [] → e' = e
  tells : ∀ g ∈ told, g.skill = e' ∧ Tells e g
  sum : (expOf e).Plain → ((told.map (·.expGained.units)).sum = growth e e' ↔
    uses s action e ≤ 1 ∨ growth e e' = 0)

theorem growth_self (e : Entity) : growth e e = 0 := sub_self _

theorem reported_of_replicate {action : String} (skill : uses s action e ≠ 0 → e.kind = .skill)
    (unmoved : uses s action e = 0 → e' = e)
    (tells : uses s action e ≠ 0 → g.skill = e' ∧ Tells e g) :
    Reported s action e e' (List.replicate (uses s action e) g) where
  often := List.length_replicate
  skill some := skill fun none => some (none ▸ rfl)
  unmoved none := unmoved (List.replicate_eq_nil_iff g |>.mp none)
  tells _ member := by
    obtain ⟨some, rfl⟩ := List.mem_replicate.mp member
    exact tells some
  sum plain := by
    rw [List.map_replicate, List.sum_replicate, nsmul_eq_mul]
    by_cases some : uses s action e = 0
    · rw [some, unmoved some, growth_self]
      simp
    · obtain ⟨rfl, told⟩ := tells some
      rw [told.exact plain]
      constructor
      · intro same
        have split : ((uses s action e : Int) - 1) * growth e g.skill = 0 := by
          rw [sub_mul, same, one_mul, sub_self]
        exact (mul_eq_zero.mp split).imp_left fun once => by omega
      · rintro (once | none)
        · rw [show uses s action e = 1 by omega, Nat.cast_one, one_mul]
        · rw [none, mul_zero]

/-- An action awards experience without failing. It changes nothing but known skills, each of which is
afterwards what its reports tell: its finite experience has grown by the reported gain, as the nearest
double or exactly. The reports of a skill add up to its growth exactly if it is reported no more than
once or gains nothing; it is reported as often as the player's list has it. -/
theorem awardUsage_reports (keyed : s.WellKeyed) (action : String) : ∃ s' gains,
    awardUsage s action = .ok (s', gains) ∧
    { s' with knownEntities := s.knownEntities } = s ∧
    s'.knownEntities.keys = s.knownEntities.keys ∧
    ∀ name e, s.find? name = some e → ∃ e', s'.find? name = some e' ∧
      Reported s action e e' (gains.filter (·.skill.name = name)) := by
  refine ⟨_, _, awardUsage_eq s action, s.putAll_rest _, GameState.keys_putAll ?_, ?_⟩
  · intro x stored
    obtain ⟨g, member, rfl⟩ := List.mem_map.mp stored
    obtain ⟨e, -, found, -⟩ := mem_results keyed member
    exact Keyed.mem_keys_of_get? found
  · intro name e found
    rw [filter_results keyed found]
    by_cases unused : uses s action e = 0
    · exact ⟨e, find?_unused keyed found unused,
        reported_of_replicate (absurd unused) (fun _ => rfl) (absurd unused)⟩
    · obtain ⟨member, same⟩ := (mem_results_iff keyed found).mpr ⟨unused, rfl⟩
      obtain ⟨x, skill, held, tells⟩ := mem_results keyed member
      obtain rfl : x = e := Option.some.inj (held.symm.trans (same ▸ found))
      exact ⟨_, find?_used keyed found unused,
        reported_of_replicate (fun _ => skill) (absurd · unused) fun _ => ⟨rfl, tells⟩⟩

/-- A player with a list of skills, and a sword skill with some experience. -/
def dojo (learned : List String) (exp : Number) : GameState where
  knownEntities :=
    [("Lan", { name := "Lan", kind := .pc, learnedSkills := learned }), ("Kiếm", swordplay exp)]

/-- Half a point grows to five and a half, and five are reported. -/
theorem dojo_reports : (dojo ["Bộ", "Kiếm"] (.float (.ofRatio 1 2))).WellKeyed ∧ ∃ s' gains e',
    awardUsage (dojo ["Bộ", "Kiếm"] (.float (.ofRatio 1 2))) "Kiếm" = .ok (s', gains) ∧
    s'.find? "Kiếm" = some e' ∧
    ((gains.filter (·.skill.name = "Kiếm")).map (·.expGained.units)).sum =
      growth (swordplay (.float (.ofRatio 1 2))) e' := by
  have keyed : (dojo ["Bộ", "Kiếm"] (.float (.ofRatio 1 2))).WellKeyed := by decide
  have ordered : WellFormed (swordplay (.float (.ofRatio 1 2))) :=
    wellFormed_swordplay (by decide +kernel) (by decide +kernel) (by decide +kernel)
  have once : uses (dojo ["Bộ", "Kiếm"] (.float (.ofRatio 1 2))) "Kiếm"
      (swordplay (.float (.ofRatio 1 2))) ≤ 1 := by
    decide +kernel
  obtain ⟨s', gains, ok, -, -, reports⟩ := awardUsage_reports keyed "Kiếm"
  obtain ⟨e', found, reported⟩ := reports "Kiếm" (swordplay (.float (.ofRatio 1 2))) rfl
  exact ⟨keyed, s', gains, e', ok, found,
    (reported.sum (ordered.plain (by decide +kernel))).mpr (.inl once)⟩

/-- A skill that stands in the list twice is reported to gain five points twice, and has five. -/
theorem relearned_reported_twice : (dojo ["Kiếm", "Kiếm"] (.int 0)).WellKeyed ∧ ∃ s' gains e',
    awardUsage (dojo ["Kiếm", "Kiếm"] (.int 0)) "Kiếm" = .ok (s', gains) ∧
    s'.find? "Kiếm" = some e' ∧
    ((gains.filter (·.skill.name = "Kiếm")).map (·.expGained.units)).sum = 10 * unitsPerOne ∧
    growth (swordplay (.int 0)) e' = 5 * unitsPerOne := by
  have known : (awardUsage (dojo ["Kiếm", "Kiếm"] (.int 0)) "Kiếm").toOption.any (fun done =>
      (done.1.find? "Kiếm").any fun e' =>
        ((done.2.filter (·.skill.name = "Kiếm")).map (·.expGained.units)).sum = 10 * unitsPerOne ∧
        growth (swordplay (.int 0)) e' = 5 * unitsPerOne) = true := by
    decide +kernel
  obtain ⟨⟨s', gains⟩, ok, stands⟩ := exists_ok known
  obtain ⟨e', found, told⟩ := (Option.any_eq_true _ _).mp stands
  exact ⟨by decide, s', gains, e', ok, found, of_decide_eq_true told⟩

end Skill

end Gamebook
