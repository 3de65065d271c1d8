import Mathlib.Data.List.Perm.Basic
import Gamebook.Proofs.Number.Units
import Gamebook.World.Realm

/-!
The realm that experience gives. It is a highest among the tiers that are reached, so it follows from
the table as a set, and more experience never leads to a lower one.
-/

namespace Gamebook

namespace RealmTier

variable {exp low high : Number} {tiers other : List RealmTier} {t u : RealmTier}

/-- The requirement of a tier as an amount. -/
def requirement (t : RealmTier) : Number := .float t.requiredExp

/-- Whether a tier is a highest of those that an experience total reaches. -/
structure Leads (exp : Number) (tiers : List RealmTier) (t : RealmTier) : Prop where
  listed : t ∈ tiers
  reached : t.requirement.le exp = true
  highest : ∀ u ∈ tiers, u.requirement.le exp = true → u.requirement.le t.requirement = true

/-- More experience leads at least as high. -/
theorem Leads.mono (h : Leads low tiers t) (more : low.le high = true) (h' : Leads high tiers u) :
    t.requirement.le u.requirement = true :=
  h'.highest t h.listed (Number.le_trans h.reached more)

theorem Leads.perm (h : Leads exp tiers t) (same : tiers.Perm other) : Leads exp other t where
  listed := same.mem_iff.mp h.listed
  reached := h.reached
  highest u member := h.highest u (same.mem_iff.mpr member)

/-- Whether no two tiers of a table have one requirement. -/
def Apart (tiers : List RealmTier) : Prop :=
  tiers.Pairwise fun t u => t.requirement.same u.requirement = false

theorem Leads.unique (apart : Apart tiers) (h : Leads exp tiers t) (h' : Leads exp tiers u) :
    t = u := by
  by_contra different
  have valued := (Number.hasValue_of_le h.reached).1
  have valued' := (Number.hasValue_of_le h'.reached).1
  have up := (Number.le_iff_place valued valued').mp (h'.highest t h.listed h.reached)
  have down := (Number.le_iff_place valued' valued).mp (h.highest u h'.listed h'.reached)
  have same := (Number.same_iff_place valued valued').mpr (le_antisymm up down)
  have _ : Std.Symm fun t u : RealmTier => t.requirement.same u.requirement = false :=
    ⟨fun t u h => (Number.same_comm _ _).trans h⟩
  exact absurd same (Bool.eq_false_iff.mp (apart.forall h.listed h'.listed different))

/-! ### The choice of a tier -/

/-- Of two tiers one is chosen that is as high as either. -/
theorem higherTier_spec (valued : t.requirement.HasValue) (valued' : u.requirement.HasValue) :
    (higherTier t u = t ∨ higherTier t u = u) ∧
      t.requirement.le (higherTier t u).requirement = true ∧
      u.requirement.le (higherTier t u).requirement = true := by
  unfold higherTier
  split_ifs with below
  · exact ⟨.inr rfl, Number.le_of_lt below, Number.le_refl valued'⟩
  · have lower := Number.le_of_not_lt valued valued' (Bool.eq_false_iff.mpr below)
    exact ⟨.inl rfl, Number.le_refl valued, lower⟩

/-- Of all tiers one is chosen that is as high as any. -/
theorem foldl_higherTier (valued : ∀ u ∈ t :: tiers, u.requirement.HasValue) :
    tiers.foldl higherTier t ∈ t :: tiers ∧
      ∀ u ∈ t :: tiers, u.requirement.le (tiers.foldl higherTier t).requirement = true := by
  induction tiers generalizing t with
  | nil =>
    have only := Number.le_refl (valued t List.mem_cons_self)
    exact ⟨List.mem_cons_self, fun u member => List.mem_singleton.mp member ▸ only⟩
  | cons u tiers ih =>
    obtain ⟨first, second, later⟩ := by simpa only [List.forall_mem_cons] using valued
    obtain ⟨one, left, right⟩ := higherTier_spec first second
    have chosen : (higherTier t u).requirement.HasValue := by
      rcases one with same | same <;> rwa [same]
    obtain ⟨member, highest⟩ := ih (List.forall_mem_cons.mpr ⟨chosen, later⟩)
    obtain ⟨top, rest⟩ := List.forall_mem_cons.mp highest
    rw [List.foldl_cons]
    constructor
    · rcases List.mem_cons.mp member with same | member
      · rw [same]
        rcases one with same | same <;> simp [same]
      · exact .tail t (.tail u member)
    · simp only [List.forall_mem_cons]
      exact ⟨Number.le_trans left top, Number.le_trans right top, rest⟩

end RealmTier

open RealmTier (Leads Apart)

variable {exp : Number} {tiers : List RealmTier} {realm : String}

theorem mem_reachedTiers {t : RealmTier} :
    t ∈ reachedTiers exp tiers ↔ t ∈ tiers ∧ t.requirement.le exp = true :=
  List.mem_filter

theorem evaluateRealm_eq_none :
    evaluateRealm exp tiers = none ↔ ∀ t ∈ tiers, t.requirement.le exp = false := by
  have empty : evaluateRealm exp tiers = none ↔ reachedTiers exp tiers = [] := by
    unfold evaluateRealm
    split <;> simp_all
  rw [empty, reachedTiers, List.filter_eq_nil_iff]
  simp only [Bool.not_eq_true]
  rfl

/-- The realm is the name of a tier that leads. -/
theorem exists_leads (h : evaluateRealm exp tiers = some realm) :
    ∃ t, Leads exp tiers t ∧ t.name = realm := by
  unfold evaluateRealm at h
  split at h
  · exact nomatch h
  · rename_i t rest reached
    have valued : ∀ u ∈ t :: rest, u.requirement.HasValue := by
      intro u member
      exact (Number.hasValue_of_le (mem_reachedTiers.mp (reached ▸ member)).2).1
    obtain ⟨member, highest⟩ := RealmTier.foldl_higherTier valued
    obtain ⟨listed, met⟩ := mem_reachedTiers.mp (reached ▸ member)
    refine ⟨_, ⟨listed, met, fun u listed met => ?_⟩, Option.some.inj h⟩
    exact highest u (reached ▸ mem_reachedTiers.mpr ⟨listed, met⟩)

theorem evaluateRealm_perm (apart : Apart tiers) {other : List RealmTier} (same : tiers.Perm other) :
    evaluateRealm exp other = evaluateRealm exp tiers := by
  cases first : evaluateRealm exp tiers with
  | none =>
    rw [evaluateRealm_eq_none] at first ⊢
    exact fun t member => first t (same.mem_iff.mpr member)
  | some realm =>
    obtain ⟨t, leads, rfl⟩ := exists_leads first
    cases second : evaluateRealm exp other with
    | none =>
      have unmet := evaluateRealm_eq_none.mp second t (same.mem_iff.mp leads.listed)
      exact absurd leads.reached (Bool.eq_false_iff.mp unmet)
    | some realm =>
      obtain ⟨u, leads', rfl⟩ := exists_leads second
      rw [leads.unique apart (leads'.perm same.symm)]

/-- Experience gives no realm exactly if it reaches no tier, and else the name of a highest tier that it
reaches. More experience loses no realm and gives none with a lower requirement. Where no two
requirements are the same, the order of the table does not matter. -/
theorem evaluateRealm_highest (tiers : List RealmTier) (exp : Number) :
    (evaluateRealm exp tiers = none ↔ ∀ t ∈ tiers, t.requirement.le exp = false) ∧
      (∀ realm, evaluateRealm exp tiers = some realm → ∃ t, Leads exp tiers t ∧ t.name = realm) ∧
      (∀ more, exp.le more = true →
        (evaluateRealm more tiers = none → evaluateRealm exp tiers = none) ∧
          ∀ t u, Leads exp tiers t → Leads more tiers u →
            t.requirement.le u.requirement = true) ∧
      (Apart tiers → ∀ other, tiers.Perm other →
        evaluateRealm exp other = evaluateRealm exp tiers) := by
  refine ⟨evaluateRealm_eq_none, fun realm => exists_leads, fun more grown => ⟨?_, ?_⟩,
    fun apart other => evaluateRealm_perm apart⟩
  · intro nothing
    rw [evaluateRealm_eq_none] at nothing ⊢
    intro t listed
    by_contra met
    have reached := Number.le_trans (Bool.not_eq_false _ ▸ met) grown
    exact absurd reached (Bool.eq_false_iff.mp (nothing t listed))
  · exact fun t u leads leads' => leads.mono grown leads'

/-- A table of three tiers, out of order. -/
def ladder : List RealmTier :=
  [⟨"Kim Đan", .ofInt 5000⟩, ⟨"Luyện Khí", .ofInt 0⟩, ⟨"Trúc Cơ", .ofInt 1000⟩]

/-- Who is one short of the second tier has the first, however the table is ordered, and climbs from
there. -/
theorem ladder_climbed : (Number.int 999).le (.int 7200) = true ∧ Apart ladder ∧
    evaluateRealm (.int 999) ladder.reverse = some "Luyện Khí" ∧
    (∃ t, Leads (.int 7200) ladder t ∧ t.name = "Kim Đan") ∧
    ∀ t u, Leads (.int 999) ladder t → Leads (.int 7200) ladder u →
      t.requirement.le u.requirement = true := by
  have more : (Number.int 999).le (.int 7200) = true := by decide
  have apart : Apart ladder := by
    unfold Apart
    decide +kernel
  have low : evaluateRealm (.int 999) ladder = some "Luyện Khí" := by decide +kernel
  have high : evaluateRealm (.int 7200) ladder = some "Kim Đan" := by decide +kernel
  obtain ⟨-, -, climbs, stands⟩ := evaluateRealm_highest ladder (.int 999)
  obtain ⟨-, named, -⟩ := evaluateRealm_highest ladder (.int 7200)
  exact ⟨more, apart, (stands apart _ (List.reverse_perm ladder).symm).trans low,
    named "Kim Đan" high, (climbs _ more).2⟩

end Gamebook
