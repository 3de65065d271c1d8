import Mathlib.Tactic.Basic
import Gamebook.Entity.Record
import Gamebook.Proofs.Keyed

/-!
What an entity that was read took from its fields, one after another: its name and its kind stand
there as texts, its reference id as a text or as nothing. For an entity with attributes laid over it,
each comes from the attributes or else from the entity.
-/

namespace Gamebook

namespace Checked

variable {α β : Type}

theorem map_eq_ok {f : α → β} {x : Checked α} {b : β} :
    (f <$> x) = .ok b ↔ ∃ a, x = .ok a ∧ f a = b := by
  change Checked.map f x = .ok b ↔ _
  cases x <;> simp [Checked.map]

theorem seq_eq_ok {f : Checked (α → β)} {x : Checked α} {b : β} :
    (f <*> x) = .ok b ↔ ∃ g, f = .ok g ∧ ∃ a, x = .ok a ∧ g a = b := by
  change Checked.apply f x = .ok b ↔ _
  cases f <;> cases x <;> simp [Checked.apply]

theorem andThen_eq_ok {x : Checked α} {f : α → Checked β} {b : β} :
    x.andThen f = .ok b ↔ ∃ a, x = .ok a ∧ f a = .ok b := by
  cases x <;> simp [Checked.andThen]

theorem within_eq_ok {step : String} {x : Checked α} {a : α} :
    x.within step = .ok a ↔ x = .ok a := by
  cases x <;> simp [Checked.within]

theorem require_eq_ok {cond : Bool} {a b : α} :
    require cond a = .ok b ↔ cond = true ∧ a = b := by
  cases cond <;> simp [require, fault]

theorem ofOption_eq_ok {x : Option α} {a : α} : ofOption x = .ok a ↔ x = some a := by
  cases x <;> simp [ofOption, fault]

/-- Whether a value that passed its checks has a property. -/
def Each (P : α → Prop) (x : Checked α) : Prop := ∀ a, x = .ok a → P a

theorem Each.seq {P : β → Prop} {f : Checked (α → β)} {x : Checked α}
    (h : f.Each fun g => ∀ a, x = .ok a → P (g a)) : (f <*> x).Each P := by
  intro b ok
  obtain ⟨g, first, a, second, rfl⟩ := seq_eq_ok.mp ok
  exact h g first a second

end Checked

open Checked

theorem Fields.need_eq_ok {α : Type} {fields : Fields} {name : String} {read : Value → Checked α}
    {a : α} : fields.need ⟨name, none⟩ read = .ok a ↔
      ∃ v, fields.get? name = some v ∧ read v = .ok a := by
  rw [need, Label.find?]
  cases fields.get? name with
  | none => simp
  | some v => simp [within_eq_ok]

theorem Fields.get_eq_ok {α : Type} {fields : Fields} {label : Label} {read : Value → Checked α}
    {default a : α} {v : Value} (given : fields.get? label.short = some v) :
    fields.get label read default = .ok a ↔ read v = .ok a := by
  rw [get, Label.find?, given]
  exact within_eq_ok

/-- Nothing is left over of fields that all have short names. -/
theorem Fields.leftOver_eq_nil {fields : Fields} {labels : List Label}
    (named : fields.keys ⊆ labels.map (·.short)) : fields.leftOver labels = [] := by
  refine List.filter_eq_nil_iff.mpr fun pair member => ?_
  have present : pair.1 ∈ fields.keys := List.mem_map_of_mem member
  obtain ⟨label, listed, short⟩ := List.mem_map.mp (named present)
  obtain ⟨v, found⟩ := Keyed.exists_of_mem_keys present
  have taken : label.find? fields = some (pair.1, v) := by rw [Label.find?, short, found]
  simpa using ⟨label, listed, v, taken⟩

theorem Read.text_eq_ok {v : Value} {s : String} : Read.text v = .ok s ↔ v = .text s := by
  cases v <;> simp [Read.text, fault]

theorem Read.nonEmpty_eq_ok {v : Value} {s : String} :
    Read.nonEmpty v = .ok s ↔ v = .text s ∧ s.isEmpty = false := by
  simp only [Read.nonEmpty, andThen_eq_ok, Read.text_eq_ok, require_eq_ok, Bool.not_eq_true']
  constructor
  · rintro ⟨_, rfl, filled, rfl⟩
    exact ⟨rfl, filled⟩
  · rintro ⟨rfl, filled⟩
    exact ⟨s, rfl, filled, rfl⟩

theorem Read.nonEmpty_text {s : String} (filled : s ≠ "") : nonEmpty (.text s) = .ok s :=
  nonEmpty_eq_ok.mpr ⟨rfl, by simpa using filled⟩

theorem Read.optional_opt {α : Type} {read : Value → Checked α} {write : α → Value}
    (same : ∀ a, optional read (write a) = .ok (some a)) (x : Option α) :
    optional read (.opt write x) = .ok x := by
  cases x with
  | none => rfl
  | some a => exact same a

/-- A field holds one text only. -/
theorem Value.text_of_field {a b : String} (h : some (Value.text a) = some (.text b)) : a = b :=
  Value.text.inj (Option.some.inj h)

namespace EntityKind

theorem ofName?_eq_some {s : String} {kind : EntityKind} (h : ofName? s = some kind) :
    kind.name = s := by
  simpa using List.find?_some h

theorem name_injective {a b : EntityKind} (h : a.name = b.name) : a = b := by
  revert h
  cases a <;> cases b <;> decide

theorem eq_of_field {a b : EntityKind} (h : some (Value.text a.name) = some (.text b.name)) :
    a = b :=
  name_injective (Value.text_of_field h)

end EntityKind

theorem Read.entityKind_eq_ok {v : Value} {kind : EntityKind}
    (h : Read.entityKind v = .ok kind) : v = .text kind.name := by
  simp only [Read.entityKind, andThen_eq_ok, Read.text_eq_ok, ofOption_eq_ok] at h
  obtain ⟨s, rfl, known⟩ := h
  rw [EntityKind.ofName?_eq_some known]

namespace Entity

variable {e updated : Entity} {fields attributes : Fields}

/-- Whether every field of an entity is what is read for it, and the rest is what is left over. -/
structure ReadFrom (f : Fields) (e : Entity) : Prop where
  name : f.need "name" Read.nonEmpty = .ok e.name
  kind : f.need "type" Read.entityKind = .ok e.kind
  description : f.get "description" Read.text "" = .ok e.description
  referenceId : f.get ⟨"referenceId", some "reference_id"⟩ (Read.optional Read.text) none =
    .ok e.referenceId
  owner : f.get "owner" (Read.optional Read.text) none = .ok e.owner
  quantities : f.get "quantities" (Read.optional Read.number) none = .ok e.quantities
  uses : f.get "uses" (Read.optional Read.number) none = .ok e.uses
  durability : f.get "durability" (Read.optional Read.number) none = .ok e.durability
  equippable : f.get "equippable" Read.bool false = .ok e.equippable
  equipped : f.get "equipped" Read.bool false = .ok e.equipped
  usable : f.get "usable" Read.bool false = .ok e.usable
  consumable : f.get "consumable" Read.bool false = .ok e.consumable
  learnedSkills : f.get ⟨"learnedSkills", some "learned_skills"⟩ Read.skillList [] =
    .ok e.learnedSkills
  skills : f.get "skills" Read.skillList [] = .ok e.skills
  currentExp : f.get ⟨"currentExp", some "current_exp"⟩ (Read.optional Read.number) none =
    .ok e.currentExp
  realm : f.get "realm" (Read.optional Read.text) none = .ok e.realm
  relationship : f.get "relationship" (Read.optional Read.text) none = .ok e.relationship
  motivation : f.get "motivation" (Read.optional Read.text) none = .ok e.motivation
  learnable : f.get "learnable" Read.bool false = .ok e.learnable
  mastery : f.get "mastery" (Read.optional Read.text) none = .ok e.mastery
  skillExp : f.get ⟨"skillExp", some "skill_exp"⟩ (Read.optional Read.number) none = .ok e.skillExp
  maxSkillExp : f.get ⟨"maxSkillExp", some "max_skill_exp"⟩ (Read.optional Read.number) none =
    .ok e.maxSkillExp
  skillCapped : f.get ⟨"skillCapped", some "skill_capped"⟩ Read.bool false = .ok e.skillCapped
  breakthroughEligible : f.get ⟨"breakthroughEligible", some "breakthrough_eligible"⟩ Read.bool
    false = .ok e.breakthroughEligible
  discoveredAt : f.get ⟨"discoveredAt", some "discovered_at"⟩ (Read.optional Read.int) none =
    .ok e.discoveredAt
  lastMentioned : f.get ⟨"lastMentioned", some "last_mentioned"⟩ (Read.optional Read.int) none =
    .ok e.lastMentioned
  archived : f.get "archived" Read.bool false = .ok e.archived
  extras : f.leftOver labels = e.extras

/-- An entity is read field by field; no later field changes an earlier one. -/
theorem ofFields_eq_ok : ofFields fields = .ok e ↔ e.ReadFrom fields := by
  constructor
  · suffices reads : (ofFields fields).Each (ReadFrom fields) from reads e
    rw [ofFields]
    iterate 27 refine .seq ?_
    intro make begun
    obtain ⟨name, named, rfl⟩ := map_eq_ok.mp begun
    intros
    constructor
    case extras => exact Checked.ok.inj ‹_›
    all_goals assumption
  · intro r
    rw [ofFields, r.name, r.kind, r.description, r.referenceId, r.owner, r.quantities, r.uses,
      r.durability, r.equippable, r.equipped, r.usable, r.consumable, r.learnedSkills, r.skills,
      r.currentExp, r.realm, r.relationship, r.motivation, r.learnable, r.mastery, r.skillExp,
      r.maxSkillExp, r.skillCapped, r.breakthroughEligible, r.discoveredAt, r.lastMentioned,
      r.archived, r.extras]
    rfl

/-! ### Names and kinds -/

theorem ofFields_name (h : ofFields fields = .ok e) : fields.get? "name" = some (.text e.name) := by
  obtain ⟨v, given, readName⟩ := Fields.need_eq_ok.mp (ofFields_eq_ok.mp h).name
  obtain ⟨rfl, -⟩ := Read.nonEmpty_eq_ok.mp readName
  exact given

theorem ofFields_kind (h : ofFields fields = .ok e) :
    fields.get? "type" = some (.text e.kind.name) := by
  obtain ⟨v, given, readKind⟩ := Fields.need_eq_ok.mp (ofFields_eq_ok.mp h).kind
  rw [given, Read.entityKind_eq_ok readKind]

theorem get?_toFields_name (e : Entity) : e.toFields.get? "name" = some (.text e.name) := rfl

theorem get?_toFields_kind (e : Entity) : e.toFields.get? "type" = some (.text e.kind.name) := rfl

/-- The name of an updated entity is the one given, if any. -/
theorem merged_name (distinct : (Keyed.keys attributes).Nodup)
    (h : e.merged attributes = .ok updated) :
    (Keyed.get? attributes "name").or (some (.text e.name)) = some (.text updated.name) := by
  rw [← get?_toFields_name e, ← Keyed.get?_update distinct]
  exact ofFields_name h

/-- The kind of an updated entity is the one given, if any. -/
theorem merged_kind (distinct : (Keyed.keys attributes).Nodup)
    (h : e.merged attributes = .ok updated) :
    (Keyed.get? attributes "type").or (some (.text e.kind.name)) =
      some (.text updated.kind.name) := by
  rw [← get?_toFields_kind e, ← Keyed.get?_update distinct]
  exact ofFields_kind h

/-! ### Reference ids -/

theorem optional_text_eq_ok {v : Value} {s : Option String}
    (h : Read.optional Read.text v = .ok s) : v = .opt .text s := by
  cases v with
  | null =>
    obtain rfl := Checked.ok.inj h
    rfl
  | text t =>
    obtain rfl := Checked.ok.inj h
    rfl
  | _ => exact nomatch h

theorem optText_injective {s t : Option String} (h : Value.opt .text s = .opt .text t) : s = t := by
  cases s <;> cases t <;> cases h <;> rfl

theorem ofFields_id {v : Value} (h : ofFields fields = .ok e)
    (given : fields.get? "referenceId" = some v) : v = .opt .text e.referenceId :=
  optional_text_eq_ok ((Fields.get_eq_ok given).mp (ofFields_eq_ok.mp h).referenceId)

theorem get?_toFields_id (e : Entity) :
    e.toFields.get? "referenceId" = some (.opt .text e.referenceId) := rfl

/-- The id of an updated entity is the one given, if any. -/
theorem merged_id (distinct : (Keyed.keys attributes).Nodup)
    (h : e.merged attributes = .ok updated) :
    (Keyed.get? attributes "referenceId").or (some (.opt .text e.referenceId)) =
      some (.opt .text updated.referenceId) := by
  rw [← get?_toFields_id e, ← Keyed.get?_update distinct]
  cases given : (Keyed.update e.toFields attributes).get? "referenceId" with
  | none =>
    rw [Keyed.get?_update distinct, get?_toFields_id, Option.or_eq_none_iff] at given
    exact nomatch given.2
  | some v => rw [ofFields_id h given]

theorem referenceId_of_read {id : String} (h : ofFields fields = .ok e)
    (issued : fields.get? "referenceId" = some (.text id)) : e.referenceId = some id :=
  (optText_injective (s := some id) (ofFields_id h issued)).symm

theorem referenceId_of_merged {id : String} (distinct : (Keyed.keys attributes).Nodup)
    (h : e.merged attributes = .ok updated)
    (issued : Keyed.get? attributes "referenceId" = some (.text id)) :
    updated.referenceId = some id := by
  have same := merged_id distinct h
  rw [issued, Option.some_or] at same
  exact (optText_injective (s := some id) (Option.some.inj same)).symm

/-! ### Experience -/

theorem get?_toFields_currentExp (e : Entity) :
    e.toFields.get? "currentExp" = some (.opt .ofNumber e.currentExp) := rfl

theorem read_ofNumber (x : Number) :
    Read.optional Read.number (.ofNumber x) = .ok (some x) := by
  cases x <;> rfl

/-- The experience of an updated entity is as before, unless it is given. -/
theorem merged_currentExp (distinct : (Keyed.keys attributes).Nodup)
    (h : e.merged attributes = .ok updated) (untold : attributes.get? "currentExp" = none) :
    updated.currentExp = e.currentExp := by
  have given : (Keyed.update e.toFields attributes).get? "currentExp" =
      some (.opt .ofNumber e.currentExp) := by
    rw [Keyed.get?_update distinct, untold, Option.none_or, get?_toFields_currentExp]
  have kept := (Fields.get_eq_ok given).mp (ofFields_eq_ok.mp h).currentExp
  rw [Read.optional_opt read_ofNumber] at kept
  exact (Checked.ok.inj kept).symm

end Entity

end Gamebook
