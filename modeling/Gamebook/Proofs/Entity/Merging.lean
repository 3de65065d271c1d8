import Mathlib
import Gamebook.Proofs.Entity.Reading

/-!
Attributes laid over an entity change what they name and nothing else. What is written of an entity is
read back as it was, so a field that no attribute names stays; a field that is named is read anew, to the
same value each time. The extras go the same way, except that an objective among them comes back spelled
out as an object.
-/

namespace Gamebook

/-! ### Objectives spelled out -/

namespace Value

mutual

/-- Whether a value holds no objective that is not spelled out. -/
def isPlain : Value → Bool
  | .objective _ => false
  | .list items => itemsPlain items
  | .object fields => fieldsPlain fields
  | _ => true

def itemsPlain : List Value → Bool
  | [] => true
  | v :: rest => v.isPlain && itemsPlain rest

def fieldsPlain : List (String × Value) → Bool
  | [] => true
  | (_, v) :: rest => v.isPlain && fieldsPlain rest

end

mutual

theorem isPlain_spelledOut : ∀ v : Value, v.spelledOut.isPlain = true
  | .objective _ => rfl
  | .list items => itemsPlain_spelledOut items
  | .object fields => fieldsPlain_spelledOut fields
  | .null | .bool _ | .int _ | .float _ | .text _ => rfl

theorem itemsPlain_spelledOut : ∀ items : List Value, itemsPlain (spelledOutItems items) = true
  | [] => rfl
  | v :: rest => Bool.and_eq_true_iff.mpr ⟨isPlain_spelledOut v, itemsPlain_spelledOut rest⟩

theorem fieldsPlain_spelledOut :
    ∀ fields : List (String × Value), fieldsPlain (spelledOutFields fields) = true
  | [] => rfl
  | (_, v) :: rest => Bool.and_eq_true_iff.mpr ⟨isPlain_spelledOut v, fieldsPlain_spelledOut rest⟩

end

mutual

theorem spelledOut_of_isPlain : ∀ v : Value, v.isPlain = true → v.spelledOut = v
  | .objective _, plain => nomatch plain
  | .list items, plain => congrArg Value.list (spelledOutItems_of_plain items plain)
  | .object fields, plain => congrArg Value.object (spelledOutFields_of_plain fields plain)
  | .null, _ | .bool _, _ | .int _, _ | .float _, _ | .text _, _ => rfl

theorem spelledOutItems_of_plain :
    ∀ items : List Value, itemsPlain items = true → spelledOutItems items = items
  | [], _ => rfl
  | v :: rest, plain => by
    obtain ⟨first, later⟩ := Bool.and_eq_true_iff.mp plain
    rw [spelledOutItems, spelledOut_of_isPlain v first, spelledOutItems_of_plain rest later]

theorem spelledOutFields_of_plain :
    ∀ fields : List (String × Value), fieldsPlain fields = true → spelledOutFields fields = fields
  | [], _ => rfl
  | (key, v) :: rest, plain => by
    obtain ⟨first, later⟩ := Bool.and_eq_true_iff.mp plain
    rw [spelledOutFields, spelledOut_of_isPlain v first, spelledOutFields_of_plain rest later]

end

theorem spelledOut_spelledOut (v : Value) : v.spelledOut.spelledOut = v.spelledOut :=
  spelledOut_of_isPlain _ (isPlain_spelledOut v)

theorem spelledOutFields_eq_self_iff {fields : Fields} :
    spelledOutFields fields = fields ↔ fieldsPlain fields = true :=
  ⟨fun same => same ▸ fieldsPlain_spelledOut fields, spelledOutFields_of_plain fields⟩

theorem spelledOutFields_eq_map (fields : Fields) :
    spelledOutFields fields = fields.map fun pair => (pair.1, pair.2.spelledOut) := by
  induction fields with
  | nil => rfl
  | cons pair fields ih => rw [spelledOutFields, ih, List.map_cons]

theorem get?_spelledOutFields (fields : Fields) (key : String) :
    Keyed.get? (spelledOutFields fields) key = (fields.get? key).map spelledOut := by
  rw [spelledOutFields_eq_map]
  exact Keyed.get?_map spelledOut fields key

theorem keys_spelledOutFields (fields : Fields) :
    Keyed.keys (spelledOutFields fields) = fields.keys := by
  rw [spelledOutFields_eq_map]
  exact Keyed.keys_map spelledOut fields

end Value

/-! ### Fields -/

theorem Label.find?_of_get? {label : Label} {fields : Fields} {v : Value}
    (given : fields.get? label.short = some v) : label.find? fields = some (label.short, v) := by
  rw [find?, given]

namespace Fields

variable {f g : Fields} {label : Label}

theorem find?_congr (given : label.short ∈ f.keys)
    (same : g.get? label.short = f.get? label.short) : label.find? g = label.find? f := by
  obtain ⟨v, found⟩ := Keyed.exists_of_mem_keys given
  rw [Label.find?_of_get? found, Label.find?_of_get? (same.trans found)]

theorem get_congr {α : Type} {read : Value → Checked α} {default : α}
    (given : label.short ∈ f.keys) (same : g.get? label.short = f.get? label.short) :
    g.get label read default = f.get label read default := by
  rw [get, get, find?_congr given same]

theorem need_congr {α : Type} {read : Value → Checked α} (given : label.short ∈ f.keys)
    (same : g.get? label.short = f.get? label.short) : g.need label read = f.need label read := by
  rw [need, need, find?_congr given same]

/-- Where every field has its short name, what is left over is what has none of them. -/
theorem leftOver_of_full {labels : List Label} (full : ∀ label ∈ labels, label.short ∈ f.keys) :
    f.leftOver labels = f.without (labels.map (·.short)) := by
  rw [leftOver, ← List.filterMap_eq_map]
  congr 1
  refine List.filterMap_congr fun label listed => ?_
  obtain ⟨v, found⟩ := Keyed.exists_of_mem_keys (full label listed)
  rw [Label.find?_of_get? found]
  rfl

end Fields

/-! ### Entities -/

namespace Entity

variable {e updated : Entity} {fields bag f g : Fields}

/-- The names under which the fields of an entity are written. -/
def wireNames : List String := labels.map (·.short)

/-- Whether an entity may have been read: it has a name, and its extras have names of their own. -/
structure Valid (e : Entity) : Prop where
  named : e.name ≠ ""
  apart : ∀ key ∈ e.extras.keys, key ∉ wireNames
  distinct : e.extras.keys.Nodup

theorem valid_of_read (distinct : fields.keys.Nodup) (read : ofFields fields = .ok e) : e.Valid := by
  have reads := ofFields_eq_ok.mp read
  constructor
  · obtain ⟨v, -, named⟩ := Fields.need_eq_ok.mp reads.name
    obtain ⟨-, filled⟩ := Read.nonEmpty_eq_ok.mp named
    rintro empty
    rw [empty] at filled
    exact nomatch filled
  · intro key listed wire
    obtain ⟨label, field, rfl⟩ := List.mem_map.mp wire
    rw [← reads.extras] at listed
    obtain ⟨pair, left, named⟩ := List.mem_map.mp listed
    obtain ⟨given, free⟩ := List.mem_filter.mp left
    have found := Keyed.get?_of_mem distinct given
    rw [named] at found
    refine of_decide_eq_true free (List.mem_filterMap.mpr ⟨label, field, ?_⟩)
    rw [Label.find?_of_get? found, named]
    rfl
  · rw [← reads.extras]
    exact Keyed.nodup_without distinct _

theorem keys_toFields (e : Entity) : e.toFields.keys = wireNames ++ e.extras.keys := by
  rw [toFields, Keyed.keys, List.map_append]
  exact congrArg (wireNames ++ ·) (Value.keys_spelledOutFields e.extras)

theorem wireNames_subset (e : Entity) (bag : Fields) :
    wireNames ⊆ Keyed.keys (Keyed.update e.toFields bag) := by
  refine List.Subset.trans ?_ (Keyed.subset_keys_update _ _)
  rw [keys_toFields]
  exact List.subset_append_left _ _

theorem toFields_without (valid : e.Valid) :
    Keyed.without e.toFields wireNames = Value.spelledOutFields e.extras := by
  have fields : (Slot.full e.slots).filter (·.1 ∉ wireNames) = [] := by
    refine List.filter_eq_nil_iff.mpr fun pair member => ?_
    have names : Keyed.keys (Slot.full e.slots) = wireNames := rfl
    have named : pair.1 ∈ wireNames := names ▸ List.mem_map_of_mem member
    simpa using named
  have extras : (Value.spelledOutFields e.extras).filter (·.1 ∉ wireNames) =
      Value.spelledOutFields e.extras := by
    refine List.filter_eq_self.mpr fun pair member => decide_eq_true (valid.apart _ ?_)
    rw [← Value.keys_spelledOutFields]
    exact List.mem_map_of_mem member
  rw [toFields, Keyed.without, List.filter_append, fields, extras, List.nil_append]

theorem leftOver_update (valid : e.Valid) (bag : Fields) :
    Fields.leftOver (Keyed.update e.toFields bag) labels =
      Keyed.update (Value.spelledOutFields e.extras) (Keyed.without bag wireNames) := by
  rw [Fields.leftOver_of_full fun label listed =>
    wireNames_subset e bag (List.mem_map_of_mem listed)]
  exact (Keyed.without_update _ _ _).trans (congrArg (Keyed.update · _) (toFields_without valid))

theorem allFrom_texts (position : Nat) (names : List String) :
    Checked.allFrom Read.text position (names.map .text) = .ok names := by
  induction names generalizing position with
  | nil => rfl
  | cons name names ih =>
    rw [List.map_cons, Checked.allFrom, ih]
    rfl

theorem skillList_texts (names : List String) : Read.skillList (.texts names) = .ok names :=
  allFrom_texts 0 names

theorem entityKind_name (kind : EntityKind) : Read.entityKind (.text kind.name) = .ok kind := by
  cases kind <;> rfl

/-- What is written of an entity is read back. -/
theorem toFields_reads (valid : e.Valid) :
    ({ e with extras := Value.spelledOutFields e.extras } : Entity).ReadFrom e.toFields := by
  constructor
  case name => exact Fields.need_eq_ok.mpr ⟨_, rfl, Read.nonEmpty_text valid.named⟩
  case kind => exact Fields.need_eq_ok.mpr ⟨_, rfl, entityKind_name e.kind⟩
  case extras => exact leftOver_update valid []
  all_goals refine (Fields.get_eq_ok rfl).mpr ?_
  case learnedSkills => exact skillList_texts e.learnedSkills
  case skills => exact skillList_texts e.skills
  all_goals
    first
    | rfl
    | exact Read.optional_opt (fun _ => rfl) _
    | exact Read.optional_opt read_ofNumber _

/-- A field is read as in one of two records, if both read it alike. -/
theorem ReadFrom.of_either {extras : Fields} (reads : e.ReadFrom f)
    (reads' : ({ e with extras } : Entity).ReadFrom g) (full : wireNames ⊆ f.keys)
    (full' : wireNames ⊆ g.keys)
    (either : ∀ name ∈ wireNames,
      fields.get? name = f.get? name ∨ fields.get? name = g.get? name)
    (rest : fields.leftOver labels = e.extras) : e.ReadFrom fields := by
  have get {α : Type} {label : Label} {read : Value → Checked α} {default a : α}
      (listed : label.short ∈ wireNames) (first : f.get label read default = .ok a)
      (second : g.get label read default = .ok a) : fields.get label read default = .ok a := by
    rcases either _ listed with same | same
    · rw [Fields.get_congr (full listed) same, first]
    · rw [Fields.get_congr (full' listed) same, second]
  have need {α : Type} {label : Label} {read : Value → Checked α} {a : α}
      (listed : label.short ∈ wireNames) (first : f.need label read = .ok a)
      (second : g.need label read = .ok a) : fields.need label read = .ok a := by
    rcases either _ listed with same | same
    · rw [Fields.need_congr (full listed) same, first]
    · rw [Fields.need_congr (full' listed) same, second]
  cases reads
  cases reads'
  constructor
  case name => exact need (by decide) ‹_› ‹_›
  case kind => exact need (by decide) ‹_› ‹_›
  case extras => exact rest
  all_goals exact get (by decide) ‹_› ‹_›

/-- A field that two records hold alike is the same in what is read from them. -/
theorem ReadFrom.slots_agree (reads : e.ReadFrom f) (reads' : updated.ReadFrom g)
    (full : wireNames ⊆ f.keys) : List.Forall₂ (fun before after : Slot =>
      g.get? before.name = f.get? before.name → after = before) e.slots updated.slots := by
  have get {α : Type} {label : Label} {read : Value → Checked α} {default a b : α}
      (first : f.get label read default = .ok a) (second : g.get label read default = .ok b)
      (listed : label.short ∈ wireNames) (same : g.get? label.short = f.get? label.short) :
      b = a := by
    rw [Fields.get_congr (full listed) same, first] at second
    exact (Checked.ok.inj second).symm
  have need {α : Type} {label : Label} {read : Value → Checked α} {a b : α}
      (first : f.need label read = .ok a) (second : g.need label read = .ok b)
      (listed : label.short ∈ wireNames) (same : g.get? label.short = f.get? label.short) :
      b = a := by
    rw [Fields.need_congr (full listed) same, first] at second
    exact (Checked.ok.inj second).symm
  cases reads
  cases reads'
  simp only [slots, List.forall₂_cons, List.Forall₂.nil, and_true]
  and_intros
  all_goals intro same
  · rw [need (b := updated.name) (a := e.name) ‹_› ‹_› (by decide) same]
  · rw [need (b := updated.kind) (a := e.kind) ‹_› ‹_› (by decide) same]
  all_goals
    congr 1
    exact get ‹_› ‹_› (by decide) same

/-! ### Laying attributes over an entity -/

theorem nodup_toFields (valid : e.Valid) : e.toFields.keys.Nodup := by
  have wire : wireNames.Nodup := by decide
  rw [keys_toFields]
  refine List.nodup_append.mpr ⟨wire, valid.distinct, fun name field key extra same => ?_⟩
  exact valid.apart key extra (same ▸ field)

theorem merged_empty (valid : e.Valid) :
    e.merged [] = .ok { e with extras := Value.spelledOutFields e.extras } :=
  ofFields_eq_ok.mpr (toFields_reads valid)

theorem merged_empty_iff (valid : e.Valid) :
    e.merged [] = .ok e ↔ Value.fieldsPlain e.extras = true := by
  rw [merged_empty valid, ← Value.spelledOutFields_eq_self_iff]
  constructor
  · intro same
    exact congrArg extras (Checked.ok.inj same)
  · intro same
    rw [same]

theorem get?_update_of_untold {name : String} (distinct : bag.keys.Nodup) (m : Fields)
    (untold : name ∉ bag.keys) : Keyed.get? (Keyed.update m bag) name = m.get? name := by
  rw [Keyed.get?_update distinct, Keyed.get?_eq_none.mpr untold, Option.none_or]

theorem merged_slots (valid : e.Valid) (distinct : bag.keys.Nodup)
    (ok : e.merged bag = .ok updated) : List.Forall₂ (fun before after : Slot =>
      before.name ∉ bag.keys → after = before) e.slots updated.slots := by
  have agree := (toFields_reads valid).slots_agree (ofFields_eq_ok.mp ok) (wireNames_subset e [])
  exact agree.imp fun before after same untold => same (get?_update_of_untold distinct _ untold)

theorem merged_extras (valid : e.Valid) (ok : e.merged bag = .ok updated) : updated.extras =
    Keyed.update (Value.spelledOutFields e.extras) (bag.without wireNames) :=
  (ofFields_eq_ok.mp ok).extras.symm.trans (leftOver_update valid bag)

theorem get?_merged_extras {name : String} (valid : e.Valid) (distinct : bag.keys.Nodup)
    (ok : e.merged bag = .ok updated) (untold : name ∉ bag.keys) :
    updated.extras.get? name = (e.extras.get? name).map Value.spelledOut := by
  have absent : name ∉ (bag.without wireNames).keys := fun listed =>
    untold ((List.filter_sublist.map Prod.fst).subset listed)
  rw [merged_extras valid ok, get?_update_of_untold (Keyed.nodup_without distinct _) _ absent,
    Value.get?_spelledOutFields]

/-- Spelling out what was laid over before makes no difference to laying the same over again. -/
theorem update_spelledOut {m : Fields} (fresh : m.keys.Nodup) (distinct : bag.keys.Nodup) :
    Keyed.update (Value.spelledOutFields (Keyed.update (Value.spelledOutFields m) bag)) bag =
      Keyed.update (Value.spelledOutFields m) bag := by
  have fresh' : Keyed.keys (Value.spelledOutFields m) = m.keys := Value.keys_spelledOutFields m
  have names : Keyed.keys (Keyed.update
      (Value.spelledOutFields (Keyed.update (Value.spelledOutFields m) bag)) bag) =
      Keyed.keys (Keyed.update (Value.spelledOutFields m) bag) := by
    rw [Keyed.keys_update, Value.keys_spelledOutFields]
    rw [Value.keys_spelledOutFields]
    exact Keyed.newer_subset_keys_update _ _
  refine Keyed.eq_of_get? ?_ names fun key => ?_
  · rw [names]
    exact Keyed.nodup_update (fresh'.symm ▸ fresh) bag
  · rw [Keyed.get?_update distinct, Value.get?_spelledOutFields, Keyed.get?_update distinct,
      Value.get?_spelledOutFields]
    cases bag.get? key with
    | some v => rfl
    | none =>
      rw [Option.none_or, Option.none_or, Option.map_map]
      exact congrArg (Option.map · _) (funext Value.spelledOut_spelledOut)

theorem merged_again (valid : e.Valid) (distinct : bag.keys.Nodup)
    (ok : e.merged bag = .ok updated) : updated.merged bag = .ok updated := by
  have reads := ofFields_eq_ok.mp ok
  have again : updated.Valid :=
    valid_of_read (Keyed.nodup_update (nodup_toFields valid) bag) ok
  refine ofFields_eq_ok.mpr (reads.of_either (toFields_reads again) (wireNames_subset e bag)
    (wireNames_subset updated []) (fun name _ => ?_) ?_)
  · by_cases told : name ∈ bag.keys
    · obtain ⟨v, given⟩ := Keyed.exists_of_mem_keys told
      refine .inl ?_
      rw [Keyed.get?_update distinct, Keyed.get?_update distinct, given]
      rfl
    · exact .inr (get?_update_of_untold distinct _ told)
  · rw [leftOver_update again, merged_extras valid ok]
    exact update_spelledOut valid.distinct (Keyed.nodup_without distinct _)

/-- Attributes laid over an entity change the fields and the extras that they name, and laid over once
more they change nothing. No other field changes, and no other extra, except that an objective in it is
spelled out; so nothing laid over an entity gives it back exactly if no objective is in its extras. -/
theorem merged_lays_over (distinct : fields.keys.Nodup) (read : ofFields fields = .ok e) :
    e.merged [] = .ok { e with extras := Value.spelledOutFields e.extras } ∧
    (e.merged [] = .ok e ↔ Value.fieldsPlain e.extras = true) ∧
    ∀ (bag : Fields) (updated : Entity), bag.keys.Nodup → e.merged bag = .ok updated →
      List.Forall₂ (fun before after : Slot => before.name ∉ bag.keys → after = before)
        e.slots updated.slots ∧
      (∀ name, name ∉ bag.keys →
        updated.extras.get? name = (e.extras.get? name).map Value.spelledOut ∧
        ∀ v, e.extras.get? name = some v → v.isPlain = true →
          updated.extras.get? name = some v) ∧
      updated.merged bag = .ok updated := by
  have valid := valid_of_read distinct read
  refine ⟨merged_empty valid, merged_empty_iff valid, fun bag updated once ok => ?_⟩
  refine ⟨merged_slots valid once ok, fun name untold => ?_, merged_again valid once ok⟩
  have kept := get?_merged_extras valid once ok untold
  refine ⟨kept, fun v held plain => ?_⟩
  rw [kept, held, Option.map_some, Value.spelledOut_of_isPlain v plain]

/-- A healer with an extra that is no field, and with whatever objectives are set. -/
def healerFields (objectives : List Objective) : Fields :=
  [("name", .text "Lan"), ("type", .text "npc"), ("mood", .text "calm"),
    ("objectives", .list (objectives.map .objective))]

def healer (objectives : List Objective) : Entity where
  name := "Lan"
  kind := .npc
  extras := [("mood", .text "calm"), ("objectives", .list (objectives.map .objective))]

def promotion : Fields := [("realm", .text "Trúc Cơ")]

/-- A healer without objectives is promoted, once and for all, and keeps her mood. -/
theorem healer_promoted : (healerFields []).keys.Nodup ∧
    ofFields (healerFields []) = .ok (healer []) ∧ promotion.keys.Nodup ∧
    (healer []).merged [] = .ok (healer []) ∧ ∃ updated,
      (healer []).merged promotion = .ok updated ∧ updated.merged promotion = .ok updated ∧
      updated.realm = some "Trúc Cơ" ∧ updated.extras.get? "mood" = some (.text "calm") := by
  have distinct : (healerFields []).keys.Nodup := by decide
  have once : promotion.keys.Nodup := by decide
  have read : ofFields (healerFields []) = .ok (healer []) := rfl
  have ok : (healer []).merged promotion = .ok { healer [] with realm := some "Trúc Cơ" } := rfl
  obtain ⟨-, same, laid⟩ := merged_lays_over distinct read
  obtain ⟨-, kept, again⟩ := laid promotion _ once ok
  refine ⟨distinct, read, once, same.mpr rfl, _, ok, again, rfl, ?_⟩
  exact (kept "mood" (by decide)).2 _ rfl rfl

/-- An objective of a healer is respelled though nothing is laid over her. -/
theorem healer_respelled :
    ofFields (healerFields [⟨"Tìm thuốc", false⟩]) = .ok (healer [⟨"Tìm thuốc", false⟩]) ∧
      ∃ updated, (healer [⟨"Tìm thuốc", false⟩]).merged [] = .ok updated ∧
        updated.extras.get? "objectives" ≠
          (healer [⟨"Tìm thuốc", false⟩]).extras.get? "objectives" := by
  refine ⟨rfl, _, rfl, fun same => ?_⟩
  change some (Value.list [Value.ofObjective _]) = some (.list [.objective _]) at same
  simp [Value.ofObjective] at same

end Entity

end Gamebook
