import Gamebook.Proofs.Tag.Filing
import Gamebook.Tag.Interpretation

/-!
What a tag creates, a tag can address. What is stored under the name of a tag is found by that name,
and a status that was applied is cured by it, if the name has no blanks around it: names are stored
with these and looked up without. Whatever its name, a tag that is told again adds nothing.
-/

namespace Gamebook

open Attribute
open Play (Yields yields_pure yields_ofOutcome)

variable {kind : TagKind} {attrs told fields : Fields} {c c' : Scene} {p : Played} {e : Entity}

namespace TagKind

/-- The tags that create an entity under the name that they give. -/
def ofEntities : List TagKind :=
  [.loreNpc, .loreItem, .loreLocation, .loreFaction, .loreConcept, .loreSkill, .itemAcquired,
    .companion]

/-- Whether a tag brings a record up to date instead of creating one. -/
def revises (kind : TagKind) (attrs : Fields) (c : Scene) : Bool :=
  match kind with
  | .loreNpc => c.revises .npc attrs
  | .loreLocation => c.revises .location attrs
  | _ => false

/-- Whether a tag stores what it creates under a name that no lookup asks for. -/
def misplaces (kind : TagKind) (attrs : Fields) (c : Scene) : Bool :=
  padsName attrs && !kind.revises attrs c

/-- The kind of tag that cures what a tag of a kind applies. -/
def cure? : TagKind → Option TagKind
  | .statusAppliedSelf => some .statusCuredSelf
  | .statusAppliedNpc => some .statusCuredNpc
  | _ => none

/-- Who bears the statuses that a tag is about. -/
def bearer? (kind : TagKind) (attrs : Fields) : Option String :=
  if kind = .statusAppliedSelf || kind = .statusCuredSelf then some "pc" else text? attrs "npcName"

end TagKind

/-! ### Entities -/

/-- Whether an entity has the name that a tag stores it under: that of the record that is brought up
to date, or else the one that the tag gives. -/
def StoredUnder (kind : TagKind) (attrs : Fields) (c : Scene) (e : Entity) : Prop :=
  if kind.revises attrs c then Revised attrs c.state e
  else (text? attrs "name").isSome = true ∧ rawText? attrs "name" = some e.name

namespace StoredUnder

theorem entered {given : Option Value} (h : Entered given attrs c.state e)
    (absent : kind.revises attrs c = false) : StoredUnder kind attrs c e := by
  rw [StoredUnder, if_neg (absent ▸ Bool.false_ne_true)]
  exact ⟨h.asked, h.named⟩

theorem restocked {given : Option Value} {item : Entity}
    (h : Restocked given attrs c.state item e) (absent : kind.revises attrs c = false) :
    StoredUnder kind attrs c e := by
  rw [StoredUnder, if_neg (absent ▸ Bool.false_ne_true)]
  obtain ⟨name, asked, -⟩ := h.asked
  exact ⟨asked ▸ rfl, h.named⟩

theorem refreshed {entityKind : EntityKind} (h : c.Refreshed entityKind attrs e)
    (guard : kind.revises attrs c = c.revises entityKind attrs) : StoredUnder kind attrs c e := by
  cases h with
  | entered absent h => exact entered h (guard.trans absent)
  | revised present h =>
    rw [StoredUnder, if_pos (guard.trans present)]
    exact h

theorem asked (h : StoredUnder kind attrs c e) (placed : kind.misplaces attrs c = false) :
    text? attrs "name" = some e.name := by
  rw [StoredUnder] at h
  split_ifs at h with old
  · exact h.asked
  · rw [TagKind.misplaces, (Bool.not_eq_true _).mp old, Bool.not_false, Bool.and_true] at placed
    exact asked_of_named placed h.1 h.2

end StoredUnder

/-- Every tag that creates an entity stores it under its name. -/
theorem TagKind.play_stores (creates : kind ∈ ofEntities) (distinct : attrs.keys.Nodup)
    (y : Yields (kind.play attrs c) p) : c.Stores (StoredUnder kind attrs c) p := by
  cases kind with
  | loreNpc => exact (Scene.describe_stores distinct y).mono fun e h => .refreshed h rfl
  | loreItem => exact (Scene.define_stores y).mono fun e h => .entered h rfl
  | loreLocation => exact (Scene.describePlace_stores distinct y).mono fun e h => .refreshed h rfl
  | loreFaction => exact (Scene.define_stores y).mono fun e h => .entered h rfl
  | loreConcept => exact (Scene.define_stores y).mono fun e h => .entered h rfl
  | loreSkill => exact (Scene.defineSkill_stores y).mono fun e h => .entered h rfl
  | itemAcquired =>
    refine (Scene.acquire_stores distinct y).mono fun e h => ?_
    rcases h with entered | ⟨item, restocked⟩
    · exact .entered entered rfl
    · exact .restocked restocked rfl
  | companion => exact (Scene.addCompanion_stores y).mono fun e h => .entered h rfl
  | _ => exact absurd creates (by decide)

theorem Scene.find?_stored (asked : text? attrs "name" = some e.name)
    (stored : c'.state.knownEntities = c.state.knownEntities.put e.name e) :
    c'.find? (text? attrs "name") = some e := by
  rw [asked, find?_asked asked, GameState.find?, stored, Keyed.get?_put_self]

/-- A record that was brought up to date is brought up to date again. -/
theorem Scene.revises_again {entityKind : EntityKind} (present : c.revises entityKind attrs = true)
    (h : Revised attrs c.state e)
    (stored : c'.state.knownEntities = c.state.knownEntities.put e.name e) :
    c'.revises entityKind attrs = true := by
  obtain ⟨record, known, same, -⟩ := h.known
  rw [revises, h.asked, find?_asked h.asked, known, Option.any_some, ← same] at present
  rw [revises, find?_stored h.asked stored, Option.any_some]
  exact present

theorem TagKind.revises_again (present : kind.revises attrs c = true)
    (h : Revised attrs c.state e)
    (stored : c'.state.knownEntities = c.state.knownEntities.put e.name e) :
    kind.revises attrs c' = true := by
  cases kind with
  | loreNpc => exact Scene.revises_again present h stored
  | loreLocation => exact Scene.revises_again present h stored
  | _ => exact nomatch present

theorem Revised.mem_keys (h : Revised attrs c.state e) : e.name ∈ c.state.knownEntities.keys := by
  obtain ⟨record, known, -⟩ := h.known
  exact Keyed.mem_keys_of_get? known

/-- A tag that is told again stores under a name that is taken by then. -/
theorem StoredUnder.again {next : Entity} (h : StoredUnder kind attrs c e)
    (stored : c'.state.knownEntities = c.state.knownEntities.put e.name e)
    (later : StoredUnder kind attrs c' next) : next.name ∈ c'.state.knownEntities.keys := by
  by_cases old : kind.revises attrs c = true
  · rw [StoredUnder, if_pos old] at h
    rw [StoredUnder, if_pos (TagKind.revises_again old h stored)] at later
    exact later.mem_keys
  · rw [StoredUnder, if_neg old] at h
    rw [StoredUnder] at later
    split_ifs at later
    · exact later.mem_keys
    · obtain same : e.name = next.name := Option.some.inj (h.2.symm.trans later.2)
      rw [stored, ← same]
      exact Keyed.mem_keys_of_get? (Keyed.get?_put_self ..)

/-! ### Statuses -/

namespace Status

variable {status : Status}

theorem ofFields_reads : (ofFields fields).Each fun status =>
    fields.need "name" Read.nonEmpty = .ok status.name ∧
      fields.get "owner" Read.text "pc" = .ok status.owner := by
  rw [ofFields]
  iterate 8 refine .seq ?_
  intro make begun
  obtain ⟨name, named, rfl⟩ := Checked.map_eq_ok.mp begun
  intro owner owned
  intros
  exact ⟨named, owned⟩

theorem ofFields_name (h : ofFields fields = .ok status) :
    fields.get? "name" = some (.text status.name) := by
  obtain ⟨v, given, readName⟩ := Fields.need_eq_ok.mp (ofFields_reads status h).1
  obtain ⟨rfl, -⟩ := Read.nonEmpty_eq_ok.mp readName
  exact given

theorem ofFields_owner {owner : String} (h : ofFields fields = .ok status)
    (given : fields.get? "owner" = some (.text owner)) : owner = status.owner := by
  have readOwner := (Fields.get_eq_ok given).mp (ofFields_reads status h).2
  exact Value.text.inj (Read.text_eq_ok.mp readOwner)

theorem mem_addLimited (statuses : List Status) (new : Status) :
    new ∈ addLimited statuses new := by
  rw [addLimited]
  split_ifs
  · exact List.mem_append_right _ (List.mem_singleton_self new)
  · exact List.mem_append_right _ (List.mem_singleton_self new)

end Status

namespace Scene

variable {owner : Option String} {status : Status}

/-- A status is applied under the name that the tag gives. -/
theorem applyStatus_applies (y : Yields (c.applyStatus owner attrs) p)
    (changed : p.changed = true) : (text? attrs "name").isSome = true ∧ ∃ status ∈ p.scene.state.statuses,
      rawText? attrs "name" = some status.name ∧ owner = some status.owner := by
  unfold applyStatus at y
  split at y
  · rename_i bearer name asked
    obtain ⟨status, made, y⟩ := y.bind
    obtain rfl := yields_pure.mp y
    have made : Status.ofFields
        (Keyed.put (attrs.without ["npcName"]) "owner" (.text bearer)) = .ok status := by
      have given := yields_ofOutcome.mp made
      rw [statusOf] at given
      cases read : Status.ofFields
          (Keyed.put (attrs.without ["npcName"]) "owner" (.text bearer)) with
      | ok made => rw [read] at given; exact congrArg Checked.ok (Except.ok.inj given)
      | faults places => rw [read] at given; exact nomatch given
    have named := Status.ofFields_name made
    rw [Keyed.get?_put_of_ne (by decide), Keyed.get?_without (by decide)] at named
    refine ⟨asked ▸ rfl, status, Status.mem_addLimited _ _, rawText?_eq_some.mpr named, ?_⟩
    exact congrArg some (Status.ofFields_owner made (Keyed.get?_put_self ..))
  · obtain rfl := yields_pure.mp y
    exact nomatch changed

theorem cureStatus_cures (borne : status ∈ c.state.statuses)
    (named : text? attrs "name" = some status.name) (owned : owner = some status.owner) :
    (c.cureStatus owner attrs).changed = true := by
  have cured : (Status.cure c.state.statuses (text? attrs "name") owner).length <
      c.state.statuses.length := by
    refine List.length_filter_lt_length_iff_exists.mpr ⟨status, borne, ?_⟩
    simp [named, owned]
  exact bne_iff_ne.mpr (Nat.ne_of_lt cured)

/-- What was applied under a name without blanks around it is cured by it. -/
theorem cureStatus_undoes (y : Yields (c.applyStatus owner attrs) p) (applied : p.changed = true)
    (next : c'.state = p.scene.state) (plain : padsName attrs = false)
    (same : told.get? "name" = attrs.get? "name") :
    (c'.cureStatus owner told).changed = true ∧
      (c'.cureStatus owner told).scene.state.statuses = c'.state.statuses.filter fun status =>
        !(some status.name == text? attrs "name" && some status.owner == owner) := by
  obtain ⟨asked, status, borne, named, owned⟩ := applyStatus_applies y applied
  have shown : text? attrs "name" = some status.name := asked_of_named plain asked named
  constructor
  · exact cureStatus_cures (next ▸ borne) ((text?_congr same).trans shown) owned
  · rw [← text?_congr same]
    rfl

end Scene

theorem TagKind.cure?_cases {cure : TagKind} (cures : kind.cure? = some cure) :
    kind = .statusAppliedSelf ∧ cure = .statusCuredSelf ∨
      kind = .statusAppliedNpc ∧ cure = .statusCuredNpc := by
  cases kind with
  | statusAppliedSelf => exact .inl ⟨rfl, (Option.some.inj cures).symm⟩
  | statusAppliedNpc => exact .inr ⟨rfl, (Option.some.inj cures).symm⟩
  | _ => exact nomatch cures

/-- A tag finds what another one created under a name without blanks around it: an entity is what is
found by the name, and a status goes when it is cured by the name. A tag that is told again does not
add to what is known, whatever the name. -/
theorem TagKind.play_addressable (distinct : attrs.keys.Nodup) (y : Yields (kind.play attrs c) p)
    (applied : p.changed = true) (next : c'.state = p.scene.state) :
    (kind ∈ ofEntities →
      (kind.misplaces attrs c = false → ∃ e, c'.find? (text? attrs "name") = some e ∧
        c'.state.knownEntities = c.state.knownEntities.put e.name e) ∧
      ∀ q, Yields (kind.play attrs c') q →
        q.scene.state.knownEntities.length = c'.state.knownEntities.length) ∧
    ∀ cure (told : Fields), kind.cure? = some cure → kind.misplaces attrs c = false →
      told.get? "name" = attrs.get? "name" → told.get? "npcName" = attrs.get? "npcName" →
      ∃ q, cure.play told c' = pure q ∧ q.changed = true ∧
        q.scene.state.statuses = c'.state.statuses.filter fun status =>
          !(some status.name == text? attrs "name" && some status.owner == kind.bearer? attrs) := by
  constructor
  · intro creates
    rcases play_stores creates distinct y with rfl | ⟨-, e, under, stored⟩
    · exact nomatch applied
    rw [← next] at stored
    constructor
    · intro placed
      exact ⟨e, Scene.find?_stored (under.asked placed) stored, stored⟩
    · intro q again
      rcases play_stores creates distinct again with rfl | ⟨-, second, later, more⟩
      · rfl
      · rw [more, Keyed.length_put (under.again stored later)]
  · intro cure told cures placed sameName sameBearer
    rcases cure?_cases cures with ⟨rfl, rfl⟩ | ⟨rfl, rfl⟩
    · have plain : padsName attrs = false := by simpa [misplaces, revises] using placed
      obtain ⟨cured, rest⟩ := Scene.cureStatus_undoes y applied next plain sameName
      exact ⟨_, rfl, cured, rest⟩
    · have plain : padsName attrs = false := by simpa [misplaces, revises] using placed
      obtain ⟨cured, rest⟩ := Scene.cureStatus_undoes y applied next plain sameName
      refine ⟨_, ?_, cured, rest⟩
      rw [play, text?_congr sameBearer]

/-- The attributes of a tag that only tells a name. -/
def calling (name : String) : Fields := [("name", .text name)]

theorem poison_addressed : (calling "Poison").keys.Nodup ∧
    .loreItem ∈ TagKind.ofEntities ∧ TagKind.loreItem.misplaces (calling "Poison") { state := {} } =
      false ∧ TagKind.statusAppliedSelf.misplaces (calling "Poison") { state := {} } = false ∧
    (∃ p, Yields (TagKind.loreItem.play (calling "Poison") { state := {} }) p ∧ p.changed = true ∧
      ∃ e, p.scene.find? (text? (calling "Poison") "name") = some e ∧
        p.scene.state.knownEntities = Keyed.put [] e.name e) ∧
    ∃ p, Yields (TagKind.statusAppliedSelf.play (calling "Poison") { state := {} }) p ∧
      p.changed = true ∧ ∃ q, TagKind.statusCuredSelf.play (calling "Poison") p.scene = pure q ∧
        q.changed = true ∧ q.scene.state.statuses = p.scene.state.statuses.filter fun status =>
          !(some status.name == text? (calling "Poison") "name" &&
            some status.owner == some "pc") := by
  have distinct : (calling "Poison").keys.Nodup := by decide
  have creates : .loreItem ∈ TagKind.ofEntities := by decide
  have itemPlaced : TagKind.loreItem.misplaces (calling "Poison") { state := {} } = false := by
    decide
  have statusPlaced : TagKind.statusAppliedSelf.misplaces (calling "Poison") { state := {} } =
      false := by decide
  have bottled : Play.passes (TagKind.loreItem.play (calling "Poison") { state := {} }) {}
      (fun p _ => p.changed) = true := by
    decide +kernel
  have poisoned : Play.passes (TagKind.statusAppliedSelf.play (calling "Poison") { state := {} })
      {} (fun p _ => p.changed) = true := by
    decide +kernel
  refine ⟨distinct, creates, itemPlaced, statusPlaced, ?_, ?_⟩
  · obtain ⟨p, d', ok, applied⟩ := Play.exists_of_passes bottled
    have y : Yields (TagKind.loreItem.play (calling "Poison") { state := {} }) p := ⟨{}, d', ok⟩
    have addressed := TagKind.play_addressable distinct y applied rfl
    exact ⟨p, y, applied, (addressed.1 creates).1 itemPlaced⟩
  · obtain ⟨p, d', ok, applied⟩ := Play.exists_of_passes poisoned
    have y : Yields (TagKind.statusAppliedSelf.play (calling "Poison") { state := {} }) p :=
      ⟨{}, d', ok⟩
    have addressed := TagKind.play_addressable distinct y applied rfl
    exact ⟨p, y, applied, addressed.2 _ (calling "Poison") rfl statusPlaced rfl rfl⟩

/-- A poison whose name has blanks around it is not cured. -/
theorem padded_poison_stays :
    ∃ p d', TagKind.statusAppliedSelf.play (calling " Poison ") { state := {} } {} = (.ok p, d') ∧
      p.changed = true ∧ ∃ q d'', TagKind.statusCuredSelf.play (calling " Poison ") p.scene d' =
        (.ok q, d'') ∧ q.changed = false ∧ q.scene.state.statuses.length = 1 := by
  have poisoned : Play.passes (TagKind.statusAppliedSelf.play (calling " Poison ")
      { state := {} }) {} (fun p d => p.changed &&
        Play.passes (TagKind.statusCuredSelf.play (calling " Poison ") p.scene) d
          (fun q _ => !q.changed && q.scene.state.statuses.length == 1)) = true := by
    decide +kernel
  obtain ⟨p, d', ok, rest⟩ := Play.exists_of_passes poisoned
  obtain ⟨applied, cured⟩ := Bool.and_eq_true_iff.mp rest
  obtain ⟨q, d'', played, stays⟩ := Play.exists_of_passes cured
  obtain ⟨idle, one⟩ := Bool.and_eq_true_iff.mp stays
  exact ⟨p, d', ok, applied, q, d'', played, by simpa using idle, beq_iff_eq.mp one⟩

end Gamebook
