import Gamebook.Proofs.Entity.Reading
import Gamebook.Proofs.ReferenceId
import Gamebook.Proofs.Tag.Definition
import Gamebook.Proofs.Tag.Inventory
import Gamebook.Proofs.Tag.Update

/-!
How tags file what they tell. A tag that files an entity either enters it, under the name that the
tag gives, or revises a record, under the name that it has, or restocks an item of the player, under
the name that the tag gives. Its reference id is one that the tag brings along, a new one that no
known entity has, or the one from before.
-/

namespace Gamebook

open Attribute
open Play (Yields yields_pure yields_ofOutcome)

variable {attrs fields : Fields} {s : GameState} {e : Entity} {given : Option Value}

/-- Whether a tag gives a name with blanks around it. -/
def padsName (attrs : Fields) : Bool := (rawText? attrs "name").any fun raw => Text.trim raw ≠ raw

theorem asked_of_named {name : String} (plain : padsName attrs = false)
    (asked : (text? attrs "name").isSome = true) (named : rawText? attrs "name" = some name) :
    text? attrs "name" = some name := by
  obtain ⟨shown, found⟩ := Option.isSome_iff_exists.mp asked
  have trimmed : Text.trim name = shown := text?_of_raw (rawText?_eq_some.mp named) found
  rw [padsName, named, Option.any_some, decide_eq_false_iff_not, not_not, trimmed] at plain
  rw [found, plain]

/-- An id that is drawn for a state is not that of any known entity. -/
theorem ReferenceId.forState_yields {kind : EntityKind} {id : String}
    (y : Yields (forState s kind) id) : id ∉ idsOf s := by
  obtain ⟨d, d', drawn⟩ := y
  have spare := generate_not_mem kind.name none (idsOf s) d
  rwa [← Except.ok.inj (congrArg Prod.fst drawn)]

/-- Whether an entity is entered under the name of a tag, with a given id or else a new one. -/
structure Entered (given : Option Value) (attrs : Fields) (s : GameState) (e : Entity) : Prop where
  asked : (text? attrs "name").isSome = true
  named : rawText? attrs "name" = some e.name
  issued : ∃ id ∉ ReferenceId.idsOf s,
    given.or (some (.text id)) = some (.opt .text e.referenceId)

/-- Whether an entity is a record that has the name of a tag, brought up to date. -/
structure Revised (attrs : Fields) (s : GameState) (e : Entity) : Prop where
  asked : text? attrs "name" = some e.name
  known : ∃ record, s.find? e.name = some record ∧ e.kind = record.kind ∧
    e.referenceId = record.referenceId

/-- Whether an entity is an item of the player that a tag addresses, under the name as the tag has
it and with a given id or else its own. -/
structure Restocked (given : Option Value) (attrs : Fields) (s : GameState) (item e : Entity) :
    Prop where
  asked : ∃ name, text? attrs "name" = some name ∧ s.find? name = some item
  owned : item.isOwnedItem = true
  named : rawText? attrs "name" = some e.name
  issued : given.or (some (.opt .text item.referenceId)) = some (.opt .text e.referenceId)

theorem text?_congr {key : String} (same : fields.get? key = attrs.get? key) :
    text? fields key = text? attrs key := by
  rw [text?, text?, Value.field, Value.field, same]

theorem rawText?_congr {key : String} (same : fields.get? key = attrs.get? key) :
    rawText? fields key = rawText? attrs key := by
  rw [rawText?, rawText?, Value.field, Value.field, same]

theorem Entered.congr (same : fields.get? "name" = attrs.get? "name")
    (h : Entered given fields s e) : Entered given attrs s e where
  asked := text?_congr same ▸ h.asked
  named := rawText?_congr same ▸ h.named
  issued := h.issued

theorem Revised.congr (same : fields.get? "name" = attrs.get? "name") (h : Revised fields s e) :
    Revised attrs s e where
  asked := text?_congr same ▸ h.asked
  known := h.known

namespace Scene

variable {c : Scene} {p : Played} {kind : EntityKind} {P Q : Entity → Prop}

/-- A text that a tag gives is looked up as it is. -/
theorem find?_asked {name : String} (asked : text? attrs "name" = some name) :
    c.find? (some name) = c.state.find? name :=
  if_neg (String.isEmpty_iff.not.mpr (text?_ne_empty asked))

/-- Whether a tag did nothing or stored one entity with a property among the known ones. -/
def Stores (c : Scene) (P : Entity → Prop) (p : Played) : Prop :=
  p = c.kept ∨ p.changed = true ∧
    ∃ e, P e ∧ p.scene.state.knownEntities = c.state.knownEntities.put e.name e

theorem Stores.mono (weaker : ∀ e, P e → Q e) (h : c.Stores P p) : c.Stores Q p := by
  rcases h with kept | ⟨changed, e, holds, stored⟩
  · exact .inl kept
  · exact .inr ⟨changed, e, weaker e holds, stored⟩

/-- Whether a tag brings a record up to date, which it does for records of some kinds. -/
def revises (kind : EntityKind) (attrs : Fields) (c : Scene) : Bool :=
  (c.find? (text? attrs "name")).any fun record => (refreshedKinds kind).contains record.kind

/-- Whether an entity is the record of a tag brought up to date, or entered if there is none. -/
inductive Refreshed (kind : EntityKind) (attrs : Fields) (c : Scene) (e : Entity) : Prop
  | entered (absent : c.revises kind attrs = false) (h : Entered none attrs c.state e)
  | revised (present : c.revises kind attrs = true) (h : Revised attrs c.state e)

theorem Refreshed.congr (same : fields.get? "name" = attrs.get? "name")
    (h : Refreshed kind fields c e) : Refreshed kind attrs c e := by
  have guard : c.revises kind fields = c.revises kind attrs := by
    rw [revises, revises, text?_congr same]
  cases h with
  | entered absent h => exact .entered (guard ▸ absent) (h.congr same)
  | revised present h => exact .revised (guard ▸ present) (h.congr same)

theorem newId_yields {v : Value} (y : Yields (c.newId kind) v) :
    ∃ id ∉ ReferenceId.idsOf c.state, v = .text id := by
  obtain ⟨id, drawn, y⟩ := y.bind
  obtain rfl := yields_pure.mp y
  exact ⟨id, ReferenceId.forState_yields drawn, rfl⟩

theorem newId_gives : Play.Gives (c.newId kind) fun v => ∃ id, v = .text id :=
  (Play.gives_draw _).bind fun id _ => Play.gives_pure ⟨id, rfl⟩

/-- An entity made from the attributes of a tag and an id to fall back on is entered. -/
theorem entered_of_made {id : String} {made : Fields} (asked : (text? attrs "name").isSome = true)
    (spare : id ∉ ReferenceId.idsOf s) (read : Entity.ofFields made = .ok e)
    (same : made.get? "name" = attrs.get? "name")
    (issued : made.get? "referenceId" = given.or (some (.text id))) : Entered given attrs s e where
  asked := asked
  named := made_name read same
  issued := by
    refine ⟨id, spare, ?_⟩
    rw [← issued]
    cases told : made.get? "referenceId" with
    | none =>
      rw [told] at issued
      exact nomatch (Option.or_eq_none_iff.mp issued.symm).2
    | some v => rw [Entity.ofFields_id read told]

theorem define_stores (y : Yields (c.define kind attrs) p) :
    c.Stores (Entered (attrs.get? "referenceId") attrs c.state) p := by
  rw [define] at y
  split at y
  · exact .inl (yields_pure.mp y).symm
  · rename_i name asked
    obtain ⟨id, drawn, y⟩ := y.bind
    obtain ⟨e, made, y⟩ := y.bind
    obtain rfl := yields_pure.mp y
    obtain ⟨id, spare, rfl⟩ := newId_yields drawn
    refine .inr ⟨rfl, e, entered_of_made (asked ▸ rfl) spare (entityOf_yields.mp made) ?_ ?_, rfl⟩
    · rw [get?_withDefaultId_of_ne (by decide), get?_withKind_of_ne (by decide)]
    · rw [withDefaultId, Keyed.get?_putNew_self, get?_withKind_of_ne (by decide)]

theorem defineSkill_stores (y : Yields (c.defineSkill attrs) p) :
    c.Stores (Entered none attrs c.state) p := by
  rw [defineSkill] at y
  split at y
  · exact .inl (yields_pure.mp y).symm
  · have filed := define_stores y
    rw [Keyed.get?_without_of_mem (by decide)] at filed
    exact filed.mono fun e => .congr (Keyed.get?_without (by decide))

theorem refresh_files {name : String} (asked : text? attrs "name" = some name)
    (distinct : attrs.keys.Nodup) (y : Yields (c.refresh kind attrs name) e) :
    c.Refreshed kind attrs e := by
  rw [refresh] at y
  split at y
  · rename_i existing found
    obtain ⟨present, fits⟩ := Option.filter_eq_some_iff.mp found
    have known : c.state.find? name = some existing := find?_asked asked ▸ present
    have laid := Keyed.nodup_update distinct [("type", .text existing.kind.name),
      ("referenceId", .opt .text existing.referenceId), ("name", .text name)]
    have made := mergedWith_yields.mp y
    have named := Entity.merged_name laid made
    have kinded := Entity.merged_kind laid made
    have issued := Entity.merged_id laid made
    rw [← keepingIdentity, get?_keepingIdentity] at named kinded issued
    obtain rfl : name = e.name := Value.text_of_field named
    refine .revised ?_ ⟨asked, existing, known, (EntityKind.eq_of_field kinded).symm, ?_⟩
    · rw [revises, asked, present]
      exact fits
    · exact (Entity.optText_injective (Option.some.inj issued)).symm
  · rename_i absent
    obtain ⟨id, drawn, y⟩ := y.bind
    obtain ⟨id, spare, rfl⟩ := newId_yields drawn
    refine .entered ?_ (entered_of_made (asked ▸ rfl) spare (entityOf_yields.mp y) ?_ ?_)
    · rw [revises, asked]
      cases held : c.find? (some name) with
      | none => rfl
      | some record =>
        rw [held, Option.filter_some, ite_eq_right_iff] at absent
        exact Bool.eq_false_iff.mpr fun fits => Option.some_ne_none _ (absent fits)
    · rw [get?_withId_of_ne (by decide), get?_withKind_of_ne (by decide)]
    · exact Keyed.get?_put_self _ _ _

theorem describe_stores (distinct : attrs.keys.Nodup) (y : Yields (c.describe kind attrs) p) :
    c.Stores (c.Refreshed kind attrs) p := by
  rw [describe] at y
  split at y
  · exact .inl (yields_pure.mp y).symm
  · rename_i name asked
    obtain ⟨e, refreshed, y⟩ := y.bind
    obtain rfl := yields_pure.mp y
    exact .inr ⟨rfl, e, refresh_files asked distinct refreshed, rfl⟩

theorem discover_known (s : GameState) (name : String) :
    (discover s name).knownEntities = s.knownEntities := by
  rw [discover]
  split_ifs <;> rfl

theorem describePlace_stores (distinct : attrs.keys.Nodup) (y : Yields (c.describePlace attrs) p) :
    c.Stores (c.Refreshed .location attrs) p := by
  rw [describePlace] at y
  split at y
  · exact .inl (yields_pure.mp y).symm
  rename_i name asked
  split_ifs at y
  · obtain ⟨e, refreshed, y⟩ := y.bind
    obtain rfl := yields_pure.mp y
    have same : (attrs.put "discoveredAt" (.int c.state.turnCount)).get? "name" =
        attrs.get? "name" := Keyed.get?_put_of_ne (by decide)
    have filed := refresh_files ((text?_congr same).trans asked) (Keyed.nodup_put distinct _ _)
      refreshed
    exact .inr ⟨rfl, e, filed.congr same, discover_known _ _⟩
  · obtain ⟨e, refreshed, y⟩ := y.bind
    obtain rfl := yields_pure.mp y
    exact .inr ⟨rfl, e, refresh_files asked distinct refreshed, rfl⟩

/-- An item with updates laid over it that name it as the tag does is restocked. -/
theorem restocked_of_merged {item : Entity} {name : String} {updates : Fields}
    (asked : text? attrs "name" = some name) (found : c.ownedItem? (some name) = some item)
    (distinct : updates.keys.Nodup) (made : item.merged updates = .ok e)
    (same : updates.get? "name" = attrs.get? "name")
    (issued : updates.get? "referenceId" = attrs.get? "referenceId") :
    Restocked (attrs.get? "referenceId") attrs c.state item e where
  asked := ⟨name, asked, find?_asked asked ▸ (Option.filter_eq_some_iff.mp found).1⟩
  owned := (Option.filter_eq_some_iff.mp found).2
  named := by
    have named := Entity.merged_name distinct made
    obtain ⟨v, told, -⟩ := text?_given asked
    rw [same, told, Option.some_or] at named
    exact rawText?_eq_some.mpr (told.trans named)
  issued := by
    rw [← issued]
    exact Entity.merged_id distinct made

theorem acquire_stores (distinct : attrs.keys.Nodup) (y : Yields (c.acquire attrs) p) :
    c.Stores (fun e => Entered (attrs.get? "referenceId") attrs c.state e ∨
      ∃ item, Restocked (attrs.get? "referenceId") attrs c.state item e) p := by
  rw [acquire] at y
  split at y
  · exact .inl (yields_pure.mp y).symm
  rename_i name asked
  have plain : (withPlainQuantity attrs).keys.Nodup := nodup_withPlainQuantity distinct
  split at y
  · rename_i item found
    obtain ⟨updates, added, y⟩ := y.bind
    obtain ⟨merged, made, y⟩ := y.bind
    obtain rfl := yields_pure.mp y
    have added := yields_ofOutcome.mp added
    refine .inr ⟨rfl, merged, .inr ⟨item, ?_⟩, rfl⟩
    refine restocked_of_merged asked found (nodup_stacked plain added) (mergedWith_yields.mp made)
      ?_ ?_
    · exact (get?_stacked added (by decide) (by decide)).trans (get?_withPlainQuantity (by decide))
    · exact (get?_stacked added (by decide) (by decide)).trans (get?_withPlainQuantity (by decide))
  · obtain ⟨id, drawn, y⟩ := y.bind
    obtain ⟨item, made, y⟩ := y.bind
    obtain rfl := yields_pure.mp y
    obtain ⟨id, spare, rfl⟩ := newId_yields drawn
    have owned {key : String} (other : "owner" ≠ key) :
        (withOwner (withPlainQuantity attrs)).get? key = (withPlainQuantity attrs).get? key := by
      rw [withOwner, Keyed.get?_update plain, Keyed.get?_cons, if_neg other]
      exact Option.or_none
    refine .inr ⟨rfl, item, .inl (entered_of_made (asked ▸ rfl) spare (entityOf_yields.mp made)
      ?_ ?_), rfl⟩
    · rw [get?_withDefaultId_of_ne (by decide), get?_withKind_of_ne (by decide), owned (by decide),
        get?_withPlainQuantity (by decide)]
    · rw [withDefaultId, Keyed.get?_putNew_self, get?_withKind_of_ne (by decide), owned (by decide),
        get?_withPlainQuantity (by decide)]

theorem updateItem_stores (distinct : attrs.keys.Nodup) (y : Yields (c.updateItem attrs) p) :
    c.Stores (fun e => ∃ item, Restocked (attrs.get? "referenceId") attrs c.state item e) p := by
  rw [updateItem] at y
  split at y
  · exact .inl (yields_pure.mp y).symm
  rename_i item found
  obtain ⟨merged, made, y⟩ := y.bind
  obtain rfl := yields_pure.mp y
  cases asked : text? attrs "name" with
  | none =>
    rw [asked] at found
    cases found
  | some name =>
    rw [asked] at found
    refine .inr ⟨rfl, merged, ⟨item, ?_⟩, rfl⟩
    exact restocked_of_merged asked found (Keyed.nodup_erase distinct "type")
      (mergedWith_yields.mp made) (Keyed.get?_erase_of_ne (by decide))
      (Keyed.get?_erase_of_ne (by decide))

theorem addCompanion_stores (y : Yields (c.addCompanion attrs) p) :
    c.Stores (Entered (attrs.get? "referenceId") attrs c.state) p := by
  unfold addCompanion at y
  split at y
  · rename_i name description asked told
    obtain ⟨id, drawn, y⟩ := y.bind
    obtain ⟨id, spare, rfl⟩ := newId_yields drawn
    obtain ⟨e, made, y⟩ := y.bind
    have entered : Entered (attrs.get? "referenceId") attrs c.state e := by
      refine entered_of_made (asked ▸ rfl) spare (entityOf_yields.mp made) ?_ ?_
      · rw [get?_withBond (by decide), get?_withDefaultId_of_ne (by decide),
          get?_withKind_of_ne (by decide)]
      · rw [get?_withBond (by decide), withDefaultId, Keyed.get?_putNew_self,
          get?_withKind_of_ne (by decide)]
    split_ifs at y
    · obtain rfl := yields_pure.mp y
      exact .inr ⟨rfl, e, entered, rfl⟩
    · obtain rfl := yields_pure.mp y
      exact .inr ⟨rfl, e, entered, rfl⟩
  · exact .inl (yields_pure.mp y).symm

end Scene

end Gamebook
