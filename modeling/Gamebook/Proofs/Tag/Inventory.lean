import Gamebook.Proofs.Tag.Recasting
import Gamebook.Tag.Inventory

/-!
Tags of the inventory. What is stacked or updated stays an item, under the name that the tag gives;
only items are used up or lost, but anything may be transformed.
-/

namespace Gamebook

open Attribute
open Play (Yields yields_pure yields_ofOutcome)
open Entity (Alike)

namespace Scene

variable {c : Scene} {p : Played} {attrs : Fields} {kind : TagKind} {e : Entity}

theorem get?_withPlainQuantity {key : String} (h : "quantities" ≠ key) :
    (withPlainQuantity attrs).get? key = attrs.get? key := by
  rw [withPlainQuantity]
  split
  · split_ifs
    · rfl
    · exact Keyed.get?_erase_of_ne h
  · rfl

theorem get?_stacked {item : Entity} {updates : Fields} {key : String}
    (h : stacked item attrs = .ok updates) (quantities : "quantities" ≠ key) (uses : "uses" ≠ key) :
    updates.get? key = if key = "type" then none else attrs.get? key := by
  obtain ⟨total, -, h⟩ := Outcome.bind_eq_ok.mp h
  obtain rfl := Outcome.pure_eq_ok.mp h
  have field : stackField item ≠ key := by
    rw [stackField]
    split_ifs
    · exact uses
    · exact quantities
  rw [Keyed.get?_put_of_ne field]
  split_ifs with type
  · exact Keyed.get?_without_of_mem (by simp [type])
  · exact Keyed.get?_without (by simp [type, quantities.symm, uses.symm])

theorem nodup_stacked {item : Entity} {updates : Fields} (distinct : attrs.keys.Nodup)
    (h : stacked item attrs = .ok updates) : updates.keys.Nodup := by
  obtain ⟨total, -, h⟩ := Outcome.bind_eq_ok.mp h
  obtain rfl := Outcome.pure_eq_ok.mp h
  exact Keyed.nodup_put (Keyed.nodup_without distinct _) _ _

theorem nodup_withPlainQuantity (distinct : attrs.keys.Nodup) :
    (withPlainQuantity attrs).keys.Nodup := by
  rw [withPlainQuantity]
  split
  · split_ifs
    · exact distinct
    · exact Keyed.nodup_erase distinct _
  · exact distinct

theorem acquire_recasts (h : c.state.WellKeyed) (distinct : attrs.keys.Nodup)
    (y : Yields (c.acquire attrs) p) : Recasts .itemAcquired attrs c.state p.scene.state := by
  rw [acquire] at y
  split at y
  · obtain rfl := yields_pure.mp y
    exact .retold .refl
  rename_i name given
  have bring : ∀ e : Entity, rawText? attrs "name" = some e.name → e.kind = .item →
      Recasts .itemAcquired attrs c.state (c.state.put e) := by
    intro e named kinded
    refine .introduced (e := e) ?_ (by rw [kinded]; rfl) .refl
    simp [TagKind.introduces, TagKind.introduced?, TagKind.needsDescription, named]
  split at y
  · rename_i item found
    obtain ⟨updates, added, y⟩ := y.bind
    obtain ⟨merged, made, y⟩ := y.bind
    obtain rfl := yields_pure.mp y
    have added := yields_ofOutcome.mp added
    have plain := nodup_withPlainQuantity distinct
    have same : updates.get? "name" = attrs.get? "name" :=
      (get?_stacked added (by decide) (by decide)).trans (get?_withPlainQuantity (by decide))
    obtain ⟨named, kinded⟩ := merged_rename (nodup_stacked plain added)
      (mergedWith_yields.mp made) same given (get?_stacked added (by decide) (by decide))
    exact bring merged named (kinded.trans (ownedItem?_known h found).2.2)
  · obtain ⟨id, -, y⟩ := y.bind
    obtain ⟨item, made, y⟩ := y.bind
    obtain rfl := yields_pure.mp y
    have made := entityOf_yields.mp made
    have owned : ∀ fields : Fields, fields.keys.Nodup →
        (withOwner fields).get? "name" = fields.get? "name" := by
      intro fields distinct
      rw [withOwner, Keyed.get?_update distinct]
      exact Option.or_none
    refine bring item (made_name made ?_)
      (made_kind made ((get?_withDefaultId_of_ne (by decide)).trans get?_withKind))
    rw [get?_withDefaultId_of_ne (by decide), get?_withKind_of_ne (by decide),
      owned _ (nodup_withPlainQuantity distinct), get?_withPlainQuantity (by decide)]

theorem updateItem_recasts (h : c.state.WellKeyed) (distinct : attrs.keys.Nodup)
    (y : Yields (c.updateItem attrs) p) : Recasts .itemUpdated attrs c.state p.scene.state := by
  rw [updateItem] at y
  split at y
  · obtain rfl := yields_pure.mp y
    exact .retold .refl
  rename_i item found
  obtain ⟨merged, made, y⟩ := y.bind
  obtain rfl := yields_pure.mp y
  obtain ⟨given, known, kind⟩ := ownedItem?_known h found
  have same : (attrs.erase "type").get? "name" = attrs.get? "name" :=
    Keyed.get?_erase_of_ne (by decide)
  obtain ⟨named, kinded⟩ := merged_rename (Keyed.nodup_erase distinct "type")
    (mergedWith_yields.mp made) same given (Keyed.get?_erase_self attrs "type")
  by_cases same : merged.name = item.name
  · exact .retold (.putAlike known ⟨same, kinded⟩)
  · -- The item was looked up without the blanks around its name and is stored with them.
    have trimmed : Text.trim merged.name = item.name :=
      text?_of_raw (rawText?_eq_some.mp named) given
    have blank : Text.trim merged.name ≠ merged.name := fun plain => same (plain ▸ trimmed)
    refine .introduced (e := merged) ?_ (by rw [kinded, kind]; rfl) .refl
    simp [TagKind.introduces, TagKind.introduced?, TagKind.needsDescription, named, blank]

theorem consume_recasts (h : c.state.WellKeyed) (y : Yields (c.consume attrs) p) :
    Recasts .itemConsumed attrs c.state p.scene.state := by
  rw [consume] at y
  split at y
  · obtain rfl := yields_pure.mp y
    exact .retold .refl
  rename_i item found
  obtain ⟨asked, known, isItem⟩ := ownedItem?_known h found
  have owned := (Option.filter_eq_some_iff.mp found).2
  obtain ⟨amount, -, y⟩ := y.bind
  split at y
  · obtain rfl := yields_pure.mp y
    exact .forgotten known isItem rfl asked owned
  · split_ifs at y
    · obtain rfl := yields_pure.mp y
      exact .forgotten known isItem rfl asked owned
    · obtain ⟨rest, -, y⟩ := y.bind
      obtain rfl := yields_pure.mp y
      refine .retold (.putAlike known ?_)
      rw [withSupply]
      split_ifs <;> exact ⟨rfl, rfl⟩

theorem lose_recasts (tag : kind.usesUp = true) (h : c.state.WellKeyed)
    (y : Yields (c.lose attrs) p) : Recasts kind attrs c.state p.scene.state := by
  rw [lose] at y
  split at y
  · rename_i item found
    obtain ⟨asked, known, isItem⟩ := ownedItem?_known h found
    obtain rfl := yields_pure.mp y
    exact .forgotten known isItem tag asked (Option.filter_eq_some_iff.mp found).2
  · obtain rfl := yields_pure.mp y
    exact .retold .refl

theorem get?_transformedFields (attrs : Fields) (old new : String) (source : Option Entity)
    (id : Value) :
    (transformedFields attrs old new source id).get? "name" = some (.text new) ∧
      (transformedFields attrs old new source id).get? "type" =
        some (.text EntityKind.item.name) := by
  rw [transformedFields, Keyed.get?_update, Keyed.get?_update]
  · exact ⟨rfl, rfl⟩
  all_goals
    change ["name", "type", "owner", "description", "referenceId"].Nodup
    decide

theorem transform_recasts (y : Yields (c.transform attrs) p) :
    Recasts .itemTransformed attrs c.state p.scene.state := by
  unfold transform at y
  split at y
  · rename_i old new source target
    obtain ⟨id, -, y⟩ := y.bind
    obtain ⟨item, made, y⟩ := y.bind
    obtain rfl := yields_pure.mp y
    have made := entityOf_yields.mp made
    obtain ⟨name, type⟩ := get?_transformedFields attrs old new (c.state.find? old) id
    have same : new = item.name :=
      Value.text_of_field (name.symm.trans (Entity.ofFields_name made))
    exact .transformed rfl source (same ▸ target) (made_kind made type)
  · obtain rfl := yields_pure.mp y
    exact .retold .refl

end Scene

end Gamebook
