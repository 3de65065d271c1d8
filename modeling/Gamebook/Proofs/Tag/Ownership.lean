import Gamebook.Proofs.Tag.Filing
import Gamebook.Tag.Interpretation

/-!
What tags of the inventory leave alone. But for damage and repair they only touch the items of the
player and whatever has a name that they take over: an item that is acquired takes over its name,
one that is transformed its old and its new name, and one that is updated a name with blanks around
it.
-/

namespace Gamebook

open Attribute
open Play (Yields yields_pure)

/-- The tags that are about the items of the player. -/
def TagKind.ofInventory : List TagKind :=
  [.itemAcquired, .itemConsumed, .itemEquipped, .itemUnequipped, .itemTransformed, .itemUpdated,
    .itemDiscarded, .itemLost]

variable {kind : TagKind} {attrs : Fields} {s t : GameState} {e item : Entity}

/-- Whether everything known stays as it is but for the player's items and what a tag takes over. -/
def SparesUnowned (kind : TagKind) (attrs : Fields) (s t : GameState) : Prop :=
  ∀ e, s.find? e.name = some e → e.isOwnedItem = false → kind.takesOver attrs e.name = false →
    t.find? e.name = some e

namespace SparesUnowned

theorem refl : SparesUnowned kind attrs s s := fun _ known _ _ => known

/-- Nothing else is known under the name of an item of the player. -/
theorem ne_of_owned {name : String} (known : s.find? name = some item)
    (owned : item.isOwnedItem = true) (other : s.find? e.name = some e)
    (unowned : e.isOwnedItem = false) : name ≠ e.name := by
  intro same
  rw [← same, known] at other
  obtain rfl := Option.some.inj other
  exact Bool.false_ne_true (unowned.symm.trans owned)

theorem put {updated : Entity} (known : s.find? item.name = some item)
    (owned : item.isOwnedItem = true) (same : updated.name = item.name) :
    SparesUnowned kind attrs s (s.put updated) := by
  intro e other unowned untaken
  rw [GameState.find?_put, same, if_neg (ne_of_owned known owned other unowned)]
  exact other

theorem forget (known : s.find? item.name = some item) (owned : item.isOwnedItem = true) :
    SparesUnowned kind attrs s (s.forget item.name) := by
  intro e other unowned untaken
  rw [GameState.find?_forget, if_neg (ne_of_owned known owned other unowned).symm]
  exact other

/-- What is stored under a name that the tag takes over is in nobody's way. -/
theorem takeOver {stored : Entity} (taken : kind.takesOver attrs stored.name = true)
    (rest : t.knownEntities = s.knownEntities.put stored.name stored) :
    SparesUnowned kind attrs s t := by
  intro e other unowned untaken
  have apart : stored.name ≠ e.name := by
    intro same
    rw [same] at taken
    exact Bool.false_ne_true (untaken.symm.trans taken)
  rw [GameState.find?, rest, Keyed.get?_put_of_ne apart]
  exact other

end SparesUnowned

namespace Scene

variable {c : Scene} {p : Played}

theorem ownedItem?_owned {name : Option String} (keyed : c.state.WellKeyed)
    (found : c.ownedItem? name = some item) :
    c.state.find? item.name = some item ∧ item.isOwnedItem = true :=
  ⟨(ownedItem?_known keyed found).2.1, (Option.filter_eq_some_iff.mp found).2⟩

theorem acquire_spares (distinct : attrs.keys.Nodup) (y : Yields (c.acquire attrs) p) :
    SparesUnowned .itemAcquired attrs c.state p.scene.state := by
  rcases acquire_stores distinct y with rfl | ⟨-, stored, filed, rest⟩
  · exact .refl
  · have named : rawText? attrs "name" = some stored.name := by
      rcases filed with entered | ⟨item, restocked⟩
      · exact entered.named
      · exact restocked.named
    refine .takeOver ?_ rest
    simp [TagKind.takesOver, TagKind.introduces, TagKind.introduced?, TagKind.needsDescription,
      named]

theorem updateItem_spares (distinct : attrs.keys.Nodup) (y : Yields (c.updateItem attrs) p) :
    SparesUnowned .itemUpdated attrs c.state p.scene.state := by
  rcases updateItem_stores distinct y with rfl | ⟨-, stored, ⟨item, restocked⟩, rest⟩
  · exact .refl
  obtain ⟨name, asked, known⟩ := restocked.asked
  have named := restocked.named
  by_cases padded : Text.trim stored.name = stored.name
  · -- The item is stored under the name that it was looked up with.
    obtain rfl : stored.name = name :=
      padded.symm.trans (text?_of_raw (rawText?_eq_some.mp named) asked)
    intro e other unowned untaken
    rw [GameState.find?, rest,
      Keyed.get?_put_of_ne (SparesUnowned.ne_of_owned known restocked.owned other unowned)]
    exact other
  · refine .takeOver ?_ rest
    simp [TagKind.takesOver, TagKind.introduces, TagKind.introduced?, TagKind.needsDescription,
      named, padded]

theorem consume_spares (keyed : c.state.WellKeyed) (y : Yields (c.consume attrs) p) :
    SparesUnowned .itemConsumed attrs c.state p.scene.state := by
  rw [consume] at y
  split at y
  · obtain rfl := yields_pure.mp y
    exact .refl
  rename_i item found
  obtain ⟨known, owned⟩ := ownedItem?_owned keyed found
  obtain ⟨amount, -, y⟩ := y.bind
  split at y
  · obtain rfl := yields_pure.mp y
    exact .forget known owned
  · split_ifs at y
    · obtain rfl := yields_pure.mp y
      exact .forget known owned
    · obtain ⟨rest, -, y⟩ := y.bind
      obtain rfl := yields_pure.mp y
      refine .put known owned ?_
      rw [withSupply]
      split_ifs <;> rfl

theorem equip_spares (keyed : c.state.WellKeyed) (y : Yields (c.equip attrs) p) :
    SparesUnowned kind attrs c.state p.scene.state := by
  rw [equip] at y
  split at y
  · rename_i item found
    obtain ⟨known, owned⟩ := ownedItem?_owned keyed (Option.filter_eq_some_iff.mp found).1
    obtain rfl := yields_pure.mp y
    exact .put known owned rfl
  · obtain rfl := yields_pure.mp y
    exact .refl

theorem unequip_spares (keyed : c.state.WellKeyed) (y : Yields (c.unequip attrs) p) :
    SparesUnowned kind attrs c.state p.scene.state := by
  rw [unequip] at y
  split at y
  · rename_i item found
    obtain ⟨known, owned⟩ := ownedItem?_owned keyed found
    obtain rfl := yields_pure.mp y
    exact .put known owned rfl
  · obtain rfl := yields_pure.mp y
    exact .refl

theorem lose_spares (keyed : c.state.WellKeyed) (y : Yields (c.lose attrs) p) :
    SparesUnowned kind attrs c.state p.scene.state := by
  rw [lose] at y
  split at y
  · rename_i item found
    obtain ⟨known, owned⟩ := ownedItem?_owned keyed found
    obtain rfl := yields_pure.mp y
    exact .forget known owned
  · obtain rfl := yields_pure.mp y
    exact .refl

theorem transform_spares (y : Yields (c.transform attrs) p) :
    SparesUnowned .itemTransformed attrs c.state p.scene.state := by
  unfold transform at y
  split at y
  · rename_i old new source target
    obtain ⟨id, -, y⟩ := y.bind
    obtain ⟨item, made, y⟩ := y.bind
    obtain rfl := yields_pure.mp y
    have name := (get?_transformedFields attrs old new (c.state.find? old) id).1
    obtain rfl : new = item.name :=
      Value.text_of_field (name.symm.trans (Entity.ofFields_name (entityOf_yields.mp made)))
    intro e other unowned untaken
    simp only [TagKind.takesOver, source, target] at untaken
    rw [Bool.or_eq_false_iff, decide_eq_false_iff_not, decide_eq_false_iff_not] at untaken
    change ((c.state.forget old).put item).find? e.name = some e
    rw [GameState.find?_put, if_neg untaken.2, GameState.find?_forget, if_neg (Ne.symm untaken.1)]
    exact other
  · obtain rfl := yields_pure.mp y
    exact .refl

end Scene

open Scene

/-- Whatever is known and is no item of the player is the same after a tag of the inventory, unless
the tag takes its name over. -/
theorem TagKind.play_spares_unowned {c : Scene} {p : Played} (inventory : kind ∈ ofInventory)
    (keyed : c.state.WellKeyed) (distinct : attrs.keys.Nodup) (y : Yields (kind.play attrs c) p)
    (known : c.state.find? e.name = some e) (unowned : e.isOwnedItem = false)
    (untaken : kind.takesOver attrs e.name = false) : p.scene.state.find? e.name = some e := by
  suffices SparesUnowned kind attrs c.state p.scene.state from this e known unowned untaken
  cases kind with
  | itemAcquired => exact acquire_spares distinct y
  | itemConsumed => exact consume_spares keyed y
  | itemEquipped => exact equip_spares keyed y
  | itemUnequipped => exact unequip_spares keyed y
  | itemTransformed => exact transform_spares y
  | itemUpdated => exact updateItem_spares distinct y
  | itemDiscarded => exact lose_spares keyed y
  | itemLost => exact lose_spares keyed y
  | _ => exact absurd inventory (by decide)

/-- A peddler who is nobody's item. -/
def peddler : Entity := { name := "Lan", kind := .npc }

/-- The peddler and a ring of the player. -/
def bazaar : GameState :=
  { knownEntities :=
      [("Lan", peddler), ("Ring", { name := "Ring", kind := .item, owner := some "pc" })] }

/-- A tag that makes one thing of another. -/
def recasting (old new : String) : Fields := [("oldName", .text old), ("newName", .text new)]

theorem bazaar_spares_peddler : .itemTransformed ∈ TagKind.ofInventory ∧ bazaar.WellKeyed ∧
    (recasting "Ring" "Crown").keys.Nodup ∧ peddler.isOwnedItem = false ∧
    TagKind.itemTransformed.takesOver (recasting "Ring" "Crown") peddler.name = false ∧
    ∃ p, Yields (TagKind.itemTransformed.play (recasting "Ring" "Crown") { state := bazaar }) p ∧
      p.scene.state.knownEntities.keys = ["Lan", "Crown"] ∧
      p.scene.state.find? peddler.name = some peddler := by
  have keyed : bazaar.WellKeyed := by decide
  have untaken : TagKind.itemTransformed.takesOver (recasting "Ring" "Crown") peddler.name =
      false := by decide
  have crowned : Play.passes (TagKind.itemTransformed.play (recasting "Ring" "Crown")
      { state := bazaar }) {} (fun p _ => p.scene.state.knownEntities.keys = ["Lan", "Crown"]) =
        true := by
    decide +kernel
  obtain ⟨p, d', ok, keys⟩ := Play.exists_of_passes crowned
  have y : Yields (TagKind.itemTransformed.play (recasting "Ring" "Crown") { state := bazaar }) p :=
    ⟨{}, d', ok⟩
  exact ⟨by decide, keyed, by decide, rfl, untaken, p, y, of_decide_eq_true keys,
    TagKind.play_spares_unowned (c := { state := bazaar }) (by decide) keyed (by decide) y rfl rfl
      untaken⟩

/-- Whoever is called the old name becomes the new item. -/
theorem bazaar_loses_peddler : .itemTransformed ∈ TagKind.ofInventory ∧ bazaar.WellKeyed ∧
    (recasting "Lan" "Pearl").keys.Nodup ∧ bazaar.find? peddler.name = some peddler ∧
    peddler.isOwnedItem = false ∧
    ∃ p, Yields (TagKind.itemTransformed.play (recasting "Lan" "Pearl") { state := bazaar }) p ∧
      p.scene.state.find? peddler.name = none := by
  have gone : Play.passes (TagKind.itemTransformed.play (recasting "Lan" "Pearl")
      { state := bazaar }) {} (fun p _ => (p.scene.state.find? peddler.name).isNone) = true := by
    decide +kernel
  obtain ⟨p, d', ok, absent⟩ := Play.exists_of_passes gone
  exact ⟨by decide, by decide, by decide, rfl, rfl, p, ⟨{}, d', ok⟩,
    Option.isNone_iff_eq_none.mp absent⟩

end Gamebook
