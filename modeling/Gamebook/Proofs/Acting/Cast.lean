import Gamebook.Proofs.Acting.Touching
import Gamebook.Proofs.Skill.Holding
import Gamebook.Proofs.Tag.Attribute
import Gamebook.Proofs.Tag.Definition
import Gamebook.Proofs.Tag.Learning
import Gamebook.Tag.Inventory

/-!
Tags that move the cast: those that introduce things and other characters, those of the inventory,
of skills that are learned or changed, of companions and bonds. Whatever they store is no player, or
is a record with a field changed that says nothing of rank.
-/

namespace Gamebook

open Attribute
open Play (Yields yields_pure yields_ofOutcome)
open Entity (inLine_of_ne)

namespace Skill

theorem eq_nil_of_foldl_listOnce {names more : List String}
    (h : more.foldl listOnce names = []) : names = [] ∧ more = [] := by
  rw [foldl_listOnce] at h
  refine ⟨List.prefix_nil.mp (h ▸ prefix_keepFrom), ?_⟩
  refine List.eq_nil_iff_forall_not_mem.mpr fun name listed => ?_
  have kept : name ∈ keepFrom (fun seen x => decide (x ∈ seen)) names more :=
    mem_keepFrom_mem.mpr (.inr listed)
  rw [h] at kept
  exact nomatch kept

/-- Renaming changes nothing where it names nobody. -/
theorem replaceReferences_of_nobody {s : GameState} {old new : String}
    {holders : Option (List String)} (nobody : (replaceReferences s old new holders).2 = []) :
    (replaceReferences s old new holders).1 = s := by
  obtain ⟨known, party⟩ := eq_nil_of_foldl_listOnce nobody
  have same : ∀ (rename : Entity → Option Entity) (es : List Entity),
      ((es.filter fun e => (rename e).isSome).map (·.name)) = [] →
        ∀ e ∈ es, (rename e).getD e = e := by
    intro rename es empty e member
    have unchanged := List.filter_eq_nil_iff.mp (List.map_eq_nil_iff.mp empty) e member
    rw [Option.not_isSome_iff_eq_none.mp unchanged, Option.getD_none]
  have known := same _ _ known
  have party := same _ _ party
  have keptKnown : s.knownEntities.map (fun pair =>
      (pair.1, (renameKnownHolder holders old new pair.2).getD pair.2)) = s.knownEntities :=
    (List.map_congr_left fun pair member => by
      rw [known pair.2 (List.mem_map_of_mem member)]).trans (List.map_id' _)
  have keptParty : s.party.map (fun e => (renameFor holders old new e).getD e) = s.party :=
    (List.map_congr_left party).trans (List.map_id' _)
  change { s with
    knownEntities := s.knownEntities.map fun pair =>
      (pair.1, (renameKnownHolder holders old new pair.2).getD pair.2)
    party := s.party.map fun e => (renameFor holders old new e).getD e } = s
  rw [keptKnown, keptParty]

end Skill

namespace Scene

variable {c : Scene} {p : Played} {attrs fields : Fields} {kind : TagKind} {e : Entity}
  {name : Option String}

theorem find?_found (h : c.find? name = some e) : ∃ key, c.state.find? key = some e := by
  cases name with
  | none => exact nomatch h
  | some key =>
    rw [find?] at h
    split_ifs at h
    exact ⟨key, h⟩

theorem ownedItem?_kind (h : c.ownedItem? name = some e) : e.kind = .item := by
  have owned := (Option.filter_eq_some_iff.mp h).2
  rw [Entity.isOwnedItem, Bool.and_eq_true] at owned
  exact of_decide_eq_true owned.1

theorem skill?_kind (h : c.skill? name = some e) : e.kind = .skill :=
  of_decide_eq_true (Option.filter_eq_some_iff.mp h).2

/-- Whatever kind an entity is stored with, it is no player if the kind is none. -/
theorem moves_put {introduced : EntityKind} (kinded : e.kind = introduced)
    (other : introduced ≠ .pc) (s : GameState) : Moves s (s.put e) :=
  .put (inLine_of_ne (kinded ▸ other))

/-! ### Introducing -/

theorem define_acts {introduced : EntityKind} (other : introduced ≠ .pc)
    (y : Yields (c.define introduced fields) p) : Acts kind attrs c p := by
  rw [define] at y
  split at y
  · obtain rfl := yields_pure.mp y
    exact .kept
  · obtain ⟨id, -, y⟩ := y.bind
    obtain ⟨e, made, y⟩ := y.bind
    obtain rfl := yields_pure.mp y
    have kinded : e.kind = introduced := made_kind (entityOf_yields.mp made)
      ((get?_withDefaultId_of_ne (by decide)).trans get?_withKind)
    exact .moved (moves_put kinded other _)

theorem defineSkill_acts (y : Yields (c.defineSkill fields) p) : Acts kind attrs c p := by
  rw [defineSkill] at y
  split at y
  · obtain rfl := yields_pure.mp y
    exact .kept
  · exact define_acts (by decide) y

/-- A record that is brought up to date is of a kind that may be, and one that is introduced has the
kind of its tag; neither is the player. -/
theorem refresh_kind {introduced : EntityKind} (other : introduced ≠ .pc)
    (distinct : attrs.keys.Nodup) {name : String}
    (y : Yields (c.refresh introduced attrs name) e) : e.kind ≠ .pc := by
  rw [refresh] at y
  split at y
  · rename_i existing found
    have may := (Option.filter_eq_some_iff.mp found).2
    have laid : (keepingIdentity existing name attrs).keys.Nodup := Keyed.nodup_update distinct _
    have kinded := Entity.merged_kind laid (mergedWith_yields.mp y)
    rw [get?_keepingIdentity] at kinded
    rw [← EntityKind.eq_of_field kinded]
    rintro player
    rw [player, refreshedKinds] at may
    split_ifs at may
    · cases may
    · exact other (Eq.symm (by simpa using may))
  · obtain ⟨id, -, y⟩ := y.bind
    rw [made_kind (entityOf_yields.mp y) ((get?_withId_of_ne (by decide)).trans get?_withKind)]
    exact other

theorem describe_acts {introduced : EntityKind} (other : introduced ≠ .pc)
    (distinct : attrs.keys.Nodup) (y : Yields (c.describe introduced attrs) p) :
    Acts kind attrs c p := by
  rw [describe] at y
  split at y
  · obtain rfl := yields_pure.mp y
    exact .kept
  · obtain ⟨e, refreshed, y⟩ := y.bind
    obtain rfl := yields_pure.mp y
    exact .moved (.put (inLine_of_ne (refresh_kind other distinct refreshed)))

theorem describePlace_acts (distinct : attrs.keys.Nodup) (y : Yields (c.describePlace attrs) p) :
    Acts kind attrs c p := by
  rw [describePlace] at y
  split at y
  · obtain rfl := yields_pure.mp y
    exact .kept
  split_ifs at y
  · obtain ⟨e, refreshed, y⟩ := y.bind
    obtain rfl := yields_pure.mp y
    have place := refresh_kind (by decide) (Keyed.nodup_put distinct _ _) refreshed
    exact .changed ((Touched.move (.put (inLine_of_ne place))).tail (.discover _ e.name))
  · obtain ⟨e, refreshed, y⟩ := y.bind
    obtain rfl := yields_pure.mp y
    exact .moved (.put (inLine_of_ne (refresh_kind (by decide) distinct refreshed)))

theorem withBond_type (attrs : Fields) : (withBond attrs).get? "type" = attrs.get? "type" := by
  rw [withBond]
  split
  · rfl
  · exact Keyed.get?_put_of_ne (by decide)

theorem addCompanion_acts (y : Yields (c.addCompanion attrs) p) : Acts kind attrs c p := by
  unfold addCompanion at y
  split at y
  · obtain ⟨id, -, y⟩ := y.bind
    obtain ⟨e, made, y⟩ := y.bind
    have kinded : e.kind = .companion := made_kind (entityOf_yields.mp made)
      ((withBond_type _).trans ((get?_withDefaultId_of_ne (by decide)).trans get?_withKind))
    have joined : Moves c.state ((joinParty e c.state).putKnown e.name e) :=
      .join (inLine_of_ne (by rw [kinded]; decide))
    dsimp only at y
    split at y
    all_goals
      obtain rfl := yields_pure.mp y
      exact .moved joined
  · obtain rfl := yields_pure.mp y
    exact .kept

/-! ### The inventory -/

theorem acquire_acts (distinct : attrs.keys.Nodup) (y : Yields (c.acquire attrs) p) :
    Acts kind attrs c p := by
  have plain : (withPlainQuantity attrs).keys.Nodup := by
    rw [withPlainQuantity]
    split
    · split_ifs
      · exact distinct
      · exact Keyed.nodup_erase distinct _
    · exact distinct
  rw [acquire] at y
  split at y
  · obtain rfl := yields_pure.mp y
    exact .kept
  dsimp only at y
  split at y
  · rename_i item owned
    obtain ⟨updates, added, y⟩ := y.bind
    obtain ⟨merged, made, y⟩ := y.bind
    obtain rfl := yields_pure.mp y
    obtain ⟨total, -, added⟩ := Outcome.bind_eq_ok.mp (yields_ofOutcome.mp added)
    obtain rfl := Outcome.pure_eq_ok.mp added
    -- The kind is none of the fields of a stack, so it stays that of the item.
    have untyped : Keyed.get? (Keyed.put ((withPlainQuantity attrs).without
        ["quantities", "uses", "type"]) (stackField item) (.ofNumber total)) "type" = none := by
      rw [Keyed.get?_put_of_ne, Keyed.get?_without_of_mem (by decide)]
      rw [stackField]
      split_ifs <;> decide
    have kinded := Entity.merged_kind
      (Keyed.nodup_put (Keyed.nodup_without plain _) _ _) (mergedWith_yields.mp made)
    rw [untyped, Option.none_or] at kinded
    exact .moved (moves_put ((EntityKind.eq_of_field kinded).symm.trans (ownedItem?_kind owned))
      (by decide) _)
  · obtain ⟨id, -, y⟩ := y.bind
    obtain ⟨item, made, y⟩ := y.bind
    obtain rfl := yields_pure.mp y
    exact .moved (moves_put (made_kind (entityOf_yields.mp made)
      ((get?_withDefaultId_of_ne (by decide)).trans get?_withKind)) (by decide) _)

theorem withSupply_kind (item : Entity) (x : Number) : (withSupply item x).kind = item.kind := by
  rw [withSupply]
  split_ifs <;> rfl

theorem consume_acts (y : Yields (c.consume attrs) p) : Acts kind attrs c p := by
  rw [consume] at y
  split at y
  · obtain rfl := yields_pure.mp y
    exact .kept
  rename_i item owned
  obtain ⟨amount, -, y⟩ := y.bind
  split at y
  · obtain rfl := yields_pure.mp y
    exact .moved (.forget c.state item.name)
  · split_ifs at y
    · obtain rfl := yields_pure.mp y
      exact .moved (.forget c.state item.name)
    · obtain ⟨rest, -, y⟩ := y.bind
      obtain rfl := yields_pure.mp y
      exact .moved (moves_put ((withSupply_kind item rest).trans (ownedItem?_kind owned))
        (by decide) _)

theorem equip_acts (y : Yields (c.equip attrs) p) : Acts kind attrs c p := by
  rw [equip] at y
  split at y
  · rename_i item found
    obtain rfl := yields_pure.mp y
    have kinded := ownedItem?_kind (Option.filter_eq_some_iff.mp found).1
    exact .moved (moves_put (e := { item with equipped := true }) kinded (by decide) _)
  · obtain rfl := yields_pure.mp y
    exact .kept

theorem unequip_acts (y : Yields (c.unequip attrs) p) : Acts kind attrs c p := by
  rw [unequip] at y
  split at y
  · rename_i item owned
    obtain rfl := yields_pure.mp y
    have kinded := ownedItem?_kind owned
    exact .moved (moves_put (e := { item with equipped := false }) kinded (by decide) _)
  · obtain rfl := yields_pure.mp y
    exact .kept

theorem transform_acts (y : Yields (c.transform attrs) p) : Acts kind attrs c p := by
  unfold transform at y
  split at y
  · rename_i old new _ _
    obtain ⟨id, -, y⟩ := y.bind
    obtain ⟨item, made, y⟩ := y.bind
    obtain rfl := yields_pure.mp y
    have typed : (transformedFields attrs old new (c.state.find? old) id).get? "type" =
        some (.text EntityKind.item.name) := by
      refine (Keyed.get?_update ?_ _ "type").trans rfl
      change ["name", "type", "owner", "description", "referenceId"].Nodup
      decide
    have kinded : item.kind = .item := made_kind (entityOf_yields.mp made) typed
    exact .changed ((Touched.move (.forget c.state old)).tail (.cast (moves_put kinded (by decide) _)))
  · obtain rfl := yields_pure.mp y
    exact .kept

theorem updateItem_acts (distinct : attrs.keys.Nodup) (y : Yields (c.updateItem attrs) p) :
    Acts kind attrs c p := by
  rw [updateItem] at y
  split at y
  · obtain rfl := yields_pure.mp y
    exact .kept
  · rename_i item owned
    obtain ⟨merged, made, y⟩ := y.bind
    obtain rfl := yields_pure.mp y
    have kinded := Entity.merged_kind (Keyed.nodup_erase distinct "type") (mergedWith_yields.mp made)
    rw [Keyed.get?_erase_self, Option.none_or] at kinded
    exact .moved (moves_put ((EntityKind.eq_of_field kinded).symm.trans (ownedItem?_kind owned))
      (by decide) _)

theorem wear_acts {effect : Number → Outcome Number} (y : Yields (c.wear effect attrs) p) :
    Acts kind attrs c p := by
  rw [wear] at y
  split at y
  · obtain rfl := yields_pure.mp y
    exact .kept
  · rename_i e found
    obtain ⟨key, held⟩ := find?_found found
    split at y
    · obtain rfl := yields_pure.mp y
      exact .kept
    · obtain ⟨durability, -, y⟩ := y.bind
      obtain rfl := yields_pure.mp y
      exact .moved (.amend held ⟨rfl, rfl, rfl⟩)

theorem lose_acts (y : Yields (c.lose attrs) p) : Acts kind attrs c p := by
  rw [lose] at y
  split at y
  · rename_i item owned
    obtain rfl := yields_pure.mp y
    exact .moved (.forget c.state item.name)
  · obtain rfl := yields_pure.mp y
    exact .kept

theorem requestSpecialItem_acts (y : Yields (c.requestSpecialItem attrs) p) :
    Acts kind attrs c p := by
  obtain rfl := yields_pure.mp y
  exact .changed .refl

theorem changeRelationship_acts (y : Yields (c.changeRelationship attrs) p) :
    Acts kind attrs c p := by
  rw [changeRelationship] at y
  split at y
  · obtain rfl := yields_pure.mp y
    exact .kept
  · rename_i e found
    obtain ⟨key, held⟩ := find?_found found
    dsimp only at y
    split at y
    all_goals
      obtain rfl := yields_pure.mp y
      exact .moved (.amend held ⟨rfl, rfl, rfl⟩)

/-! ### Learning -/

theorem teach_touched (learner : Option String) (name description : String) (skill : Entity) :
    Touched kind attrs c.state (c.teach learner name description skill).state := by
  have same := resolveLearner_state (c := c) learner name description
  rw [teach]
  generalize c.resolveLearner learner name description = resolved at same
  obtain ⟨holder, next⟩ := resolved
  dsimp only at same ⊢
  cases holder with
  | none => exact same ▸ .refl
  | some holder => exact same ▸ .move (.teach next.state holder skill.name)

theorem makeWay?_touched {name : String} {cleared : Scene} (way : c.makeWay? name = some cleared) :
    Touched kind attrs c.state cleared.state := by
  rw [makeWay?] at way
  split at way
  · exact Option.some.inj way ▸ .refl
  · rename_i old _
    split_ifs at way
    · obtain rfl := Option.some.inj way
      exact (Touched.move (.rewrite c.state old.name name none)).tail (.cast (.forget _ old.name))
    · exact Option.some.inj way ▸ .refl

theorem learn_acts (distinct : attrs.keys.Nodup) (y : Yields (c.learn attrs) p) :
    Acts kind attrs c p := by
  cases learn_learns distinct y with
  | kept => exact .kept
  | @refreshed name description known skill learner named described found same =>
    have isSkill : known.kind = .skill :=
      of_decide_eq_true (List.mem_filter.mp (List.mem_of_find?_eq_some found)).2
    have put : Moves c.state (c.state.put skill) :=
      moves_put (same.kind.trans isSkill) (by decide) _
    exact .changed ((Touched.move put).trans (teach_touched (c := c.put skill) ..))
  | @defined name description cleared skill learner named described unknown way raw isSkill =>
    have put : Touched kind attrs c.state (cleared.state.put skill) :=
      (makeWay?_touched way).tail (.cast (moves_put isSkill (by decide) _))
    exact .changed (put.trans (teach_touched (c := cleared.put skill) ..))

theorem Succeeds.touched {new : String} {s r : GameState} (h : Succeeds attrs new s r) :
    Touched kind attrs s r := by
  cases h with
  | plain undescribed => exact .refl
  | described told named isSkill => exact .move (moves_put isSkill (by decide) _)

theorem changeSkill_acts (y : Yields (c.changeSkill attrs) p) : Acts kind attrs c p := by
  have rewritten {old new : String} {r : GameState} (succeeds : Succeeds attrs new c.state r) :
      Touched kind attrs c.state
        (Skill.replaceReferences r old new (targetHolders r (text? attrs "target"))).1 :=
    succeeds.touched.tail (.cast (.rewrite r old new _))
  cases changeSkill_changes y with
  | kept => exact .kept
  | @unheld old new r _ source target apart succeeds nobody state told =>
    refine ⟨state ▸ .plain (rewritten succeeds), fun untold _ => ?_⟩
    rw [state, Skill.replaceReferences_of_nobody nobody]
    cases succeeds with
    | plain undescribed => rfl
    | described described => exact nomatch described.symm.trans (told.symm.trans untold)
  | @renamed old new r _ source target apart succeeds somebody state told =>
    refine ⟨.plain ?_, fun untold => nomatch told.symm.trans untold⟩
    rw [state, forgetUnheld]
    split_ifs
    · exact (rewritten succeeds).tail (.cast (.forget _ old))
    · exact rewritten succeeds

end Scene

end Gamebook
