import Gamebook.Proofs.Tag.Recasting
import Gamebook.Tag.Update

/-!
Tags that update entities and their bonds. The general update takes a new name from its own field
and a new kind from an attribute; a companion joins the party under the name that the tag gives.
-/

namespace Gamebook

open Attribute
open Play (Yields yields_pure yields_ofOutcome)
open Entity (Alike)

namespace Scene

variable {c : Scene} {p : Played} {attrs : Fields} {kind : TagKind} {e : Entity}

theorem get?_withBond {key : String} (other : "relationship" ≠ key) :
    (withBond attrs).get? key = attrs.get? key := by
  rw [withBond]
  split
  · rfl
  · exact Keyed.get?_put_of_ne other

theorem addCompanion_recasts (y : Yields (c.addCompanion attrs) p) :
    Recasts .companion attrs c.state p.scene.state := by
  unfold addCompanion at y
  split at y
  · rename_i described
    obtain ⟨id, -, y⟩ := y.bind
    obtain ⟨e, made, y⟩ := y.bind
    have made := entityOf_yields.mp made
    have kinded : e.kind = .companion := made_kind made
      ((get?_withBond (by decide)).trans
        ((get?_withDefaultId_of_ne (by decide)).trans get?_withKind))
    have named : rawText? attrs "name" = some e.name := made_name made
      ((get?_withBond (by decide)).trans
        ((get?_withDefaultId_of_ne (by decide)).trans (get?_withKind_of_ne (by decide))))
    have introduces : TagKind.introduces .companion attrs e.name = true := by
      simp [TagKind.introduces, TagKind.introduced?, named, described]
    have result : Recasts .companion attrs c.state ((joinParty e c.state).putKnown e.name e) :=
      .joined introduces (by rw [kinded]; rfl) rfl
    dsimp only at y
    split at y
    all_goals
      obtain rfl := yields_pure.mp y
      exact result
  · obtain rfl := yields_pure.mp y
    exact .retold .refl

/-! ### The general update -/

/-- Whether updates take their texts from a tag's attributes, but for descriptions and what tells
the update itself. -/
structure Takes (attrs updates : Fields) : Prop where
  distinct : updates.keys.Nodup
  text : ∀ key s, key ≠ "description" → updates.get? key = some (.text s) →
    key ∉ updateInstructions ∧ attrs.get? key = some (.text s)

theorem Takes.put {updates : Fields} (h : Takes attrs updates) {v : Value}
    (other : ∀ s, v ≠ .text s) (key : String) : Takes attrs (Keyed.put updates key v) where
  distinct := Keyed.nodup_put h.distinct _ _
  text asked s apart found := by
    rw [Keyed.get?_put] at found
    split_ifs at found
    · exact absurd (Option.some.inj found) (other s)
    · exact h.text asked s apart found

theorem Takes.erase {updates : Fields} (h : Takes attrs updates) (key : String) :
    Takes attrs (Keyed.erase updates key) where
  distinct := Keyed.nodup_erase h.distinct _
  text asked s apart found := by
    by_cases same : key = asked
    · rw [same, Keyed.get?_erase_self] at found
      exact nomatch found
    · exact h.text asked s apart ((Keyed.get?_erase_of_ne same).symm.trans found)

theorem plainUpdates_takes (distinct : attrs.keys.Nodup) : Takes attrs (plainUpdates attrs) := by
  have base : Takes attrs (attrs.without updateInstructions) := by
    refine ⟨Keyed.nodup_without distinct _, fun key s apart found => ?_⟩
    by_cases left : key ∈ updateInstructions
    · rw [Keyed.get?_without_of_mem left] at found
      exact nomatch found
    · exact ⟨left, (Keyed.get?_without left).symm.trans found⟩
  rw [plainUpdates]
  split
  · refine ⟨Keyed.nodup_put base.distinct _ _, fun key s apart found => base.text key s apart ?_⟩
    rwa [Keyed.get?_put_of_ne (Ne.symm apart)] at found
  · exact base

theorem ofNumber_ne_text (x : Number) (s : String) : Value.ofNumber x ≠ .text s := by
  cases x <;> exact nofun

theorem applyChange_takes {updates changed : Fields} (h : Takes attrs updates)
    (ok : applyChange e attrs updates = .ok changed) : Takes attrs changed := by
  unfold applyChange at ok
  split at ok
  · cases ok
    exact h
  · cases ok
    exact h
  · obtain ⟨delta, -, ok⟩ := Outcome.bind_eq_ok.mp ok
    split at ok
    · obtain ⟨sum, -, ok⟩ := Outcome.bind_eq_ok.mp ok
      obtain rfl := Outcome.pure_eq_ok.mp ok
      exact h.put (ofNumber_ne_text sum) _
    · obtain rfl := Outcome.pure_eq_ok.mp ok
      exact h

theorem withPlainExp_takes {updates : Fields} (h : Takes attrs updates) :
    Takes attrs (withPlainExp updates) := by
  rw [withPlainExp]
  split
  · refine h.put (fun s => ?_) _
    rw [numberOrZero]
    split
    · exact ofNumber_ne_text _ s
    · exact nofun
  · exact h

/-- An entity under a general update has the kind that the tag gives, or its kind from before. -/
theorem Takes.kindGiven {updates : Fields} {updated : Entity} {instructions : Fields}
    (h : Takes attrs updates) (distinct : instructions.keys.Nodup)
    (same : instructions.get? "type" = updates.get? "type")
    (made : e.merged instructions = .ok updated) : KindGiven attrs e updated := by
  have kind := Entity.merged_kind distinct made
  rw [same] at kind
  cases given : updates.get? "type" with
  | none =>
    rw [given, Option.none_or] at kind
    exact .inl (EntityKind.eq_of_field kind).symm
  | some v =>
    rw [given, Option.some_or] at kind
    rw [kind] at given
    exact .inr (rawText?_eq_some.mpr (h.text _ _ (by decide) given).2)

theorem Takes.keepsName {updates : Fields} {updated : Entity} (h : Takes attrs updates)
    (made : e.merged updates = .ok updated) : updated.name = e.name := by
  have name := Entity.merged_name h.distinct made
  cases given : updates.get? "name" with
  | none =>
    rw [given, Option.none_or] at name
    exact (Value.text_of_field name).symm
  | some v =>
    rw [given, Option.some_or] at name
    rw [name] at given
    exact absurd (by decide) (h.text _ _ (by decide) given).1

theorem progressIf_rewords {s : GameState} (h : s.WellKeyed) (cond : Bool) :
    Reworded s (progressIf cond s) := by
  rw [progressIf]
  split_ifs
  · exact .progressRealm h
  · exact .refl

theorem updateEntity_recasts (h : c.state.WellKeyed) (distinct : attrs.keys.Nodup)
    (y : Yields (c.updateEntity attrs) p) : Recasts .entityUpdate attrs c.state p.scene.state := by
  rw [updateEntity] at y
  dsimp only at y
  split at y
  · obtain rfl := yields_pure.mp y
    exact .retold .refl
  rename_i e found
  obtain ⟨asked, known⟩ := find?_known h found
  obtain ⟨changed, counted, y⟩ := y.bind
  have takes := withPlainExp_takes
    (applyChange_takes (plainUpdates_takes distinct) (yields_ofOutcome.mp counted))
  generalize withPlainExp changed = updates at takes y
  have chosen : ∀ derived : Bool,
      Takes attrs (if derived then Keyed.erase updates "realm" else updates) := by
    intro derived
    split_ifs
    · exact takes.erase "realm"
    · exact takes
  split at y
  · rename_i newName filtered
    obtain ⟨given, apart⟩ := Option.filter_eq_some_iff.mp filtered
    obtain ⟨updated, made, y⟩ := y.bind
    obtain rfl := yields_pure.mp y
    have takes := chosen (followsExperience c.state e updates)
    have made := mergedWith_yields.mp made
    have nodup := Keyed.nodup_put takes.distinct "name" (.text newName)
    have named := Entity.merged_name nodup made
    rw [Keyed.get?_put_self, Option.some_or] at named
    obtain rfl : newName = updated.name := Value.text_of_field named
    have other : updated.name ≠ e.name := by
      rw [asked] at apart
      simpa using apart
    have start : (c.state.rename e.name updated).WellKeyed := h.rename e.name updated
    have everywhere : Retold (c.state.rename e.name updated)
        (renameEverywhere e updated updated.name c.state) := by
      rw [renameEverywhere]
      split_ifs
      · exact .single (.rewrite _ _ _ none)
      · exact .refl
    refine .renamed rfl known asked given other ?_
      (everywhere.trans (progressIf_rewords (everywhere.wellKeyed start) _).retold)
    exact takes.kindGiven nodup (Keyed.get?_put_of_ne (by decide)) made
  · obtain ⟨updated, made, y⟩ := y.bind
    obtain rfl := yields_pure.mp y
    have takes := chosen (followsExperience c.state e updates)
    have made := mergedWith_yields.mp made
    exact .updated rfl known asked (takes.keepsName made) (takes.kindGiven takes.distinct rfl made)
      (progressIf_rewords (h.put updated) _).retold

end Scene

end Gamebook
