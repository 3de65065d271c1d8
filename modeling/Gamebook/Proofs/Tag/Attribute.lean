import Gamebook.Proofs.Entity.Reading
import Gamebook.Proofs.Play
import Gamebook.Proofs.Tag.Retelling
import Gamebook.Tag.Scene

/-!
Attributes as entities take them. A name is taken as the tag gives it, with the blanks around it,
while lookups leave these out; so an entity may come to stand beside the one that was looked up.
-/

namespace Gamebook

open Attribute
open Play (Yields yields_ofOutcome)
open Entity (Alike)

section Attributes

variable {attrs fields : Fields} {key name : String} {kind : EntityKind} {id : Value} {e : Entity}

/-- A text as a tag gives it, with the blanks around it. -/
def Attribute.rawText? (attrs : Fields) (key : String) : Option String :=
  match Value.field attrs key with
  | .text s => some s
  | _ => none

theorem rawText?_eq_some : rawText? attrs key = some name ↔ attrs.get? key = some (.text name) := by
  rw [rawText?, Value.field]
  constructor
  · intro h
    split at h
    · rename_i s given
      obtain rfl := Option.some.inj h
      cases found : attrs.get? key with
      | none => rw [found] at given; exact nomatch given
      | some v => rw [found] at given; exact congrArg some given
    · exact nomatch h
  · intro h
    rw [h]
    rfl

theorem text?_given (h : text? attrs key = some name) :
    ∃ v, attrs.get? key = some v ∧ textOf? v = some name := by
  rw [text?, Value.field] at h
  cases found : attrs.get? key with
  | none => rw [found] at h; exact nomatch h
  | some v => rw [found] at h; exact ⟨v, rfl, h⟩

theorem text?_of_raw {s : String} (raw : attrs.get? key = some (.text s))
    (h : text? attrs key = some name) : Text.trim s = name := by
  rw [text?, Value.field, raw] at h
  change (if (Text.trim s).isEmpty then none else some (Text.trim s)) = some name at h
  split_ifs at h
  exact Option.some.inj h

/-- What counts as a text is not empty. -/
theorem text?_ne_empty (h : text? attrs key = some name) : name ≠ "" := by
  obtain ⟨v, -, shown⟩ := text?_given h
  unfold textOf? at shown
  split at shown
  · exact nomatch shown
  · exact nomatch shown
  · rename_i b
    obtain rfl := Option.some.inj shown
    cases b <;> decide
  · dsimp only at shown
    split_ifs at shown with none
    obtain rfl := Option.some.inj shown
    exact fun empty => none (String.isEmpty_iff.mpr empty)

theorem get?_withKind : (withKind kind attrs).get? "type" = some (.text kind.name) :=
  Keyed.get?_put_self attrs "type" _

theorem get?_withKind_of_ne (h : "type" ≠ key) : (withKind kind attrs).get? key = attrs.get? key :=
  Keyed.get?_put_of_ne h

theorem get?_withId_of_ne (h : "referenceId" ≠ key) : (withId id attrs).get? key = attrs.get? key :=
  Keyed.get?_put_of_ne h

theorem get?_withDefaultId_of_ne (h : "referenceId" ≠ key) :
    (withDefaultId id attrs).get? key = attrs.get? key :=
  Keyed.get?_putNew_of_ne h

theorem entityOf_yields : Yields (entityOf fields) e ↔ Entity.ofFields fields = .ok e := by
  rw [entityOf, yields_ofOutcome]
  cases Entity.ofFields fields <;> simp [Outcome.ofChecked]

theorem mergedWith_yields {updated : Entity} :
    Yields (mergedWith e attrs) updated ↔ e.merged attrs = .ok updated := by
  rw [mergedWith, yields_ofOutcome]
  cases e.merged attrs <;> simp [Outcome.ofChecked]

theorem made_name (made : Entity.ofFields fields = .ok e)
    (same : fields.get? "name" = attrs.get? "name") : rawText? attrs "name" = some e.name :=
  rawText?_eq_some.mpr (same.symm.trans (Entity.ofFields_name made))

theorem made_kind (made : Entity.ofFields fields = .ok e)
    (given : fields.get? "type" = some (.text kind.name)) : e.kind = kind := by
  have same := given.symm.trans (Entity.ofFields_kind made)
  exact (EntityKind.eq_of_field same).symm

/-- An entity updated with its own name and a kind is alike, if it had the kind before. -/
theorem merged_alike {updated : Entity} (distinct : attrs.keys.Nodup)
    (made : e.merged attrs = .ok updated) (name : attrs.get? "name" = some (.text e.name))
    (type : attrs.get? "type" = some (.text e.kind.name)) : Alike updated e where
  name := by
    have same := Entity.merged_name distinct made
    rw [name, Option.some_or] at same
    exact (Value.text_of_field same).symm
  kind := by
    have same := Entity.merged_kind distinct made
    rw [type, Option.some_or] at same
    exact (EntityKind.eq_of_field same).symm

/-- An entity with a tag's attributes laid over it has the name of the tag, if the tag names
anything, and its kind from before, if the tag's is left out. -/
theorem merged_rename {updates : Fields} {updated : Entity}
    (distinct : updates.keys.Nodup) (made : e.merged updates = .ok updated)
    (named : updates.get? "name" = attrs.get? "name") (given : text? attrs "name" = some name)
    (typed : updates.get? "type" = none) :
    rawText? attrs "name" = some updated.name ∧ updated.kind = e.kind := by
  have same := Entity.merged_name distinct made
  have kind := Entity.merged_kind distinct made
  obtain ⟨v, found, -⟩ := text?_given given
  rw [named, found, Option.some_or] at same
  rw [typed, Option.none_or] at kind
  exact ⟨rawText?_eq_some.mpr (found.trans same),
    (EntityKind.eq_of_field kind).symm⟩

end Attributes

end Gamebook
