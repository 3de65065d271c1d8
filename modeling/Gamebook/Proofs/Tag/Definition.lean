import Gamebook.Proofs.Tag.Recasting

/-!
Tags that introduce entities: what they introduce has the name of the tag and the kind that belongs
to the tag, and what they bring up to date keeps both. The player character may take another name.
-/

namespace Gamebook

open Attribute
open Play (Yields yields_pure yields_ofOutcome)
open Entity (Alike)

namespace Scene

variable {c : Scene} {p : Played} {attrs : Fields} {kind : TagKind} {e : Entity}

theorem define_recasts {introduced : EntityKind} (is : kind.introduced? = some introduced)
    (ready : kind.needsDescription = false ∨ (text? attrs "description").isSome = true)
    (other : kind ≠ .itemUpdated) {fields : Fields} (same : fields.get? "name" = attrs.get? "name")
    (y : Yields (c.define introduced fields) p) :
    Recasts kind attrs c.state p.scene.state := by
  rw [define] at y
  split at y
  · obtain rfl := yields_pure.mp y
    exact .retold .refl
  · obtain ⟨id, -, y⟩ := y.bind
    obtain ⟨e, made, y⟩ := y.bind
    obtain rfl := yields_pure.mp y
    have made := entityOf_yields.mp made
    have kinded : e.kind = introduced :=
      made_kind made ((get?_withDefaultId_of_ne (by decide)).trans get?_withKind)
    have named : rawText? attrs "name" = some e.name :=
      made_name made ((get?_withDefaultId_of_ne (by decide)).trans
        ((get?_withKind_of_ne (by decide)).trans same))
    refine .introduced (e := e) ?_ (kinded ▸ is) .refl
    rcases ready with ready | ready <;> simp [TagKind.introduces, is, named, ready, other]

theorem get?_keepingIdentity (e : Entity) (name key : String) :
    (keepingIdentity e name attrs).get? key =
      (Keyed.get? [("type", .text e.kind.name), ("referenceId", .opt .text e.referenceId),
        ("name", .text name)] key).or (attrs.get? key) := by
  refine Keyed.get?_update ?_ attrs key
  change ["type", "referenceId", "name"].Nodup
  decide

/-- A record that is brought up to date keeps its name and its kind; one that is introduced has
those of its tag. -/
theorem refresh_yields {introduced : EntityKind} {name : String} (h : c.state.WellKeyed)
    (distinct : attrs.keys.Nodup) (y : Yields (c.refresh introduced attrs name) e) :
    (∃ existing, c.state.find? e.name = some existing ∧ e.kind = existing.kind) ∨
      rawText? attrs "name" = some e.name ∧ e.kind = introduced := by
  rw [refresh] at y
  split at y
  · rename_i existing found
    obtain ⟨named, known⟩ := find?_known h (Option.filter_eq_some_iff.mp found).1
    obtain rfl := Option.some.inj named
    have same : Alike e existing :=
      merged_alike (Keyed.nodup_update distinct _) (mergedWith_yields.mp y)
        (get?_keepingIdentity ..) (get?_keepingIdentity ..)
    exact .inl ⟨existing, same.name ▸ known, same.kind⟩
  · obtain ⟨id, -, y⟩ := y.bind
    have made := entityOf_yields.mp y
    refine .inr ⟨made_name made ?_, made_kind made ?_⟩
    · exact (get?_withId_of_ne (by decide)).trans (get?_withKind_of_ne (by decide))
    · exact (get?_withId_of_ne (by decide)).trans get?_withKind

/-- What becomes of a record that was brought up to date or introduced. -/
theorem refreshed_recasts {introduced : EntityKind} {t : GameState}
    (is : kind.introduced? = some introduced) (ready : kind.needsDescription = false)
    (other : kind ≠ .itemUpdated)
    (refreshed : (∃ existing, c.state.find? e.name = some existing ∧ e.kind = existing.kind) ∨
      rawText? attrs "name" = some e.name ∧ e.kind = introduced)
    (rest : Retold (c.state.put e) t) : Recasts kind attrs c.state t := by
  rcases refreshed with ⟨existing, found, kinded⟩ | ⟨named, kinded⟩
  · exact .retold ((Retold.put found kinded).trans rest)
  · refine .introduced (e := e) ?_ (kinded ▸ is) rest
    simp [TagKind.introduces, is, named, ready, other]

theorem describe_recasts {introduced : EntityKind} (is : kind.introduced? = some introduced)
    (ready : kind.needsDescription = false) (other : kind ≠ .itemUpdated)
    (h : c.state.WellKeyed) (distinct : attrs.keys.Nodup)
    (y : Yields (c.describe introduced attrs) p) : Recasts kind attrs c.state p.scene.state := by
  rw [describe] at y
  split at y
  · obtain rfl := yields_pure.mp y
    exact .retold .refl
  · obtain ⟨e, refreshed, y⟩ := y.bind
    obtain rfl := yields_pure.mp y
    exact refreshed_recasts is ready other (refresh_yields h distinct refreshed) .refl

theorem describePlace_recasts (h : c.state.WellKeyed) (distinct : attrs.keys.Nodup)
    (y : Yields (c.describePlace attrs) p) :
    Recasts .loreLocation attrs c.state p.scene.state := by
  rw [describePlace] at y
  split at y
  · obtain rfl := yields_pure.mp y
    exact .retold .refl
  split_ifs at y
  · obtain ⟨e, refreshed, y⟩ := y.bind
    obtain rfl := yields_pure.mp y
    have given : rawText? (Keyed.put attrs "discoveredAt" (.int c.state.turnCount)) "name" =
        rawText? attrs "name" := by
      rw [rawText?, rawText?, Value.field, Value.field, Keyed.get?_put_of_ne (by decide)]
    have refreshed := refresh_yields h (Keyed.nodup_put distinct _ _) refreshed
    rw [given] at refreshed
    refine refreshed_recasts rfl rfl (by decide) refreshed ?_
    change Retold _ (discover (c.state.put e) e.name)
    rw [discover]
    split_ifs
    · exact .refl
    · exact .aside rfl rfl
  · obtain ⟨e, refreshed, y⟩ := y.bind
    obtain rfl := yields_pure.mp y
    exact refreshed_recasts rfl rfl (by decide) (refresh_yields h distinct refreshed) .refl

theorem defineSkill_recasts (y : Yields (c.defineSkill attrs) p) :
    Recasts .loreSkill attrs c.state p.scene.state := by
  rw [defineSkill] at y
  split at y
  · obtain rfl := yields_pure.mp y
    exact .retold .refl
  · rename_i description given
    exact define_recasts rfl (.inr (by rw [given]; rfl)) (by decide)
      (Keyed.get?_without (by decide)) y

/-! ### The player -/

theorem nodup_playerAttributes (distinct : attrs.keys.Nodup) :
    (playerAttributes attrs).keys.Nodup := by
  have base : (stated attrs).keys.Nodup := Keyed.nodup_filter distinct _
  rw [playerAttributes]
  split
  · exact base
  · exact Keyed.nodup_put base _ _

theorem get?_playerAttributes (distinct : attrs.keys.Nodup) {key : String}
    (h : "learnedSkills" ≠ key) : (playerAttributes attrs).get? key =
      (attrs.get? key).filter fun v => match v with
        | .null => false
        | .text s => !s.isEmpty
        | _ => true := by
  have base := Keyed.get?_filter_of_nodup distinct (fun kv : String × Value => match kv.2 with
    | .null => false
    | .text s => !s.isEmpty
    | _ => true) key
  rw [← base, playerAttributes]
  split
  · rfl
  · exact Keyed.get?_put_of_ne h

/-- What says nothing has no text. -/
theorem text?_playerAttributes (distinct : attrs.keys.Nodup) {key : String}
    (h : "learnedSkills" ≠ key) : text? (playerAttributes attrs) key = text? attrs key := by
  rw [text?, text?, Value.field, Value.field, get?_playerAttributes distinct h]
  cases attrs.get? key with
  | none => rfl
  | some v =>
    rw [Option.filter_some]
    split_ifs with kept
    · rfl
    · cases v with
      | null => rfl
      | text s =>
        have empty : s = "" := by simpa using kept
        subst empty
        decide
      | _ => exact absurd rfl kept

theorem nodup_keepMotivation (pc : Entity) (distinct : attrs.keys.Nodup) :
    (keepMotivation pc attrs).keys.Nodup := by
  unfold keepMotivation
  split
  · split_ifs
    · exact Keyed.nodup_erase distinct _
    · exact distinct
  · exact distinct

theorem nodup_mergeLearned (pc : Entity) (distinct : attrs.keys.Nodup) :
    (mergeLearned pc attrs).keys.Nodup := by
  unfold mergeLearned
  split
  · split_ifs
    · exact distinct
    · exact Keyed.nodup_put distinct _ _
  · exact distinct

theorem storePlayer_wellKeyed {s : GameState} (h : s.WellKeyed) (old : String) (pc : Entity) :
    (storePlayer s old pc).WellKeyed := by
  rw [storePlayer]
  split_ifs
  · exact h.putKnown pc
  · exact h.rename old pc

theorem describePlayer_recasts (h : c.state.WellKeyed) (distinct : attrs.keys.Nodup)
    (y : Yields (c.describePlayer attrs) p) : Recasts .lorePc attrs c.state p.scene.state := by
  have nodup := nodup_playerAttributes distinct
  rw [describePlayer] at y
  split at y
  · rename_i absent
    rw [introducePlayer] at y
    split at y
    · obtain rfl := yields_pure.mp y
      exact .retold .refl
    obtain ⟨id, -, y⟩ := y.bind
    obtain ⟨pc, made, y⟩ := y.bind
    obtain rfl := yields_pure.mp y
    have made := entityOf_yields.mp made
    have kinded : pc.kind = .pc :=
      made_kind made ((get?_withDefaultId_of_ne (by decide)).trans get?_withKind)
    have named : rawText? (playerAttributes attrs) "name" = some pc.name :=
      made_name made
        ((get?_withDefaultId_of_ne (by decide)).trans (get?_withKind_of_ne (by decide)))
    rw [rawText?_eq_some, get?_playerAttributes distinct (by decide)] at named
    have named := rawText?_eq_some.mpr (Option.filter_eq_some_iff.mp named).1
    have start : ((c.state.putKnown pc.name pc).led pc).WellKeyed := h.putKnown pc
    exact .playerIntroduced rfl absent named kinded (Retold.progressRealm start)
  · rename_i existing present
    rw [refreshPlayer] at y
    obtain ⟨id, -, y⟩ := y.bind
    obtain ⟨pc, made, y⟩ := y.bind
    obtain rfl := yields_pure.mp y
    have made := mergedWith_yields.mp made
    have updates : (mergeLearned existing
        (keepMotivation existing (playerAttributes attrs))).keys.Nodup :=
      nodup_mergeLearned existing (nodup_keepMotivation existing nodup)
    have laid := Keyed.nodup_put (Keyed.nodup_put (Keyed.nodup_put updates "type"
      (.text EntityKind.pc.name)) "name" (.text ((text? (playerAttributes attrs) "name").getD
        existing.name))) "referenceId" id
    have named := Entity.merged_name laid made
    have kind := Entity.merged_kind laid made
    rw [Keyed.get?_put_of_ne (by decide), Keyed.get?_put_self, Option.some_or,
      text?_playerAttributes distinct (by decide)] at named
    rw [Keyed.get?_put_of_ne (by decide), Keyed.get?_put_of_ne (by decide), Keyed.get?_put_self,
      Option.some_or] at kind
    have start : ((storePlayer c.state existing.name pc).led pc).WellKeyed :=
      storePlayer_wellKeyed h existing.name pc
    exact .playerDescribed rfl present (Value.text_of_field named).symm
      (EntityKind.eq_of_field kind).symm
      (Retold.progressRealm start)

end Scene

end Gamebook
