import Gamebook.Proofs.Cast.Retelling
import Gamebook.Proofs.Play

/-!
Synchronization of held skill names with the skill entities. Its table points each base name at a
known skill with that base name, so a lookup by the table never fails; each step of it renames
references, or gives a skill entity a name that nothing known has yet.
-/

namespace Gamebook.Skill

open Play (Gives gives_pure gives_ofOutcome gives_draw)

/-! ### Steps -/

/-- One step of synchronization. -/
inductive Settles : GameState → GameState → Prop
  | rewrite (s : GameState) (old new : String) (holders : Option (List String)) :
    Settles s (replaceReferences s old new holders).1
  | beside {s : GameState} {e : Entity} (free : s.find? e.name = none) (skill : e.kind = .skill) :
    Settles s (s.putKnown e.name e)
  | forward {s : GameState} {e : Entity} {new : String} (found : s.find? e.name = some e)
    (skill : e.kind = .skill) (free : s.find? new = none) : Settles s (renameEntity s e.name new)

/-- Any number of such steps, one after another. -/
abbrev Settled : GameState → GameState → Prop := Relation.ReflTransGen Settles

variable {s t : GameState} {e : Entity} {name : String}

theorem find?_renameEntity (h : s.WellKeyed) (found : s.find? e.name = some e) (new : String) :
    (renameEntity s e.name new).find? name =
      if name = new then some (e.called new) else if name = e.name then none else s.find? name := by
  rw [GameState.find?, GameState.renameEntity_known h found]
  exact get?_renameKnown e.name (e.called new) s.knownEntities name

theorem kindOf?_renameEntity (h : s.WellKeyed) (found : s.find? e.name = some e) (new : String) :
    (renameEntity s e.name new).kindOf? name =
      if name = new then some e.kind else if name = e.name then none else s.kindOf? name := by
  rw [GameState.kindOf?, find?_renameEntity h found, apply_ite (Option.map _),
    apply_ite (Option.map _)]
  rfl

theorem wellKeyed_renameEntity (h : s.WellKeyed) (found : s.find? e.name = some e) (new : String) :
    (renameEntity s e.name new).WellKeyed := by
  rw [GameState.WellKeyed, GameState.renameEntity_known h found]
  exact ByName.renameKnown h e.name (e.called new)

theorem Settles.wellKeyed (step : Settles s t) (h : s.WellKeyed) : t.WellKeyed := by
  cases step with
  | rewrite old new holders => exact h.replaceReferences old new holders
  | beside free skill => exact h.putKnown _
  | forward found skill free => exact wellKeyed_renameEntity h found _

theorem Settled.wellKeyed (run : Settled s t) (h : s.WellKeyed) : t.WellKeyed := by
  induction run with
  | refl => exact h
  | tail _ step ih => exact step.wellKeyed ih

/-! ### The table -/

/-- Whether a table points base names at known skills that have them. -/
def Points (s : GameState) (best : Keyed String) : Prop :=
  ∀ base name, best.get? base = some name → baseName name = base ∧ s.kindOf? name = some .skill

theorem Points.put {best : Keyed String} (h : Points s best) (known : s.kindOf? name = some .skill) :
    Points s (best.put (baseName name) name) := by
  intro base target found
  rw [Keyed.get?_put] at found
  split_ifs at found with same
  · obtain rfl := Option.some.inj found
    exact ⟨same, known⟩
  · exact h base target found

theorem bestByBase_points {names : List String}
    (known : ∀ name ∈ names, s.kindOf? name = some .skill) : Points s (bestByBase names) := by
  refine List.foldlRecOn names _ nofun fun best h name member => ?_
  have here := known name member
  dsimp only
  split
  · split_ifs
    · exact h.put here
    · exact h
  · exact h.put here

namespace Sync

variable {y : Sync} {base held target : String}

/-- Whether a synchronization under way can go on. -/
structure Sound (y : Sync) : Prop where
  keyed : y.state.WellKeyed
  points : Points y.state y.best

/-- Whether a synchronization has gone on from another, soundly. -/
def Follows (y next : Sync) : Prop := next.Sound ∧ Settled y.state next.state

theorem Sound.follows (h : y.Sound) : y.Follows y := ⟨h, .refl⟩

theorem Follows.trans {y₁ y₂ y₃ : Sync} (first : y₁.Follows y₂) (second : y₂.Follows y₃) :
    y₁.Follows y₃ :=
  ⟨second.1, first.2.trans second.2⟩

theorem Sound.rewrite (h : y.Sound) (old new : String) (holders : Option (List String))
    (rewrites : List (String × String)) : y.Follows
      { y with state := (replaceReferences y.state old new holders).1, rewrites } where
  left :=
    { keyed := h.keyed.replaceReferences old new holders
      points := fun base name found => by
        rw [GameState.kindOf?_replaceReferences]
        exact h.points base name found }
  right := .single (.rewrite y.state old new holders)

theorem Sound.forward (h : y.Sound) (pointed : y.best.get? (baseName held) = some target)
    (free : y.state.find? held = none) : y.Follows
      { y with state := renameEntity y.state target held, best := y.best.put (baseName held) held } := by
  obtain ⟨shared, isSkill⟩ := h.points _ _ pointed
  obtain ⟨e, found, kind⟩ := Option.map_eq_some_iff.mp isSkill
  obtain rfl := h.keyed.name_eq found
  refine ⟨⟨wellKeyed_renameEntity h.keyed found held, ?_⟩, .single (.forward found kind free)⟩
  intro base name given
  rw [Keyed.get?_put] at given
  rw [kindOf?_renameEntity h.keyed found]
  split_ifs at given with same
  · obtain rfl := Option.some.inj given
    exact ⟨same, by rw [if_pos rfl, kind]⟩
  · obtain ⟨own, known⟩ := h.points base name given
    -- Only its own base name points at the skill that takes the free name.
    have other : name ≠ e.name := fun equal => same (by rw [← own, equal, shared])
    refine ⟨own, ?_⟩
    split_ifs
    · rw [kind]
    · exact known

theorem Sound.beside (h : y.Sound) (lower : Entity) (kind : lower.kind = .skill)
    (free : y.state.find? lower.name = none) : y.Follows
      { y with
        state := y.state.putKnown lower.name lower
        best := y.best.put (baseName lower.name) lower.name } := by
  have known : ∀ name, (y.state.putKnown lower.name lower).kindOf? name =
      if lower.name = name then some lower.kind else y.state.kindOf? name :=
    GameState.kindOf?_put y.state lower
  refine ⟨⟨h.keyed.putKnown lower, Points.put (fun base name found => ?_) ?_⟩,
    .single (.beside free kind)⟩
  · obtain ⟨own, isSkill⟩ := h.points base name found
    refine ⟨own, ?_⟩
    rw [known]
    split_ifs
    · rw [kind]
    · exact isSkill
  · rw [known, if_pos rfl, kind]

theorem outrank_gives (h : y.Sound) (pointed : y.best.get? (baseName held) = some target)
    (free : y.state.find? held = none) :
    Gives (y.outrank (baseName held) held target) y.Follows := by
  obtain ⟨-, isSkill⟩ := h.points _ _ pointed
  obtain ⟨e, found, kind⟩ := Option.map_eq_some_iff.mp isSkill
  rw [outrank]
  split_ifs
  · refine (gives_ofOutcome (a := e) (by rw [found])).bind fun lower same => ?_
    subst same
    exact (gives_draw _).bind fun id _ => gives_pure
      (h.beside { lower with name := held, referenceId := some id } kind free)
  · have renamed := h.forward pointed free
    exact gives_pure (renamed.trans (renamed.1.rewrite target held none _))

theorem resolve_gives (h : y.Sound) (holder held : String) :
    Gives (y.resolve holder held) y.Follows := by
  rw [resolve]
  split_ifs with known
  · exact gives_pure h.follows
  have free : y.state.find? held = none := Option.not_isSome_iff_eq_none.mp known
  dsimp only
  split
  · exact gives_pure h.follows
  · rename_i target pointed
    split_ifs
    · exact gives_pure h.follows
    · exact outrank_gives h pointed free
    · exact gives_pure (h.rewrite held target _ _)

theorem resolveHolder_gives (h : y.Sound) (holder : String) :
    Gives (y.resolveHolder holder) y.Follows := by
  rw [resolveHolder]
  split
  · exact gives_pure h.follows
  · exact Gives.foldlM (fun mid held reached =>
      (resolve_gives reached.1 holder held).mono fun _ further => reached.trans further) _ h.follows

end Sync

/-- At the start the table points at the known skills. -/
theorem Sync.start_sound (h : s.WellKeyed) :
    Sync.Sound { state := s, best := bestByBase ((s.ofKind .skill).map (·.name)) } := by
  refine ⟨h, bestByBase_points fun name member => ?_⟩
  obtain ⟨e, listed, rfl⟩ := List.mem_map.mp member
  obtain ⟨held, isSkill⟩ := List.mem_filter.mp listed
  rw [GameState.kindOf?_of_find? (h.find?_name held), of_decide_eq_true isSkill]

/-- Synchronization of a well-keyed state never fails. -/
theorem synchronize_gives (h : s.WellKeyed) :
    Gives (synchronize s) fun done => Settled s done.1 := by
  have resolved := Gives.foldlM (fun mid holder reached =>
    (Sync.resolveHolder_gives reached.1 holder).mono fun _ further => reached.trans further)
    (holderNames s) (Sync.start_sound h).follows
  exact resolved.bind fun done reached => gives_pure reached.2

end Gamebook.Skill
