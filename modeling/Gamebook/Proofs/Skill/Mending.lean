import Gamebook.Proofs.Skill.Holding

/-!
Synchronization mends held skill names. It goes through the holders, and through the names of each: a
name without a skill of its own is led to the best skill with its base name, or the skill to the name.
No step undoes what another has mended, so in the end every held name is that of a known skill.
-/

namespace Gamebook.Skill

open Play (Yields yields_pure)

/-! ### Names that are spared -/

/-- Whether every name held in a state is that of a known skill, or was held before by the same
character and stands for what it stood for, and is none of those that are gone. -/
def Spares (gone : String → String → Prop) (s t : GameState) : Prop :=
  ∀ holder name, t.HeldBy holder name → t.kindOf? name = some .skill ∨
    ¬gone holder name ∧ s.HeldBy holder name ∧ t.kindOf? name = s.kindOf? name

/-- What is gone need only be told for names that were held. -/
theorem Spares.mono {gone later : String → String → Prop} {s t : GameState} (h : Spares gone s t)
    (told : ∀ holder name, s.HeldBy holder name → later holder name → gone holder name) :
    Spares later s t := by
  intro holder name held
  exact (h holder name held).imp_right fun ⟨spared, before, same⟩ =>
    ⟨fun absent => spared (told holder name before absent), before, same⟩

section

variable {s : GameState} {e : Entity} {new held holder : String}

/-- A skill that is defined spares all names but its own. -/
theorem spares_putKnown (skill : e.kind = .skill) :
    Spares (fun _ name => name = e.name) s (s.putKnown e.name e) := by
  intro holder name heldBy
  have known : (s.putKnown e.name e).kindOf? name =
      if e.name = name then some e.kind else s.kindOf? name := GameState.kindOf?_put s e name
  have before := GameState.HeldBy.of_put (by rw [Entity.isCharacter, skill]; rfl) heldBy
  rw [known, skill]
  split_ifs with here
  · exact .inl rfl
  · exact .inr ⟨Ne.symm here, before, rfl⟩

/-- So does a skill that takes a new name, if it is renamed for everybody. -/
theorem spares_renameEntity (keyed : s.WellKeyed) (found : s.find? e.name = some e)
    (skill : e.kind = .skill) (new : String) :
    Spares (fun _ name => name = new) s
      (replaceReferences (renameEntity s e.name new) e.name new).1 := by
  have thing : e.isCharacter = false := by rw [Entity.isCharacter, skill]; rfl
  intro holder name heldBy
  rw [GameState.kindOf?_replaceReferences, kindOf?_renameEntity keyed found, skill]
  split_ifs with here old
  · exact .inl rfl
  all_goals
    have renamed := heldBy.of_replaceReferences (wellKeyed_renameEntity keyed found new)
    obtain ⟨before, spared⟩ := renamed.resolve_right fun taken => here taken.1
  · cases spared old
  · exact .inr ⟨here, before.of_renameEntity keyed found thing, rfl⟩

/-- A character that gets the name of a known skill for another is spared the other. -/
theorem spares_replaceReferences (keyed : s.WellKeyed) (skill : s.kindOf? new = some .skill)
    (held holder : String) : Spares (fun bearer name => bearer = holder ∧ name = held) s
      (replaceReferences s held new (some [holder])).1 := by
  intro bearer name heldBy
  rw [GameState.kindOf?_replaceReferences]
  rcases heldBy.of_replaceReferences keyed with ⟨before, spared⟩ | ⟨rfl, -⟩
  · refine .inr ⟨?_, before, rfl⟩
    rintro ⟨rfl, same⟩
    simpa [admits] using spared same
  · exact .inl skill

end

/-! ### The table -/

theorem isSome_put {best : Keyed String} {base key value : String}
    (h : key = base ∨ (best.get? base).isSome = true) :
    ((best.put key value).get? base).isSome = true := by
  rw [Keyed.get?_put]
  split_ifs with here
  · rfl
  · exact h.resolve_left here

/-- The table has an entry for the base name of every name that is entered. -/
theorem bestByBase_isSome {names : List String} {name : String} (member : name ∈ names) :
    ((bestByBase names).get? (baseName name)).isSome = true := by
  induction names using List.reverseRecOn with
  | nil => exact absurd member List.not_mem_nil
  | append_singleton names last ih =>
    have told : baseName last = baseName name ∨
        ((bestByBase names).get? (baseName name)).isSome = true :=
      (List.mem_append.mp member).symm.imp (fun here => by rw [List.mem_singleton.mp here]) ih
    rw [bestByBase, List.foldl_append, ← bestByBase, List.foldl_cons, List.foldl_nil]
    dsimp only
    split
    · rename_i held found
      split_ifs
      · exact isSome_put told
      · rcases told with same | before
        · rw [← same, found]
          rfl
        · exact before
    · exact isSome_put told

namespace Sync

variable {y next last : Sync} {gone later : String → String → Prop} {base held target holder : String}
  {name : String}

/-! ### What a step leaves open -/

/-- Whether nothing is known under a name, although the table leads its base name to a skill. -/
structure Open (y : Sync) (name : String) : Prop where
  free : y.state.kindOf? name = none
  led : (y.best.get? (baseName name)).isSome = true

/-- Whether a synchronization under way can mend every open name: its table leads to known skills,
which have names, from the base names of all known skills. -/
structure Mends (y : Sync) : Prop where
  sound : y.Sound
  named : ∀ base target, y.best.get? base = some target → target ≠ ""
  covers : ∀ name, y.state.kindOf? name = some .skill →
    (y.best.get? (baseName name)).isSome = true

/-- Whether a synchronization has gone on without leaving any other name open than before, and none
of those that are gone. -/
structure Clears (gone : String → String → Prop) (y next : Sync) : Prop where
  mends : next.Mends
  best : ∀ base, (next.best.get? base).isSome = (y.best.get? base).isSome
  spares : Spares (fun holder name => gone holder name ∧ y.Open name) y.state next.state

theorem Mends.clears (h : y.Mends)
    (none : ∀ holder name, gone holder name → y.state.HeldBy holder name → ¬y.Open name) :
    Clears gone y y where
  mends := h
  best _ := rfl
  spares holder name held :=
    .inr ⟨fun absent => none holder name absent.1 held absent.2, held, rfl⟩

theorem Clears.trans (first : Clears gone y next) (second : Clears later next last) :
    Clears (fun holder name => gone holder name ∨ later holder name) y last where
  mends := second.mends
  best base := (second.best base).trans (first.best base)
  spares holder name held := by
    rcases second.spares holder name held with skill | ⟨spared, mid, same⟩
    · exact .inl skill
    rcases first.spares holder name mid with skill | ⟨begun, before, kept⟩
    · exact .inl (same.trans skill)
    refine .inr ⟨?_, before, same.trans kept⟩
    rintro ⟨gone | later, absent⟩
    · exact begun ⟨gone, absent⟩
    · exact spared ⟨later, kept.trans absent.free, (first.best _).trans absent.led⟩

/-- What is gone need only be told for names that were held. -/
theorem Clears.mono (h : Clears gone y next)
    (told : ∀ holder name, y.state.HeldBy holder name → later holder name → gone holder name) :
    Clears later y next where
  mends := h.mends
  best := h.best
  spares := h.spares.mono fun holder name held absent =>
    absent.imp_left (told holder name held)

/-! ### Steps -/

/-- A name of some rank is no empty one. -/
theorem ne_empty_of_rank (higher : rank target < rank held) : held ≠ "" := by
  rintro rfl
  exact absurd higher (by rw [show rank "" = 0 by decide]; exact Nat.not_lt_zero _)

/-- A base name that is led somewhere may be led to a new skill. -/
theorem isSome_get?_put {best : Keyed String} {key value : String}
    (led : (best.get? key).isSome = true) (base : String) :
    ((best.put key value).get? base).isSome = (best.get? base).isSome := by
  rw [Keyed.get?_put]
  split_ifs with same
  · rw [← same, led]
    rfl
  · rfl

/-- If the table leads to a new skill, that is the only one that was not known before, and held names
are spared, a synchronization has gone on well. -/
theorem Mends.lead {state : GameState} {rewrites : List (String × String)} (h : y.Mends)
    (led : (y.best.get? (baseName held)).isSome = true) (held_ne : held ≠ "")
    (sound : Sound { state, best := y.best.put (baseName held) held, rewrites })
    (skills : ∀ name, state.kindOf? name = some .skill →
      name = held ∨ y.state.kindOf? name = some .skill)
    (spares : Spares gone y.state state) :
    Clears gone y { state, best := y.best.put (baseName held) held, rewrites } where
  mends :=
    { sound
      named := fun base target found => by
        dsimp only at found
        rw [Keyed.get?_put] at found
        split_ifs at found
        · exact Option.some.inj found ▸ held_ne
        · exact h.named base target found
      covers := fun name skill => by
        refine (isSome_get?_put led _).trans ?_
        rcases skills name skill with rfl | before
        · exact led
        · exact h.covers name before }
  best := isSome_get?_put led
  spares := spares.mono fun _ _ _ absent => absent.1

theorem outrank_clears (h : y.Mends) (pointed : y.best.get? (baseName held) = some target)
    (free : y.state.find? held = none) (higher : rank target < rank held)
    (given : Yields (y.outrank (baseName held) held target) next) :
    Clears (fun _ name => name = held) y next := by
  have sound := ((outrank_gives h.sound pointed free).of_yields given).1
  have led : (y.best.get? (baseName held)).isSome = true := by rw [pointed, Option.isSome_some]
  have held_ne := ne_empty_of_rank higher
  obtain ⟨-, isSkill⟩ := h.sound.points _ _ pointed
  obtain ⟨e, found, kind⟩ := Option.map_eq_some_iff.mp isSkill
  obtain rfl := h.sound.keyed.name_eq found
  rw [outrank] at given
  split_ifs at given
  · obtain ⟨lower, same, given⟩ := given.bind
    obtain ⟨id, -, given⟩ := given.bind
    obtain rfl := yields_pure.mp given
    rw [found] at same
    obtain rfl := Except.ok.inj (Play.yields_ofOutcome.mp same)
    refine h.lead led held_ne sound (fun name skill => ?_)
      (spares_putKnown (e := { e with name := held, referenceId := some id }) kind)
    have known := GameState.kindOf?_put y.state { e with name := held, referenceId := some id } name
    refine or_iff_not_imp_left.mpr fun other => ?_
    exact (known.trans (if_neg (Ne.symm other))).symm.trans skill
  · obtain rfl := yields_pure.mp given
    refine h.lead led held_ne sound (fun name skill => ?_)
      (spares_renameEntity h.sound.keyed found kind held)
    have renamed := (GameState.kindOf?_replaceReferences _ e.name held none name).symm.trans skill
    rw [kindOf?_renameEntity h.sound.keyed found] at renamed
    split_ifs at renamed with here
    · exact .inl here
    · exact .inr renamed

theorem resolve_clears (h : y.Mends) (given : Yields (y.resolve holder held) next) :
    Clears (fun bearer name => bearer = holder ∧ name = held) y next := by
  have sound := ((resolve_gives h.sound holder held).of_yields given).1
  -- Left alone, the name must not be open.
  have idle (closed : ¬y.Open held) :
      Clears (fun bearer name => bearer = holder ∧ name = held) y y :=
    h.clears fun _ _ gone _ => gone.2 ▸ closed
  rw [resolve] at given
  split_ifs at given with known
  · obtain rfl := yields_pure.mp given
    exact idle fun absent => by
      exact absurd known (Option.not_isSome_iff_eq_none.mpr (GameState.kindOf?_eq_none.mp absent.free))
  have free : y.state.find? held = none := Option.not_isSome_iff_eq_none.mp known
  dsimp only at given
  split at given
  · rename_i unled
    obtain rfl := yields_pure.mp given
    exact idle fun absent => by
      have led := absent.led
      rw [unled] at led
      cases led
  · rename_i target pointed
    obtain ⟨-, skill⟩ := h.sound.points _ _ pointed
    split_ifs at given with unfit higher
    · -- The best skill has a name, and it is not the held one, because that is not known.
      rcases Bool.or_eq_true_iff.mp unfit with empty | same
      · exact absurd (String.isEmpty_iff.mp empty) (h.named _ _ pointed)
      · obtain rfl := of_decide_eq_true same
        cases skill.symm.trans (GameState.kindOf?_eq_none.mpr free)
    · exact (outrank_clears h pointed free higher given).mono fun _ _ _ gone => gone.2
    · obtain rfl := yields_pure.mp given
      exact {
        mends :=
          { sound
            named := h.named
            covers := fun name skill => by
              rw [GameState.kindOf?_replaceReferences] at skill
              exact h.covers name skill }
        best := fun _ => rfl
        spares := (spares_replaceReferences h.sound.keyed skill held holder).mono
          fun _ _ _ absent => absent.1 }

/-- Going through some names of a holder clears them. -/
theorem resolves_clears {names : List String} (h : y.Mends)
    (given : Yields (names.foldlM (resolve holder) y) next) :
    Clears (fun bearer name => bearer = holder ∧ name ∈ names) y next := by
  induction names generalizing y with
  | nil =>
    obtain rfl := yields_pure.mp given
    exact h.clears fun _ _ gone => absurd gone.2 List.not_mem_nil
  | cons held names ih =>
    rw [List.foldlM_cons] at given
    obtain ⟨mid, first, rest⟩ := given.bind
    have begun := resolve_clears h first
    refine (begun.trans (ih begun.mends rest)).mono fun _ _ _ gone => ?_
    exact (List.mem_cons.mp gone.2).imp (⟨gone.1, ·⟩) (⟨gone.1, ·⟩)

/-- A holder's turn clears all of its names. -/
theorem resolveHolder_clears (h : y.Mends) (given : Yields (y.resolveHolder holder) next) :
    Clears (fun bearer _ => bearer = holder) y next := by
  rw [resolveHolder] at given
  split at given
  · rename_i absent
    obtain rfl := yields_pure.mp given
    refine h.clears fun bearer name gone heldBy => ?_
    obtain ⟨e, found, -⟩ := heldBy
    rw [gone] at found
    simp [found] at absent
  · rename_i e chosen
    refine (resolves_clears h given).mono fun bearer name heldBy gone => ⟨gone, ?_⟩
    obtain ⟨bearer, found, -, held⟩ := heldBy
    rw [gone] at found
    rw [found] at chosen
    obtain rfl := Option.some.inj chosen
    exact held

theorem resolveHolders_clears {holders : List String} (h : y.Mends)
    (given : Yields (holders.foldlM resolveHolder y) next) :
    Clears (fun bearer _ => bearer ∈ holders) y next := by
  induction holders generalizing y with
  | nil =>
    obtain rfl := yields_pure.mp given
    exact h.clears fun _ _ gone => absurd gone List.not_mem_nil
  | cons holder holders ih =>
    rw [List.foldlM_cons] at given
    obtain ⟨mid, first, rest⟩ := given.bind
    have begun := resolveHolder_clears h first
    exact (begun.trans (ih begun.mends rest)).mono fun _ _ _ gone => List.mem_cons.mp gone

theorem start_mends {s : GameState} (keyed : s.WellKeyed) (named : s.find? "" = none) :
    Mends { state := s, best := bestByBase ((s.ofKind .skill).map (·.name)) } := by
  have sound := start_sound keyed
  refine ⟨sound, fun base target found empty => ?_, fun name skill => ?_⟩
  · obtain ⟨-, skill⟩ := sound.points base target found
    rw [empty] at skill
    exact nomatch (GameState.kindOf?_eq_none.mpr named).symm.trans skill
  · obtain ⟨e, found, kind⟩ := Option.map_eq_some_iff.mp skill
    rw [← keyed.name_eq found]
    exact bestByBase_isSome (List.mem_map_of_mem
      (List.mem_filter.mpr ⟨Keyed.mem_values found, decide_eq_true kind⟩))

end Sync

/-- A synchronization leaves none of the names open that characters hold. -/
theorem synchronize_clears {s : GameState} {done : GameState × List (String × String)}
    (keyed : s.WellKeyed) (named : s.find? "" = none) (given : Yields (synchronize s) done) :
    ∃ last : Sync, done.1 = last.state ∧ Sync.Clears (fun _ _ => True)
      { state := s, best := bestByBase ((s.ofKind .skill).map (·.name)) } last := by
  obtain ⟨last, resolved, given⟩ := given.bind
  obtain rfl := yields_pure.mp given
  refine ⟨last, rfl, (Sync.resolveHolders_clears (Sync.start_mends keyed named) resolved).mono
    fun holder name held _ => ?_⟩
  obtain ⟨e, found, character, -⟩ := held
  rw [← keyed.name_eq found]
  exact List.mem_append_left _ (List.mem_map_of_mem
    (List.mem_filter.mpr ⟨Keyed.mem_values found, character⟩))

/-- After synchronization every held skill name is that of a known skill, if all of them rest on the
known skills before. -/
theorem synchronize_skillsKnown {s : GameState} {done : GameState × List (String × String)}
    (h : s.Sustained) (given : Yields (synchronize s) done) : done.1.SkillsKnown := by
  have mirrored : done.1.Mirrored :=
    h.toMirrored.settled ((synchronize_gives h.keyed).of_yields given)
  obtain ⟨last, ends, clears⟩ := synchronize_clears h.keyed h.named given
  intro name held
  obtain ⟨holder, heldBy⟩ := mirrored.holds held
  rw [ends] at heldBy ⊢
  rcases clears.spares holder name heldBy with skill | ⟨spared, before, same⟩
  · exact skill
  rcases h.rests name ⟨holder, before⟩ with skill | ⟨free, other, skill, shared⟩
  · exact same.trans skill
  · have led := (Sync.start_mends h.keyed h.named).covers other skill
    exact absurd ⟨trivial, free, shared ▸ led⟩ spared

end Gamebook.Skill
