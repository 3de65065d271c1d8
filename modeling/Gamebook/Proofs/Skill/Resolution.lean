import Gamebook.Proofs.Skill.Mending

/-!
What synchronization comes to. Every held skill name that a known skill could stand for gets one, and
no holder gets a lower rank of a skill for it or loses the skill; then there is nothing left to do, and
another synchronization does nothing.
-/

namespace Gamebook

open Skill Text

variable {s t : GameState} {e : Entity} {name holder old new : String} {holders : Option (List String)}

/-! ### What is kept -/

/-- A renamed list has every name that it had, or the new one for the old. -/
theorem Skill.mem_renamedMember_of (holders : Option (List String)) (old new : String)
    (member : name ∈ e.skillNames) : name ∈ (renamedMember holders old new e).skillNames ∨
      name = old ∧ new ∈ (renamedMember holders old new e).skillNames := by
  rw [renamedMember, renameFor]
  split_ifs
  · rw [replaceIn]
    split_ifs
    · rw [Option.map_some, Option.getD_some, skillNames_withSkills]
      have renamed : (if name = old then new else name) ∈
          distinct (e.skillNames.map fun s => if s = old then new else s) :=
        mem_distinct_iff.mpr (List.mem_map_of_mem member)
      split_ifs at renamed with here
      · exact .inr ⟨here, renamed⟩
      · exact .inl renamed
    · exact .inl member
  · exact .inl member

namespace GameState

theorem HeldBy.replaceReferences (h : s.HeldBy holder name) (old new : String)
    (holders : Option (List String)) : (Skill.replaceReferences s old new holders).1.HeldBy holder name ∨
      name = old ∧ (Skill.replaceReferences s old new holders).1.HeldBy holder new := by
  obtain ⟨e, found, character, held⟩ := h
  have renamed : (Skill.replaceReferences s old new holders).1.find? holder =
      some (renamedHolder holders old new e) := by
    rw [find?_replaceReferences, found, Option.map_some]
  have still : (renamedHolder holders old new e).isCharacter = true :=
    (renamedHolder_isCharacter e).trans character
  have listed := mem_renamedMember_of holders old new held
  rw [renamedHolder_eq, if_pos character] at renamed still
  exact listed.imp (⟨_, renamed, still, ·⟩) (And.imp_right (⟨_, renamed, still, ·⟩))

/-- Whether every known character that holds a skill name holds one of the same base name and no lower
rank afterwards. -/
def Rises (s t : GameState) : Prop :=
  ∀ holder name, s.HeldBy holder name →
    ∃ better, t.HeldBy holder better ∧ baseName better = baseName name ∧ rank name ≤ rank better

theorem Rises.refl (s : GameState) : Rises s s := fun _ name held => ⟨name, held, rfl, le_rfl⟩

theorem Rises.trans {u : GameState} (first : Rises s t) (second : Rises t u) : Rises s u := by
  intro holder name held
  obtain ⟨mid, heldBy, shared, le⟩ := first holder name held
  obtain ⟨better, still, same, higher⟩ := second holder mid heldBy
  exact ⟨better, still, same.trans shared, le.trans higher⟩

/-- Where characters are stored as before, they hold what they held. -/
theorem Rises.of_find? (h : ∀ holder e, s.find? holder = some e → e.isCharacter = true →
    t.find? holder = some e) : Rises s t := by
  rintro holder name ⟨e, found, character, held⟩
  exact ⟨name, ⟨e, h holder e found character, character, held⟩, rfl, le_rfl⟩

/-- A name for one of the same base name and no higher rank demotes nobody. -/
theorem Rises.replaceReferences (shared : baseName new = baseName old) (le : rank old ≤ rank new)
    (s : GameState) (holders : Option (List String)) :
    Rises s (Skill.replaceReferences s old new holders).1 := by
  intro holder name held
  rcases held.replaceReferences old new holders with kept | ⟨rfl, renamed⟩
  · exact ⟨name, kept, rfl, le_rfl⟩
  · exact ⟨new, renamed, shared, le⟩

end GameState

namespace Skill

open GameState (Rises)
open Play (Yields yields_pure)

namespace Sync

variable {y next : Sync} {held target : String}

theorem outrank_rises (h : y.Sound) (pointed : y.best.get? (baseName held) = some target)
    (free : y.state.find? held = none) (higher : rank target < rank held)
    (given : Yields (y.outrank (baseName held) held target) next) : Rises y.state next.state := by
  obtain ⟨shared, isSkill⟩ := h.points _ _ pointed
  obtain ⟨skill, found, kind⟩ := Option.map_eq_some_iff.mp isSkill
  obtain rfl := h.keyed.name_eq found
  have thing : skill.isCharacter = false := by rw [Entity.isCharacter, kind]; rfl
  rw [outrank] at given
  split_ifs at given
  · obtain ⟨lower, -, given⟩ := given.bind
    obtain ⟨id, -, given⟩ := given.bind
    obtain rfl := yields_pure.mp given
    refine .of_find? fun holder e known _ => ?_
    have other : held ≠ holder := by
      rintro rfl
      cases free.symm.trans known
    exact (Keyed.get?_put_of_ne other).trans known
  · obtain rfl := yields_pure.mp given
    refine Rises.trans (.of_find? fun holder e known character => ?_)
      (.replaceReferences shared.symm higher.le (renameEntity y.state skill.name held) none)
    -- The renamed entity is a skill, and nothing was known under its new name.
    rw [find?_renameEntity h.keyed found]
    split_ifs with taken own
    · rw [taken, free] at known
      cases known
    · rw [own, found] at known
      rw [Option.some.inj known] at thing
      cases thing.symm.trans character
    · exact known

theorem resolve_rises (h : y.Sound) (given : Yields (y.resolve holder held) next) :
    Rises y.state next.state := by
  rw [resolve] at given
  split_ifs at given with known
  · obtain rfl := yields_pure.mp given
    exact .refl _
  have free : y.state.find? held = none := Option.not_isSome_iff_eq_none.mp known
  dsimp only at given
  split at given
  · obtain rfl := yields_pure.mp given
    exact .refl _
  · rename_i target pointed
    split_ifs at given with unfit higher
    · obtain rfl := yields_pure.mp given
      exact .refl _
    · exact outrank_rises h pointed free higher given
    · obtain rfl := yields_pure.mp given
      exact .replaceReferences (h.points _ _ pointed).1 (Nat.le_of_not_lt higher) y.state (some [holder])

theorem resolveHolder_rises (h : y.Sound) (given : Yields (y.resolveHolder holder) next) :
    Rises y.state next.state := by
  rw [resolveHolder] at given
  split at given
  · obtain rfl := yields_pure.mp given
    exact .refl _
  · exact (given.foldlM (P := fun reached => reached.Sound ∧ Rises y.state reached.state)
      (fun reached held further before step =>
        ⟨((resolve_gives before.1 holder held).of_yields step).1,
          before.2.trans (resolve_rises before.1 step)⟩)
      ⟨h, .refl _⟩).2

end Sync

/-- Synchronization demotes nobody. -/
theorem synchronize_rises {done : GameState × List (String × String)} (keyed : s.WellKeyed)
    (given : Yields (synchronize s) done) : Rises s done.1 := by
  obtain ⟨last, resolved, given⟩ := given.bind
  obtain rfl := yields_pure.mp given
  exact (resolved.foldlM (P := fun reached => reached.Sound ∧ Rises s reached.state)
    (fun reached holder further ⟨sound, risen⟩ step =>
      ⟨((Sync.resolveHolder_gives sound holder).of_yields step).1,
        risen.trans (Sync.resolveHolder_rises sound step)⟩)
    ⟨Sync.start_sound keyed, .refl s⟩).2

/-! ### Nothing left to do -/

/-- Whether every held skill name is known, or shares its base name with no known skill. -/
def Resolved (s : GameState) : Prop :=
  ∀ name, isHeld s name = true → s.knownEntities.has name = true ∨
    ∀ other, s.kindOf? other = some .skill → baseName other ≠ baseName name

theorem synchronize_resolved {done : GameState × List (String × String)} (mirrored : s.Mirrored)
    (named : s.find? "" = none) (given : Yields (synchronize s) done) : Resolved done.1 := by
  have after : done.1.Mirrored := mirrored.settled ((synchronize_gives mirrored.keyed).of_yields given)
  obtain ⟨last, ends, clears⟩ := synchronize_clears mirrored.keyed named given
  intro name held
  obtain ⟨holder, heldBy⟩ := after.holds held
  rw [ends] at heldBy ⊢
  cases known : last.state.find? name with
  | some e => exact .inl (Option.isSome_iff_exists.mpr ⟨e, known⟩)
  | none =>
    have free := GameState.kindOf?_eq_none.mpr known
    rcases clears.spares holder name heldBy with skill | ⟨closed, -, same⟩
    · exact nomatch free.symm.trans skill
    refine .inr fun other skill shared => closed ⟨trivial, same.symm.trans free, ?_⟩
    rw [← clears.best, ← shared]
    exact clears.mends.covers other skill

/-- The holders of a company are its known characters. -/
theorem find?_of_mem_holderNames (company : s.Company) (listed : holder ∈ holderNames s) :
    ∃ e, s.find? holder = some e ∧ e.isCharacter = true := by
  rcases List.mem_append.mp listed with known | partner
  · obtain ⟨e, member, rfl⟩ := List.mem_map.mp known
    obtain ⟨present, character⟩ := List.mem_filter.mp member
    exact ⟨e, company.keyed.find?_name present, character⟩
  · obtain ⟨m, member, rfl⟩ := List.mem_map.mp (List.mem_filter.mp partner).1
    exact ⟨m, company.copies m member, company.characters m member⟩

namespace Sync

variable {y : Sync} {held : String}

theorem resolve_idle (h : y.Sound) (closed : y.state.knownEntities.has held = true ∨
    ∀ other, y.state.kindOf? other = some .skill → baseName other ≠ baseName held) :
    y.resolve holder held = pure y := by
  rw [resolve]
  split_ifs with known
  · rfl
  dsimp only
  split
  · rfl
  · rename_i target pointed
    obtain ⟨shared, skill⟩ := h.points _ _ pointed
    exact absurd shared (closed.resolve_left known target skill)

theorem resolveHolder_idle (h : y.Sound) (resolved : Resolved y.state) (company : y.state.Company)
    (listed : holder ∈ holderNames y.state) : y.resolveHolder holder = pure y := by
  obtain ⟨e, found, character⟩ := find?_of_mem_holderNames company listed
  rw [resolveHolder, found, Option.orElse_some]
  exact Play.foldlM_idle fun held member => resolve_idle h
    (resolved held (GameState.Holds.isHeld ⟨holder, e, found, character, member⟩))

end Sync

/-- In a resolved company a synchronization does nothing. -/
theorem Resolved.synchronize_eq (h : Resolved s) (company : s.Company) :
    synchronize s = pure (s, []) := by
  have sound := Sync.start_sound company.keyed
  rw [synchronize]
  rw [Play.foldlM_idle fun holder listed => Sync.resolveHolder_idle sound h company listed]
  rfl

end Skill

/-! ### Synchronization as a whole -/

/-- Whether each of some characters is still there under its name, and has for each of its skills one
of the same base name and no lower rank. -/
def Entity.Raised (before after : List Entity) : Prop :=
  ∀ e ∈ before, e.isCharacter = true → ∀ name ∈ e.skillNames, ∃ later ∈ after,
    later.name = e.name ∧ later.isCharacter = true ∧ ∃ better ∈ later.skillNames,
      baseName better = baseName name ∧ rank name ≤ rank better

theorem GameState.Rises.known (h : Rises s t) (before : s.WellKeyed) (after : t.WellKeyed) :
    Entity.Raised s.knownEntities.values t.knownEntities.values := by
  intro e member character name held
  obtain ⟨better, ⟨later, found, still, listed⟩, shared, le⟩ :=
    h e.name name ⟨e, before.find?_name member, character, held⟩
  exact ⟨later, Keyed.mem_values found, after.name_eq found, still, better, listed, shared, le⟩

/-- In companies of the same names the party copies rise with the known entities. -/
theorem GameState.Rises.party (h : Rises s t) (before : s.Company) (after : t.Company)
    (names : t.party.map (·.name) = s.party.map (·.name)) : Entity.Raised s.party t.party := by
  intro m member character name held
  obtain ⟨better, ⟨later, found, still, listed⟩, shared, le⟩ :=
    h m.name name ⟨m, before.copies m member, character, held⟩
  have kept : m.name ∈ t.party.map (·.name) := names ▸ List.mem_map_of_mem member
  obtain ⟨copy, present, same⟩ := List.mem_map.mp kept
  have known := after.copies copy present
  rw [same, found] at known
  obtain rfl := Option.some.inj known
  exact ⟨later, present, same, still, better, listed, shared, le⟩

theorem names_settled (run : Skill.Settled s t) :
    t.party.map (·.name) = s.party.map (·.name) := by
  induction run with
  | refl => rfl
  | tail _ step ih =>
    refine Eq.trans ?_ ih
    cases step with
    | rewrite old new holders => exact GameState.names_replaceReferences _ old new holders
    | beside free skill => rfl
    | forward found skill free => rfl

/-- In a company with a name for every entity, synchronization gives every held skill name that it can
a known skill, demotes neither a known character nor a party member, and would do nothing if done
again. -/
theorem synchronize_resolves (company : s.Company) (named : s.find? "" = none) :
    Play.Gives (Skill.synchronize s) fun done => Skill.Resolved done.1 ∧
      Entity.Raised s.knownEntities.values done.1.knownEntities.values ∧
      Entity.Raised s.party done.1.party ∧
      Skill.synchronize done.1 = pure (done.1, []) := by
  intro d
  obtain ⟨done, d', ok, run⟩ := Skill.synchronize_gives company.keyed d
  have given : Play.Yields (Skill.synchronize s) done := ⟨d, d', ok⟩
  have after := company.settled run
  have resolved := Skill.synchronize_resolved company.mirrored named given
  have rises := Skill.synchronize_rises company.keyed given
  exact ⟨done, d', ok, resolved, rises.known company.keyed after.keyed,
    rises.party company after (names_settled run), resolved.synchronize_eq after⟩

/-- One whose rank has no skill yet, one who keeps the lower rank, and one in between. -/
def duellists : GameState :=
  let lan : Entity := { name := "Lan", kind := .companion, skills := ["Sword (cao cấp)"] }
  { knownEntities :=
      [("Sword (sơ cấp)", { name := "Sword (sơ cấp)", kind := .skill }), ("Lan", lan),
        ("Minh", { name := "Minh", kind := .npc, skills := ["Sword (sơ cấp)"] }),
        ("Hero", { name := "Hero", kind := .pc, learnedSkills := ["Sword (trung cấp)", "Bow"] })]
    party := [lan] }

theorem duellists_company : duellists.Company where
  keyed := by decide
  distinct := by decide
  copies m member := by
    rw [List.mem_singleton.mp member]
    rfl
  characters m member := by
    rw [List.mem_singleton.mp member]
    rfl

theorem duellists_resolve : duellists.Company ∧ duellists.find? "" = none ∧
    Play.Gives (Skill.synchronize duellists) fun done => Skill.Resolved done.1 ∧
      Entity.Raised duellists.knownEntities.values done.1.knownEntities.values ∧
      Entity.Raised duellists.party done.1.party ∧
      Skill.synchronize done.1 = pure (done.1, []) :=
  ⟨duellists_company, rfl, synchronize_resolves duellists_company rfl⟩

/-- The skill of the highest rank is defined beside the one that is still held, and takes the name in
between. -/
example : Play.passes (Skill.synchronize duellists) {} (fun done _ =>
    done.2 = [("Sword (trung cấp)", "Sword (cao cấp)")] ∧
    (done.1.ofKind .skill).map (·.name) = ["Sword (sơ cấp)", "Sword (cao cấp)"]) = true := by
  decide +kernel

end Gamebook
