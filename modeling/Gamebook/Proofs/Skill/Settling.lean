import Gamebook.Proofs.Skill.Resolution

/-!
What synchronization leaves alone. Where all names of one base name that anybody lists are names of
known skills, no lookup asks for another one; so the skills of that base name stay as they are, and so
does who holds them.
-/

namespace Gamebook

open Skill

variable {s t u : GameState} {e : Entity} {base name held target old new : String}
  {members : List String} {coming : Option String} {holders : Option (List String)}

namespace GameState

/-! ### One base name -/

/-- Whether two states have the same skills of a base name, held by the same characters. -/
structure Agrees (base : String) (s t : GameState) : Prop where
  kinds : ∀ name, baseName name = base → t.kindOf? name = s.kindOf? name
  holders : ∀ holder name, baseName name = base → (t.HeldBy holder name ↔ s.HeldBy holder name)

theorem Agrees.refl (base : String) (s : GameState) : Agrees base s s :=
  ⟨fun _ _ => rfl, fun _ _ _ => Iff.rfl⟩

theorem Agrees.trans (first : Agrees base s t) (second : Agrees base t u) : Agrees base s u :=
  ⟨fun name own => (second.kinds name own).trans (first.kinds name own),
    fun holder name own => (second.holders holder name own).trans (first.holders holder name own)⟩

/-- Whether all names of a base name that are listed in a state with certain party members are names
of known skills, but for one that is to come. Known characters and party members list names; what else
stands under the name of a member lists none of the base name. -/
structure Tidy (base : String) (members : List String) (coming : Option String) (s : GameState) :
    Prop where
  keyed : s.WellKeyed
  company : s.party.map (·.name) = members
  held : ∀ holder name, baseName name = base → s.HeldBy holder name →
    s.kindOf? name = some .skill ∨ coming = some name
  party : ∀ m ∈ s.party, ∀ name ∈ m.skillNames, baseName name = base →
    s.kindOf? name = some .skill ∨ coming = some name
  things : ∀ e, s.find? e.name = some e → e.isCharacter = false → e.name ∈ members →
    ∀ name ∈ e.skillNames, baseName name ≠ base

/-- What a renaming leaves of an entity that is no character. -/
theorem find?_replaceReferences_thing
    (found : (replaceReferences s old new holders).1.find? name = some e)
    (thing : e.isCharacter = false) : s.find? name = some e := by
  rw [find?_replaceReferences] at found
  obtain ⟨source, before, rfl⟩ := Option.map_eq_some_iff.mp found
  rw [renamedHolder_isCharacter] at thing
  rw [before, renamedHolder_eq, thing]
  rfl

theorem agrees_replaceReferences (keyed : s.WellKeyed) (apart : baseName old ≠ base)
    (other : baseName new ≠ base) : Agrees base s (replaceReferences s old new holders).1 where
  kinds name _ := kindOf?_replaceReferences s old new holders name
  holders holder name own := by
    constructor
    · intro held
      rcases held.of_replaceReferences keyed with ⟨before, -⟩ | ⟨rfl, -⟩
      · exact before
      · exact absurd own other
    · intro held
      rcases held.replaceReferences old new holders with after | ⟨rfl, -⟩
      · exact after
      · exact absurd own apart

theorem Tidy.replaceReferences (h : Tidy base members coming s) (apart : baseName old ≠ base)
    (other : baseName new ≠ base) :
    Tidy base members coming (replaceReferences s old new holders).1 where
  keyed := h.keyed.replaceReferences old new holders
  company := (names_replaceReferences s old new holders).trans h.company
  held holder name own held := by
    rw [kindOf?_replaceReferences]
    exact h.held holder name own
      (((agrees_replaceReferences h.keyed apart other).holders holder name own).mp held)
  party m member name listed own := by
    obtain ⟨source, before, rfl⟩ := List.mem_map.mp member
    rw [kindOf?_replaceReferences]
    rcases mem_renamedMember listed with ⟨kept, -⟩ | ⟨rfl, -⟩
    · exact h.party source before name kept own
    · exact absurd own other
  things e found thing := h.things e (find?_replaceReferences_thing found thing) thing

/-- Where the party stays as it is and nothing new stands under a member's name. -/
theorem Tidy.of_agrees (h : Tidy base members coming s) (agrees : Agrees base s t)
    (keyed : t.WellKeyed) (party : t.party = s.party)
    (known : ∀ e, t.find? e.name = some e → e.name ∈ members → s.find? e.name = some e) :
    Tidy base members coming t where
  keyed := keyed
  company := party ▸ h.company
  held holder name own held := by
    rw [agrees.kinds name own]
    exact h.held holder name own ((agrees.holders holder name own).mp held)
  party m member name listed own := by
    rw [agrees.kinds name own]
    exact h.party m (party ▸ member) name listed own
  things e found thing member := h.things e (known e found member) thing member

theorem heldBy_of_find? (same : ∀ holder e, s.find? holder = some e → e.isCharacter = true →
    t.find? holder = some e) {holder : String} (h : s.HeldBy holder name) : t.HeldBy holder name := by
  obtain ⟨e, found, character, listed⟩ := h
  exact ⟨e, same holder e found character, character, listed⟩

/-- A skill under a free name of another base name. -/
theorem agrees_putKnown (free : s.find? e.name = none) (skill : e.kind = .skill)
    (other : baseName e.name ≠ base) : Agrees base s (s.putKnown e.name e) where
  kinds name own := by
    refine (kindOf?_put s e name).trans (if_neg ?_)
    rintro rfl
    exact other own
  holders holder name _ := by
    refine ⟨HeldBy.of_put (by rw [Entity.isCharacter, skill]; rfl), heldBy_of_find? ?_⟩
    intro holder bearer found _
    refine (find?_put s e holder).trans ((if_neg ?_).trans found)
    rintro rfl
    cases free.symm.trans found

theorem Tidy.putKnown (h : Tidy base members coming s) (free : s.find? e.name = none)
    (skill : e.kind = .skill) (other : baseName e.name ≠ base) (outside : e.name ∉ members) :
    Tidy base members coming (s.putKnown e.name e) := by
  refine h.of_agrees (agrees_putKnown free skill other) (h.keyed.putKnown e) rfl
    fun thing found member => ?_
  have apart : e.name ≠ thing.name := fun same => outside (same ▸ member)
  have stored : (if e.name = thing.name then some e else s.find? thing.name) = some thing :=
    (find?_put s e thing.name).symm.trans found
  rwa [if_neg apart] at stored

/-- A skill that moves to a free name, both of another base name. -/
theorem agrees_renameEntity (keyed : s.WellKeyed) (found : s.find? e.name = some e)
    (skill : e.kind = .skill) (free : s.find? new = none) (apart : baseName e.name ≠ base)
    (other : baseName new ≠ base) : Agrees base s (renameEntity s e.name new) where
  kinds name own := by
    rw [kindOf?_renameEntity keyed found, if_neg, if_neg]
    · rintro rfl
      exact apart own
    · rintro rfl
      exact other own
  holders holder name _ := by
    have thing : e.isCharacter = false := by rw [Entity.isCharacter, skill]; rfl
    refine ⟨HeldBy.of_renameEntity keyed found thing, heldBy_of_find? ?_⟩
    intro holder bearer known character
    rw [find?_renameEntity keyed found, if_neg, if_neg, known]
    · rintro rfl
      rw [found] at known
      rw [Option.some.inj known] at thing
      cases thing.symm.trans character
    · rintro rfl
      cases free.symm.trans known

theorem Tidy.renameEntity (h : Tidy base members coming s) (found : s.find? e.name = some e)
    (skill : e.kind = .skill) (free : s.find? new = none) (apart : baseName e.name ≠ base)
    (other : baseName new ≠ base) (outside : new ∉ members) :
    Tidy base members coming (renameEntity s e.name new) := by
  refine h.of_agrees (agrees_renameEntity h.keyed found skill free apart other)
    (wellKeyed_renameEntity h.keyed found new) rfl fun thing known member => ?_
  have elsewhere : thing.name ≠ new := fun same => outside (same ▸ member)
  rw [find?_renameEntity h.keyed found, if_neg elsewhere] at known
  split_ifs at known
  exact known

end GameState

namespace Skill

open GameState (Agrees Tidy agrees_replaceReferences agrees_putKnown agrees_renameEntity)
open Play (Yields yields_pure)

/-! ### The table -/

/-- Whether a table points the base name of a skill at one of no lower rank. -/
def Tops (best : Keyed String) (name : String) : Prop :=
  ∃ target, best.get? (baseName name) = some target ∧ rank name ≤ rank target

theorem tops_put (best : Keyed String) (name : String) : Tops (best.put (baseName name) name) name :=
  ⟨name, Keyed.get?_put_self _ _ _, le_rfl⟩

/-- A table has no more than one skill for the base name of a higher one. -/
theorem rank_le_of_pointed {best : Keyed String} (pointed : best.get? (baseName held) = some target)
    (higher : rank target < rank held) :
    ∀ other, best.get? (baseName held) = some other → rank other ≤ rank held := by
  intro other found
  obtain rfl := Option.some.inj (pointed.symm.trans found)
  exact higher.le

/-- A skill may take the place of one of no higher rank. -/
theorem Tops.put {best : Keyed String} (h : Tops best name)
    (above : ∀ target, best.get? (baseName held) = some target → rank target ≤ rank held) :
    Tops (best.put (baseName held) held) name := by
  obtain ⟨target, pointed, le⟩ := h
  rw [Tops, Keyed.get?_put]
  split_ifs with same
  · rw [← same] at pointed
    exact ⟨held, rfl, le.trans (above target pointed)⟩
  · exact ⟨target, pointed, le⟩

/-- The table points at skills of the highest ranks. -/
theorem bestByBase_tops {names : List String} (member : name ∈ names) :
    Tops (bestByBase names) name := by
  induction names using List.reverseRecOn with
  | nil => exact absurd member List.not_mem_nil
  | append_singleton names last ih =>
    rw [bestByBase, List.foldl_append, ← bestByBase, List.foldl_cons, List.foldl_nil]
    dsimp only
    split
    · rename_i led found
      split_ifs with higher
      · rcases List.mem_append.mp member with before | here
        · exact (ih before).put (rank_le_of_pointed found higher)
        · rw [List.mem_singleton.mp here]
          exact tops_put (bestByBase names) last
      · rcases List.mem_append.mp member with before | here
        · exact ih before
        · rw [List.mem_singleton.mp here]
          exact ⟨led, found, Nat.le_of_not_lt higher⟩
    · rename_i unled
      rcases List.mem_append.mp member with before | here
      · refine (ih before).put fun target pointed => ?_
        cases unled.symm.trans pointed
      · rw [List.mem_singleton.mp here]
        exact tops_put (bestByBase names) last

/-! ### Synchronization under way -/

namespace Sync

variable {y next : Sync} {names listeners : List String} {holder : String}

/-- Whether a synchronization under way has no cause to touch a base name. It asks what the listeners
list, who are characters or members of the party; the members' names that have become free belonged to
skills, so nothing else will take them. -/
structure Calm (base : String) (members listeners : List String) (y : Sync) : Prop where
  sound : y.Sound
  tidy : y.state.Tidy base members none
  tops : ∀ name, y.state.kindOf? name = some .skill → Tops y.best name
  freed : ∀ name ∈ members, y.state.find? name = none → Tops y.best name
  listeners : ∀ name ∈ listeners, name ∈ members ∨
    ∃ e, y.state.find? name = some e ∧ e.isCharacter = true

/-- What stands free under a member's name is outranked by its base name's best. -/
theorem Calm.outside (h : Calm base members listeners y)
    (pointed : y.best.get? (baseName held) = some target) (free : y.state.find? held = none)
    (higher : rank target < rank held) : held ∉ members := by
  intro member
  obtain ⟨best, found, le⟩ := h.freed held member free
  obtain rfl := Option.some.inj (found.symm.trans pointed)
  exact absurd higher (Nat.not_lt.mpr le)

theorem Calm.rewrite (h : Calm base members listeners y) (apart : baseName held ≠ base)
    (shared : baseName target = baseName held) (holders : Option (List String))
    (rewrites : List (String × String)) :
    Calm base members listeners
      { y with state := (replaceReferences y.state held target holders).1, rewrites } where
  sound := (h.sound.rewrite held target holders rewrites).1
  tidy := h.tidy.replaceReferences apart fun own => apart (shared.symm.trans own)
  tops name skill := by
    rw [GameState.kindOf?_replaceReferences] at skill
    exact h.tops name skill
  freed name member free := by
    rw [GameState.find?_replaceReferences, Option.map_eq_none_iff] at free
    exact h.freed name member free
  listeners name listed := by
    refine (h.listeners name listed).imp_right fun ⟨e, found, character⟩ => ?_
    exact ⟨renamedHolder holders held target e, by
      rw [GameState.find?_replaceReferences, found, Option.map_some],
      (renamedHolder_isCharacter e).trans character⟩

theorem Calm.beside (h : Calm base members listeners y) (lower : Entity)
    (kind : lower.kind = .skill) (apart : baseName lower.name ≠ base)
    (pointed : y.best.get? (baseName lower.name) = some target)
    (free : y.state.find? lower.name = none) (higher : rank target < rank lower.name) :
    Calm base members listeners
      { y with
        state := y.state.putKnown lower.name lower
        best := y.best.put (baseName lower.name) lower.name } where
  sound := (h.sound.beside lower kind free).1
  tidy := h.tidy.putKnown free kind apart (h.outside pointed free higher)
  tops name skill := by
    have known : (if lower.name = name then some lower.kind else y.state.kindOf? name) =
        some .skill :=
      (GameState.kindOf?_put y.state lower name).symm.trans skill
    split_ifs at known with here
    · exact here ▸ tops_put y.best lower.name
    · exact (h.tops name known).put (rank_le_of_pointed pointed higher)
  freed name member freed := by
    have absent : (if lower.name = name then some lower else y.state.find? name) = none :=
      (GameState.find?_put y.state lower name).symm.trans freed
    split_ifs at absent
    exact (h.freed name member absent).put (rank_le_of_pointed pointed higher)
  listeners name listed := by
    refine (h.listeners name listed).imp_right fun ⟨e, found, character⟩ => ⟨e, ?_, character⟩
    refine (GameState.find?_put y.state lower name).trans ((if_neg ?_).trans found)
    rintro rfl
    exact nomatch free.symm.trans found

theorem Calm.forward (h : Calm base members listeners y) (apart : baseName held ≠ base)
    (pointed : y.best.get? (baseName held) = some e.name) (found : y.state.find? e.name = some e)
    (kind : e.kind = .skill) (free : y.state.find? held = none) (higher : rank e.name < rank held) :
    Calm base members listeners
      { y with
        state := renameEntity y.state e.name held
        best := y.best.put (baseName held) held } := by
  have shared := (h.sound.points _ _ pointed).1
  have topped : Tops y.best e.name := h.tops e.name (by rw [GameState.kindOf?_of_find? found, kind])
  constructor
  · exact (h.sound.forward pointed free).1
  · exact h.tidy.renameEntity found kind free (fun own => apart (shared.symm.trans own)) apart
      (h.outside pointed free higher)
  · intro name skill
    rw [kindOf?_renameEntity h.sound.keyed found] at skill
    split_ifs at skill with here
    · rw [here]
      exact tops_put y.best held
    · exact (h.tops name skill).put (rank_le_of_pointed pointed higher)
  · intro name member freed
    rw [find?_renameEntity h.sound.keyed found] at freed
    split_ifs at freed with here own
    · rw [own]
      exact topped.put (rank_le_of_pointed pointed higher)
    · exact (h.freed name member freed).put (rank_le_of_pointed pointed higher)
  · intro name listed
    refine (h.listeners name listed).imp_right ?_
    rintro ⟨bearer, known, character⟩
    refine ⟨bearer, ?_, character⟩
    rw [find?_renameEntity h.sound.keyed found, if_neg, if_neg, known]
    · rintro rfl
      rw [found] at known
      rw [← Option.some.inj known, Entity.isCharacter, kind] at character
      cases character
    · rintro rfl
      cases free.symm.trans known

/-- What a step of a calm synchronization comes to. -/
def Keeps (base : String) (members listeners : List String) (y next : Sync) : Prop :=
  Calm base members listeners next ∧ Agrees base y.state next.state

theorem Calm.keeps (h : Calm base members listeners y) : Keeps base members listeners y y :=
  ⟨h, .refl base y.state⟩

theorem Keeps.trans {last : Sync} (first : Keeps base members listeners y next)
    (second : Keeps base members listeners next last) : Keeps base members listeners y last :=
  ⟨second.1, first.2.trans second.2⟩

theorem Calm.outrank (h : Calm base members listeners y) (apart : baseName held ≠ base)
    (pointed : y.best.get? (baseName held) = some target) (free : y.state.find? held = none)
    (higher : rank target < rank held)
    (given : Yields (y.outrank (baseName held) held target) next) :
    Keeps base members listeners y next := by
  obtain ⟨shared, isSkill⟩ := h.sound.points _ _ pointed
  obtain ⟨e, found, kind⟩ := Option.map_eq_some_iff.mp isSkill
  obtain rfl := h.sound.keyed.name_eq found
  have other : baseName e.name ≠ base := fun own => apart (shared.symm.trans own)
  rw [Sync.outrank] at given
  split_ifs at given
  · obtain ⟨lower, known, given⟩ := given.bind
    rw [found] at known
    obtain rfl := Except.ok.inj (Play.yields_ofOutcome.mp known)
    obtain ⟨id, -, given⟩ := given.bind
    obtain rfl := yields_pure.mp given
    exact ⟨h.beside { e with name := held, referenceId := some id } kind apart pointed free higher,
      agrees_putKnown (e := { e with name := held, referenceId := some id }) free kind apart⟩
  · obtain rfl := yields_pure.mp given
    have moved := h.forward apart pointed found kind free higher
    exact ⟨moved.rewrite other shared.symm none _,
      (agrees_renameEntity h.sound.keyed found kind free other apart).trans
        (agrees_replaceReferences moved.sound.keyed other apart)⟩

theorem Calm.resolve (h : Calm base members listeners y)
    (skill : baseName held = base → y.state.kindOf? held = some .skill)
    (given : Yields (y.resolve holder held) next) : Keeps base members listeners y next := by
  rw [Sync.resolve] at given
  split_ifs at given with known
  · obtain rfl := yields_pure.mp given
    exact h.keeps
  have free : y.state.find? held = none := Option.not_isSome_iff_eq_none.mp known
  have apart : baseName held ≠ base := by
    intro own
    cases (GameState.kindOf?_eq_none.mpr free).symm.trans (skill own)
  dsimp only at given
  split at given
  · obtain rfl := yields_pure.mp given
    exact h.keeps
  · rename_i target pointed
    have shared := (h.sound.points _ _ pointed).1
    split_ifs at given with unfit higher
    · obtain rfl := yields_pure.mp given
      exact h.keeps
    · exact h.outrank apart pointed free higher given
    · obtain rfl := yields_pure.mp given
      exact ⟨h.rewrite apart shared _ _, agrees_replaceReferences h.sound.keyed apart
        fun own => apart (shared.symm.trans own)⟩

/-- The names of the base name that are resolved in a row are skills at the start, and stay so. -/
theorem Calm.resolves (h : Calm base members listeners y)
    (skills : ∀ held ∈ names, baseName held = base → y.state.kindOf? held = some .skill)
    (given : Yields (names.foldlM (Sync.resolve holder) y) next) :
    Keeps base members listeners y next := by
  induction names generalizing y with
  | nil =>
    obtain rfl := yields_pure.mp given
    exact h.keeps
  | cons held names ih =>
    rw [List.foldlM_cons] at given
    obtain ⟨mid, first, given⟩ := given.bind
    obtain ⟨calm, agrees⟩ := h.resolve (skills held List.mem_cons_self) first
    refine Keeps.trans ⟨calm, agrees⟩ (ih calm (fun later listed own => ?_) given)
    rw [agrees.kinds later own]
    exact skills later (List.mem_cons_of_mem held listed) own

theorem Calm.resolveHolder (h : Calm base members listeners y) (listed : holder ∈ listeners)
    (given : Yields (y.resolveHolder holder) next) : Keeps base members listeners y next := by
  rw [Sync.resolveHolder] at given
  split at given
  · obtain rfl := yields_pure.mp given
    exact h.keeps
  rename_i e present
  refine h.resolves (fun held member own => ?_) given
  cases found : y.state.find? holder with
  | some bearer =>
    rw [found] at present
    obtain rfl := Option.some.inj present
    have named := h.sound.keyed.name_eq found
    cases character : bearer.isCharacter with
    | true =>
      exact (h.tidy.held holder held own ⟨bearer, found, character, member⟩).resolve_right
        (Option.some_ne_none _).symm
    | false =>
      rcases h.listeners holder listed with partner | ⟨other, known, isCharacter⟩
      · exact absurd own (h.tidy.things bearer (named ▸ found) character (named ▸ partner) held member)
      · rw [found] at known
        rw [Option.some.inj known, isCharacter] at character
        cases character
  | none =>
    rw [found] at present
    exact (h.tidy.party e (List.mem_of_find?_eq_some present) held member own).resolve_right
      (Option.some_ne_none _).symm

theorem Calm.resolveHolders {turns : List String} (h : Calm base members listeners y)
    (listed : ∀ holder ∈ turns, holder ∈ listeners)
    (given : Yields (turns.foldlM Sync.resolveHolder y) next) : Keeps base members listeners y next := by
  induction turns generalizing y with
  | nil =>
    obtain rfl := yields_pure.mp given
    exact h.keeps
  | cons holder turns ih =>
    rw [List.foldlM_cons] at given
    obtain ⟨mid, first, given⟩ := given.bind
    have step := h.resolveHolder (listed holder List.mem_cons_self) first
    exact step.trans (ih step.1 (fun later after => listed later (List.mem_cons_of_mem _ after)) given)

end Sync

/-- At the start, in a game that knows all members of its party. -/
theorem calm_start (tidy : s.Tidy base members none)
    (known : ∀ name ∈ members, (s.find? name).isSome = true) :
    Sync.Calm base members (holderNames s)
      { state := s, best := bestByBase ((s.ofKind .skill).map (·.name)) } where
  sound := Sync.start_sound tidy.keyed
  tidy := tidy
  tops name skill := by
    obtain ⟨e, found, kind⟩ := Option.map_eq_some_iff.mp skill
    rw [← tidy.keyed.name_eq found]
    exact bestByBase_tops (List.mem_map_of_mem
      (List.mem_filter.mpr ⟨Keyed.mem_values found, decide_eq_true kind⟩))
  freed name member free := by
    have present := known name member
    rw [free] at present
    exact nomatch present
  listeners name listed := by
    rcases List.mem_append.mp listed with own | partner
    · obtain ⟨e, member, rfl⟩ := List.mem_map.mp own
      obtain ⟨present, character⟩ := List.mem_filter.mp member
      exact .inr ⟨e, tidy.keyed.find?_name present, character⟩
    · exact .inl (tidy.company ▸ (List.mem_filter.mp partner).1)

/-- Synchronization leaves a base name alone whose listed names are all known. -/
theorem synchronize_agrees {done : GameState × List (String × String)}
    (tidy : s.Tidy base members none) (known : ∀ name ∈ members, (s.find? name).isSome = true)
    (given : Yields (synchronize s) done) : Agrees base s done.1 := by
  obtain ⟨last, resolved, given⟩ := given.bind
  obtain rfl := yields_pure.mp given
  exact ((calm_start tidy known).resolveHolders (fun _ => id) resolved).2

end Skill

end Gamebook
