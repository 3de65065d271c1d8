import Mathlib
import Gamebook.Proofs.Memory.Keeping
import Gamebook.Proofs.Memory.Novelty

/-!
Where generated memories come from. Some are told by the recent stories, others stand in the state: the
relationships of the party, the completed quests and the places that were just discovered. A memory
keeps the category that it was drafted with, so each switch is as good as the drafts that it holds back.
What is told has to reach the threshold of importance; what stands in the state does not.
-/

namespace Gamebook

open Outcome

/-! ### Drafts -/

namespace Memory

variable {s : GameState} {d : Memory}

theorem category_of_telling {kind : EventKind} {story telling : String}
    (h : ofTelling? kind story s telling = some d) : d.category = some kind.category := by
  simp only [ofTelling?] at h
  split_ifs at h
  obtain rfl := Option.some.inj h
  rfl

theorem category_of_relationship {member : Entity} (h : ofRelationship? s member = some d) :
    d.category = some .relationship := by
  rw [ofRelationship?] at h
  split at h
  · cases h
  · split_ifs at h
    obtain rfl := Option.some.inj h
    rfl

theorem category_of_quest {q : Quest} (h : ofQuest? s q = some d) : d.category = some .story := by
  rw [ofQuest?] at h
  split at h
  · cases h
  · obtain rfl := Option.some.inj h
    rfl

theorem category_of_place {lookback : Nat} {place : Entity}
    (h : ofPlace? s lookback place = some d) : d.category = some .discovery := by
  simp only [ofPlace?] at h
  split_ifs at h
  obtain rfl := Option.some.inj h
  rfl

end Memory

namespace GenerationConfig

variable {c : GenerationConfig} {s : GameState} {e : Entry} {acc next last : List Memory × Nat}
  {entries : List Entry} {m : Memory} {g : Generation}

/-! ### Origins -/

/-- The memory of an event that an entry tells: of a kind that is switched on, and as important as is
asked for. -/
structure Tells (c : GenerationConfig) (s : GameState) (e : Entry) (m : Memory) : Prop where
  drafted : ∃ story, e.story? = .ok (some story) ∧ ∃ kind ∈ eventKinds, kind.enabled c = true ∧
    ∃ telling ∈ Text.tellings kind.phrases story, ∃ d, Memory.ofTelling? kind story s telling = some d ∧
      d.enhanced s = .ok m
  enough : c.minImportance.le (.float m.weight) = true

/-- The memory of a place that is described and was discovered within the last turns. -/
structure Recalls (c : GenerationConfig) (s : GameState) (m : Memory) : Prop where
  on : c.achievementMemories = true
  drafted : ∃ place ∈ s.ofKind .location, ∃ d, Memory.ofPlace? s c.lookbackTurns place = some d ∧
    d.enhanced s = .ok m

/-- The memory of something that stands in the state, if it is switched on. -/
inductive Stands (c : GenerationConfig) (s : GameState) (m : Memory) : Prop
  | bond {member : Entity} {d : Memory} : c.relationshipMemories = true → member ∈ s.party →
    Memory.ofRelationship? s member = some d → d.enhanced s = .ok m → Stands c s m
  | quest {q : Quest} {d : Memory} : c.achievementMemories = true → q ∈ s.quests →
    Memory.ofQuest? s q = some d → d.enhanced s = .ok m → Stands c s m
  | place : c.Recalls s m → Stands c s m

/-- What a generated memory comes from. -/
inductive Origin (c : GenerationConfig) (s : GameState) (m : Memory) : Prop
  | told {e : Entry} : e ∈ c.recentEntries s.gameHistory → c.Tells s e m → Origin c s m
  | stood : c.Stands s m → Origin c s m

theorem tells_of_analyzed {story : String} {candidates known : List Memory}
    (read : e.story? = .ok (some story)) (analyzed : c.analyzeStory story s = .ok candidates)
    (listed : m ∈ candidates) (qualified : c.qualifies known m = true) : c.Tells s e m := by
  obtain ⟨d, drafted, made⟩ := exists_of_mem_mapM analyzed listed
  obtain ⟨kind, switched, told⟩ := List.mem_flatMap.mp drafted
  obtain ⟨kinds, on⟩ := List.mem_filter.mp switched
  obtain ⟨telling, occurs, draft⟩ := List.mem_filterMap.mp told
  exact ⟨⟨story, read, kind, kinds, on, telling, occurs, d, draft, made⟩,
    (Bool.and_eq_true_iff.mp qualified).1⟩

theorem Collects.mem_or_tells (h : Collects c s acc e next) :
    ∀ m ∈ next.1, m ∈ acc.1 ∨ c.Tells s e m := by
  cases h with
  | enough | silent => exact fun m member => .inl member
  | told read analyzed =>
    intro m member
    rcases List.mem_append.mp member with old | new
    · exact .inl old
    · obtain ⟨listed, qualified⟩ := List.mem_filter.mp new
      exact .inr (tells_of_analyzed read analyzed listed qualified)

/-- What was collected from entries was there before, or one of them tells it. -/
theorem stories_tell (h : entries.foldlM (c.collectEntry s) acc = .ok last) :
    ∀ m ∈ last.1, m ∈ acc.1 ∨ ∃ e ∈ entries, c.Tells s e m := by
  induction entries generalizing acc with
  | nil =>
    obtain rfl := pure_eq_ok.mp h
    exact fun m member => .inl member
  | cons e entries ih =>
    rw [List.foldlM_cons, bind_eq_ok] at h
    obtain ⟨next, first, rest⟩ := h
    intro m member
    rcases ih rest m member with early | ⟨later, among, tells⟩
    · refine ((collects_of_eq_ok first).mem_or_tells m early).imp_right fun tells => ?_
      exact ⟨e, List.mem_cons_self, tells⟩
    · exact .inr ⟨later, List.mem_cons_of_mem e among, tells⟩

theorem stands_of_standing {standing : List Memory} (stood : c.standing s = .ok standing)
    (listed : m ∈ standing) : c.Stands s m := by
  obtain ⟨d, drafted, made⟩ := exists_of_mem_mapM stood listed
  rcases List.mem_append.mp drafted with party | others
  · split_ifs at party with on
    · obtain ⟨member, among, bond⟩ := List.mem_filterMap.mp party
      exact .bond on among bond made
    · exact absurd party List.not_mem_nil
  · split_ifs at others with on
    · rcases List.mem_append.mp others with quests | places
      · obtain ⟨q, among, quest⟩ := List.mem_filterMap.mp quests
        exact .quest on among quest made
      · obtain ⟨place, among, draft⟩ := List.mem_filterMap.mp places
        exact .place ⟨on, place, among, d, draft, made⟩
    · exact absurd others List.not_mem_nil

theorem generate_origin (h : c.generate s = .ok g) (listed : m ∈ g.memories) : c.Origin s m := by
  obtain ⟨told, analyzed, standing, collected, stood, chosen⟩ := generate_eq_ok h
  have kept : m ∈ deduplicate (gathered s told standing) :=
    (byImportance_perm _).subset (List.mem_of_mem_take (chosen ▸ listed))
  rcases mem_of_mem_keepFrom (deduplicate_subset _ kept) with early | late
  · rcases stories_tell collected m early with nowhere | ⟨e, recent, tells⟩
    · exact absurd nowhere List.not_mem_nil
    · exact .told recent tells
  · exact .stood (stands_of_standing stood late)

/-! ### A single candidate -/

/-- The candidates of a state: what is told, and then what stands. -/
def candidates (c : GenerationConfig) (s : GameState) : Outcome (List Memory) := do
  let (told, _) ← (c.recentEntries s.gameHistory).foldlM (c.collectEntry s) ([], 0)
  let standing ← c.standing s
  return told ++ standing

/-- A single candidate is all that is generated, if nothing is remembered yet. -/
theorem exists_lone {p : Memory → Bool} (h : c.generate s = .ok g) (wanted : 0 < c.maxPerTurn)
    (clear : s.memories = [])
    (lone : (c.candidates s).toOption.any (fun ms => ms.length == 1 && ms.all p) = true) :
    ∃ m, g.memories = [m] ∧ p m = true := by
  obtain ⟨told, analyzed, standing, collected, stood, chosen⟩ := generate_eq_ok h
  obtain ⟨ms, listed, single⟩ := exists_ok lone
  have all_listed : c.candidates s = .ok (told ++ standing) := by
    rw [candidates, collected, stood]
    rfl
  obtain rfl := Except.ok.inj (all_listed.symm.trans listed)
  obtain ⟨one, all⟩ := Bool.and_eq_true_iff.mp single
  obtain ⟨m, only⟩ := List.length_eq_one_iff.mp (beq_iff_eq.mp one)
  -- The one memory is told or stands, and there is nothing that it could repeat.
  have gathers : gathered s told standing = [m] := by
    rcases List.append_eq_singleton_iff.mp only with ⟨rfl, rfl⟩ | ⟨rfl, rfl⟩
    · rw [gathered, clear]
      rfl
    · rfl
  refine ⟨m, ?_, List.all_eq_true.mp all m (only ▸ List.mem_singleton_self m)⟩
  rw [chosen, gathers]
  change (byImportance [m]).take c.maxPerTurn = [m]
  rw [byImportance, List.mergeSort_singleton, List.take_of_length_le wanted]

/-! ### The threshold -/

/-- A memory whose importance is its score and reaches the threshold: by the comparison of amounts, and
by the exact values where the threshold is a finite amount. -/
structure Weighty (c : GenerationConfig) (s : GameState) (m : Memory) : Prop where
  scored : m.Scored s
  enough : c.minImportance.le (.float m.weight) = true
  value : c.minImportance.IsFinite → c.minImportance.value ≤ (Number.float m.weight).value

theorem Tells.weighty (h : c.Tells s e m) : c.Weighty s m := by
  obtain ⟨story, -, kind, -, -, telling, -, d, -, made⟩ := h.drafted
  have scored := Memory.scored_of_enhanced made
  obtain ⟨finite, -⟩ := scored.weight_height.1.units_height scored.weight_height.2
  refine ⟨scored, h.enough, fun bounded => ?_⟩
  exact Number.value_le_iff.mpr
    ((Number.le_iff_units bounded (y := .float m.weight) finite).mp h.enough)

/-- A generated memory reaches the threshold of importance, unless it is of something that stands in the
state. -/
theorem generate_weighs (c : GenerationConfig) (s : GameState) :
    (s.knownEntities.length ≤ crowd → (∀ e ∈ s.gameHistory, e.Readable) →
      ∃ g, c.generate s = .ok g) ∧
    ∀ g, c.generate s = .ok g → ∀ m ∈ g.memories, c.Weighty s m ∨ c.Stands s m := by
  refine ⟨exists_generated, fun g h m listed => ?_⟩
  cases generate_origin h listed with
  | told _ tells => exact .inl tells.weighty
  | stood stands => exact .inr stands

/-- The third turn, with a fight. -/
def skirmish : GameState where
  turnCount := 3
  gameHistory := [.ofUser "Đánh", .ofReply { story := "Lan đánh bại con sói." }]

theorem skirmish_readable : ∀ e ∈ skirmish.gameHistory, e.Readable := by
  have read : ∀ e ∈ skirmish.gameHistory, e.payload?.toOption.isSome = true := by decide +kernel
  intro e member
  obtain ⟨v, payload, -⟩ := exists_ok (x := e.payload?) (p := fun _ => true)
    (by rw [Option.any_true]; exact read e member)
  exact ⟨v, payload⟩

theorem not_stands_skirmish : ¬ c.Stands skirmish m := by
  intro stands
  cases stands with
  | bond _ member | quest _ member => exact absurd member List.not_mem_nil
  | place recalls =>
    obtain ⟨place, known, -⟩ := recalls.drafted
    exact absurd known List.not_mem_nil

/-- The fight is remembered, at no less than the fifty points that are asked for. -/
theorem skirmish_weighs : skirmish.knownEntities.length ≤ crowd ∧
    (∀ e ∈ skirmish.gameHistory, e.Readable) ∧
    ∃ g, generate {} skirmish = .ok g ∧ ∃ m, g.memories = [m] ∧ m.Scored skirmish ∧
      50 ≤ (Number.float m.weight).value := by
  have known : skirmish.knownEntities.length ≤ crowd := Nat.zero_le _
  obtain ⟨g, generated⟩ := (generate_weighs {} skirmish).1 known skirmish_readable
  obtain ⟨m, all, -⟩ := exists_lone (p := fun _ => true) generated Nat.one_pos rfl (by decide +kernel)
  have weighty := ((generate_weighs {} skirmish).2 g generated m
    (all ▸ List.mem_singleton_self m)).resolve_right not_stands_skirmish
  have fifty : (Number.int 50).value = 50 := Number.value_int 50
  exact ⟨known, skirmish_readable, g, generated, m, all, weighty.scored,
    fifty.symm.trans_le (weighty.value trivial)⟩

/-- A friend in the party as the game begins. -/
def arrival : GameState where
  party := [{ name := "Lan", kind := .companion, relationship := some "Bạn" }]

/-- The friend is remembered, at less than the fifty points that are asked for. -/
theorem arrival_below_threshold : ∃ g, generate {} arrival = .ok g ∧
    ∃ m ∈ g.memories, (Number.float m.weight).value < 50 := by
  have readable : ∀ e ∈ arrival.gameHistory, e.Readable :=
    fun e absent => absurd absent List.not_mem_nil
  obtain ⟨g, generated⟩ := exists_generated (c := {}) (s := arrival) (Nat.zero_le _) readable
  obtain ⟨m, all, low⟩ := exists_lone
    (p := fun m => (Number.float m.weight).units < (Number.int 50).units) generated Nat.one_pos rfl
    (by decide +kernel)
  refine ⟨g, generated, m, all ▸ List.mem_singleton_self m, ?_⟩
  have fifty : (Number.int 50).value = 50 := Number.value_int 50
  rw [← fifty, ← not_le, Number.value_le_iff, not_le]
  exact of_decide_eq_true low

/-! ### Switches -/

/-- Events of combat and discoveries are switched on by the switches of these names, and no event is a
relationship. -/
theorem enabled_of_category {kind : EventKind} (listed : kind ∈ eventKinds)
    (on : kind.enabled c = true) : (kind.category = .combat → c.combatMemories = true) ∧
      kind.category ≠ .relationship ∧ (kind.category = .discovery → c.discoveryMemories = true) := by
  simp only [eventKinds, List.mem_cons, List.not_mem_nil, or_false] at listed
  rcases listed with rfl | rfl | rfl | rfl | rfl
  · exact ⟨nofun, nofun, fun _ => on⟩
  · exact ⟨fun _ => on, nofun, nofun⟩
  · exact ⟨nofun, nofun, nofun⟩
  · exact ⟨nofun, nofun, nofun⟩
  · exact ⟨nofun, nofun, nofun⟩

theorem Recalls.category (h : c.Recalls s m) : m.category = some .discovery := by
  obtain ⟨place, -, d, drafted, made⟩ := h.drafted
  exact (Memory.keeps_of_enhanced made).category _ (Memory.category_of_place drafted)

/-- The category of a generated memory is switched on where the memory comes from. -/
theorem Origin.category (h : c.Origin s m) : ∃ k, m.category = some k ∧
    (k = .combat → c.combatMemories = true) ∧ (k = .relationship → c.relationshipMemories = true) ∧
      (k = .discovery → c.discoveryMemories = true ∨ c.Recalls s m) := by
  have kept {d : Memory} (made : d.enhanced s = .ok m) := (Memory.keeps_of_enhanced made).category
  cases h with
  | told _ tells =>
    obtain ⟨story, -, kind, listed, on, telling, -, d, drafted, made⟩ := tells.drafted
    obtain ⟨combat, relationship, discovery⟩ := enabled_of_category listed on
    exact ⟨kind.category, kept made _ (Memory.category_of_telling drafted), combat,
      fun same => absurd same relationship, fun same => .inl (discovery same)⟩
  | stood stands => cases stands with
    | bond on _ drafted made =>
      exact ⟨_, kept made _ (Memory.category_of_relationship drafted), nofun, fun _ => on, nofun⟩
    | quest _ _ drafted made =>
      exact ⟨_, kept made _ (Memory.category_of_quest drafted), nofun, nofun, nofun⟩
    | place recalls => exact ⟨_, recalls.category, nofun, nofun, fun _ => .inr recalls⟩

/-- What the switches say of a generated memory. Those of combat and of relationships silence their
categories; that of discoveries leaves the places, which the switch of achievements allows. -/
structure Switched (c : GenerationConfig) (s : GameState) (m : Memory) : Prop where
  combat : c.combatMemories = false → m.category ≠ some .combat
  relationship : c.relationshipMemories = false → m.category ≠ some .relationship
  discovery : c.discoveryMemories = false → (m.category = some .discovery ↔ c.Recalls s m)

theorem Origin.switched (h : c.Origin s m) : c.Switched s m := by
  obtain ⟨k, own, combat, relationship, discovery⟩ := h.category
  have same {k' : MemoryCategory} (h : m.category = some k') : k = k' :=
    Option.some.inj (own.symm.trans h)
  constructor
  · exact fun off is => nomatch off.symm.trans (combat (same is))
  · exact fun off is => nomatch off.symm.trans (relationship (same is))
  · refine fun off => ⟨fun is => (discovery (same is)).resolve_left fun on => ?_, Recalls.category⟩
    exact nomatch off.symm.trans on

/-- No memory of combat or of a relationship is generated when these are switched off. With discoveries
off, the generated memories of that category are those of the places that were just discovered, if
achievements are on. -/
theorem generate_switched (c : GenerationConfig) (s : GameState) :
    (s.knownEntities.length ≤ crowd → (∀ e ∈ s.gameHistory, e.Readable) →
      ∃ g, c.generate s = .ok g) ∧
    ∀ g, c.generate s = .ok g → ∀ m ∈ g.memories, c.Switched s m := by
  refine ⟨exists_generated, fun g h m listed => ?_⟩
  exact (generate_origin h listed).switched

/-- The fight, with a friend in the party and a quest that is done. -/
def homecoming : GameState :=
  { skirmish with
    party := arrival.party
    quests := [{ title := "Cứu Lan", status := .completed }] }

/-- A configuration with three categories off. -/
def quiet : GenerationConfig where
  relationshipMemories := false
  discoveryMemories := false
  combatMemories := false
  maxPerTurn := 3

/-- What is remembered is neither the fight nor the friend. -/
theorem homecoming_switched : homecoming.knownEntities.length ≤ crowd ∧
    (∀ e ∈ homecoming.gameHistory, e.Readable) ∧
    ∃ g, quiet.generate homecoming = .ok g ∧ ∃ m, g.memories = [m] ∧
      m.category ∉ [some .combat, some .relationship, some .discovery] := by
  have known : homecoming.knownEntities.length ≤ crowd := Nat.zero_le _
  obtain ⟨g, generated⟩ := (generate_switched quiet homecoming).1 known skirmish_readable
  obtain ⟨m, all, -⟩ := exists_lone (p := fun _ => true) generated (by decide) rfl (by decide +kernel)
  have switched := (generate_switched quiet homecoming).2 g generated m
    (all ▸ List.mem_singleton_self m)
  have nowhere : ¬ quiet.Recalls homecoming m := fun recalls => by
    obtain ⟨place, found, -⟩ := recalls.drafted
    exact List.not_mem_nil found
  refine ⟨known, skirmish_readable, g, generated, m, all, ?_⟩
  simp only [List.mem_cons, List.not_mem_nil, or_false, not_or]
  exact ⟨switched.combat rfl, switched.relationship rfl, mt (switched.discovery rfl).mp nowhere⟩

/-- A place that is known as the game begins. -/
def frontier : GameState where
  knownEntities := [("Huế", { name := "Huế", kind := .location, description := "Cố đô" })]

/-- The place is remembered as a discovery although discoveries are off. -/
theorem frontier_discovered : ∃ g, generate { discoveryMemories := false } frontier = .ok g ∧
    ∃ m ∈ g.memories, m.category = some .discovery := by
  have known : frontier.knownEntities.length ≤ crowd := by decide +kernel
  have readable : ∀ e ∈ frontier.gameHistory, e.Readable :=
    fun e absent => absurd absent List.not_mem_nil
  obtain ⟨g, generated⟩ := exists_generated (c := { discoveryMemories := false }) known readable
  obtain ⟨m, all, discovered⟩ := exists_lone (p := fun m => m.category = some .discovery) generated
    Nat.one_pos rfl (by decide +kernel)
  exact ⟨g, generated, m, all ▸ List.mem_singleton_self m, of_decide_eq_true discovered⟩

end GenerationConfig

end Gamebook
