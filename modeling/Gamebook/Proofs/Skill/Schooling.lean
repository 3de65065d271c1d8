import Gamebook.Proofs.Cast.Leading
import Gamebook.Proofs.Skill.Holding
import Gamebook.Proofs.Skill.Settling
import Gamebook.Tag.Learning

/-!
A player who learns skills of one base name. What the game knows of it is what the player holds: names
that were taught, of the highest rank among these. A lesson brings a name among skills of its own rank,
takes the place of the only one that it outranks, or is outranked itself and changes nothing.
-/

namespace Gamebook

open Skill Text

variable {s t : GameState} {e pc : Entity} {base player name old new : String}
  {members names : List String} {coming : Option String}

namespace GameState

/-! ### Keeping tidy -/

theorem party_put (outside : e.name ∉ s.party.map (·.name)) : (s.put e).party = s.party :=
  replaceNamed_of_outside outside

/-- What was known of listed names before a skill is stored, or to come, is known then. -/
theorem kindOf?_put_skill (skill : e.kind = .skill) (own : ∀ name, coming = some name → name = e.name)
    (listed : s.kindOf? name = some .skill ∨ coming = some name) :
    (s.put e).kindOf? name = some .skill := by
  rw [kindOf?_put]
  split_ifs with here
  · exact congrArg some skill
  · exact listed.resolve_right fun told => here (own name told).symm

theorem Tidy.put (h : Tidy base members coming s) (skill : e.kind = .skill)
    (own : ∀ name, coming = some name → name = e.name) (outside : e.name ∉ members) :
    Tidy base members none (s.put e) where
  keyed := h.keyed.put e
  company := (map_name_replaceNamed e s.party).trans h.company
  held holder name shared held := by
    have before := held.of_put (by rw [Entity.isCharacter, skill]; rfl)
    exact .inl (kindOf?_put_skill skill own (h.held holder name shared before))
  party m member name listed shared := by
    rw [party_put (h.company ▸ outside)] at member
    exact .inl (kindOf?_put_skill skill own (h.party m member name listed shared))
  things other found character member := by
    rw [find?_put] at found
    split_ifs at found with here
    · exact absurd (here ▸ member) outside
    · exact h.things other found character member

/-- Who is in the party after somebody was taught a skill. -/
theorem mem_party_addToHolder {m : Entity} {holder : String}
    (member : m ∈ (addToHolder s holder new).1.party) :
    m ∈ s.party ∨ ∃ before ∈ s.party, m = taught new before := by
  rw [addToHolder_party] at member
  split at member
  · rename_i before listed
    exact (mem_of_replaceNamed member).symm.imp_right fun same =>
      ⟨before, List.mem_of_find?_eq_some listed, same⟩
  · exact .inl member

/-- A known skill may be taught to a character. -/
theorem Tidy.teach (h : Tidy base members none s) (found : s.find? player = some pc)
    (character : pc.isCharacter = true)
    (known : baseName new = base → s.kindOf? new = some .skill) (trimmed : trim new = new) :
    Tidy base members none (addToHolder s player new).1 where
  keyed := h.keyed.addToHolder player new
  company := by
    rw [addToHolder_party]
    split
    · exact (map_name_replaceNamed _ _).trans h.company
    · exact h.company
  held holder name own held := by
    rw [kindOf?_addToHolder]
    rcases held.of_addToHolder with before | rfl
    · exact h.held holder name own before
    · rw [trimmed] at own ⊢
      exact .inl (known own)
  party m member name listed own := by
    rw [kindOf?_addToHolder]
    rcases mem_party_addToHolder member with before | ⟨before, present, rfl⟩
    · exact h.party m before name listed own
    · rcases mem_taught listed with kept | rfl
      · exact h.party before present name kept own
      · rw [trimmed] at own ⊢
        exact .inl (known own)
  things other here thing member := by
    rw [find?_addToHolder] at here
    split_ifs at here with same
    · rw [same, found] at here
      rw [← Option.some.inj here, Entity.isCharacter, taught, Entity.withSkills_kind] at thing
      cases character.symm.trans thing
    · exact h.things other here thing member

/-- The only skill of the base name makes way for another one. -/
theorem Tidy.supersede (h : Tidy base members none s)
    (only : ∀ name, baseName name = base → s.kindOf? name = some .skill → name = old) (new : String) :
    Tidy base members (some new) ((Skill.replaceReferences s old new none).1.forget old) where
  keyed := (h.keyed.replaceReferences old new none).forget old
  company := (names_replaceReferences s old new none).trans h.company
  held holder name own held := by
    rcases held.of_forget.of_replaceReferences h.keyed with ⟨before, spared⟩ | ⟨rfl, -⟩
    · have listed := (h.held holder name own before).resolve_right nofun
      exact nomatch spared (only name own listed)
    · exact .inr rfl
  party m member name listed own := by
    obtain ⟨before, present, rfl⟩ := List.mem_map.mp member
    rcases mem_renamedMember listed with ⟨kept, spared⟩ | ⟨rfl, -⟩
    · have known := (h.party before present name kept own).resolve_right nofun
      exact nomatch spared (only name own known)
    · exact .inr rfl
  things other here thing member := by
    rw [find?_forget] at here
    split_ifs at here
    exact h.things other (find?_replaceReferences_thing here thing) thing member

/-! ### The school -/

/-- A game in which the player can be taught: it is tidy, its player has a certain name and no other
character goes by the player's title, and it knows all members of its party. -/
structure School (base player : String) (members : List String) (coming : Option String)
    (s : GameState) : Prop extends Tidy base members coming s where
  leads : ∃ pc, s.pc? = some pc ∧ pc.name = player
  known : ∀ name ∈ members, (s.find? name).isSome = true
  alone : ∀ e, s.find? "pc" = some e → Scene.isOtherCharacter e = false
  partners : ∀ m ∈ s.party, m.name = "pc" → Scene.isOtherCharacter m = false

theorem isOtherCharacter_of_kind {updated : Entity} (kind : updated.kind = e.kind)
    (h : Scene.isOtherCharacter e = false) : Scene.isOtherCharacter updated = false := by
  rw [Scene.isOtherCharacter, kind]
  exact h

/-- A skill that is stored was known before, or to come. -/
theorem School.put (h : School base player members coming s) (skill : e.kind = .skill)
    (own : ∀ name, coming = some name → name = e.name) (apart : e.name ≠ player)
    (outside : e.name ∉ members) : School base player members none (s.put e) where
  toTidy := h.toTidy.put skill own outside
  leads := by
    obtain ⟨pc, leads, rfl⟩ := h.leads
    exact ⟨pc, pc?_put_other leads h.keyed (by rw [skill]; decide) apart, rfl⟩
  known name member := by
    rw [find?_put]
    split_ifs
    · rfl
    · exact h.known name member
  alone other found := by
    rw [find?_put] at found
    split_ifs at found
    · rw [← Option.some.inj found, Scene.isOtherCharacter, skill]
      rfl
    · exact h.alone other found
  partners m member := by
    rw [party_put (h.company ▸ outside)] at member
    exact h.partners m member

theorem School.teach (h : School base player members none s)
    (known : baseName new = base → s.kindOf? new = some .skill) (trimmed : trim new = new) :
    School base player members none (addToHolder s player new).1 := by
  obtain ⟨pc, leads, rfl⟩ := h.leads
  have character : pc.isCharacter = true := by rw [Entity.isCharacter, (pc?_eq_some leads).2]; rfl
  exact {
    toTidy := h.toTidy.teach (find?_pc h.keyed leads) character known trimmed
    leads := ⟨_, pc?_addToHolder leads h.keyed new, pc.withSkills_name _⟩
    known := fun name member => by
      rw [find?_addToHolder]
      split_ifs
      · rw [Option.isSome_map]
        exact h.known name member
      · exact h.known name member
    alone := fun other here => by
      rw [find?_addToHolder] at here
      split_ifs at here
      · obtain ⟨before, first, rfl⟩ := Option.map_eq_some_iff.mp here
        exact isOtherCharacter_of_kind (before.withSkills_kind _) (h.alone before first)
      · exact h.alone other here
    partners := fun m member named => by
      rcases mem_party_addToHolder member with before | ⟨before, present, rfl⟩
      · exact h.partners m before named
      · exact isOtherCharacter_of_kind (before.withSkills_kind _)
          (h.partners before present ((before.withSkills_name _).symm.trans named)) }

theorem School.supersede (h : School base player members none s)
    (skill : s.kindOf? old = some .skill) (outside : old ∉ members)
    (only : ∀ name, baseName name = base → s.kindOf? name = some .skill → name = old) (new : String) :
    School base player members (some new) ((replaceReferences s old new none).1.forget old) where
  toTidy := h.toTidy.supersede only new
  leads := by
    obtain ⟨lower, found, kind⟩ := Option.map_eq_some_iff.mp skill
    obtain ⟨pc, leads, named⟩ := h.leads
    refine ⟨renamedHolder none old new pc, ?_, (renamedHolder_name pc).trans named⟩
    refine pc?_forget (e := renamedHolder none old new lower)
      (pc?_replaceReferences leads old new none) (h.keyed.replaceReferences old new none) ?_ ?_
    · rw [find?_replaceReferences, found, Option.map_some]
    · rw [renamedHolder_kind, kind]
      decide
  known name member := by
    have kept : name ≠ old := fun same => outside (same ▸ member)
    rw [find?_forget, if_neg kept, find?_replaceReferences, Option.isSome_map]
    exact h.known name member
  alone other here := by
    rw [find?_forget] at here
    split_ifs at here
    rw [find?_replaceReferences] at here
    obtain ⟨before, first, rfl⟩ := Option.map_eq_some_iff.mp here
    exact isOtherCharacter_of_kind (renamedHolder_kind before) (h.alone before first)
  partners m member called := by
    obtain ⟨before, present, rfl⟩ := List.mem_map.mp member
    exact isOtherCharacter_of_kind (renamedMember_kind before)
      (h.partners before present ((renamedMember_name before).symm.trans called))

/-! ### Knowing and holding -/

/-- Whether a name is that of a known skill with a base name. -/
def Knows (base : String) (s : GameState) (name : String) : Prop :=
  baseName name = base ∧ s.kindOf? name = some .skill

theorem knows_addToHolder_put (skill : e.kind = .skill) (own : baseName e.name = base) :
    (addToHolder (s.put e) player e.name).1.Knows base name ↔ s.Knows base name ∨ name = e.name := by
  rw [Knows, Knows, kindOf?_addToHolder, kindOf?_put]
  split_ifs with here
  · exact ⟨fun _ => .inr here.symm, fun _ => ⟨here ▸ own, congrArg some skill⟩⟩
  · exact (or_iff_left (Ne.symm here)).symm

theorem heldBy_addToHolder (found : s.find? player = some pc) (character : pc.isCharacter = true) :
    (addToHolder s player new).1.HeldBy player name ↔ name ∈ (taught new pc).skillNames := by
  have here : (addToHolder s player new).1.find? player = some (taught new pc) := by
    rw [find?_addToHolder, if_pos rfl, found, Option.map_some]
  constructor
  · rintro ⟨bearer, first, -, listed⟩
    rw [here] at first
    exact Option.some.inj first ▸ listed
  · refine fun listed => ⟨_, here, ?_, listed⟩
    rw [Entity.isCharacter, taught, Entity.withSkills_kind]
    exact character

end GameState

/-- Whether a name may be taught to the player: it has the base name and nothing around it, stands for
a skill, and is not that of the player or of a member of the party. -/
structure Skill.Teachable (base player : String) (members : List String) (name : String) : Prop where
  own : baseName name = base
  trimmed : trim name = name
  filled : isPlaceholder name = false
  apart : name ≠ player
  outside : name ∉ members

instance (base player : String) (members : List String) (name : String) :
    Decidable (Teachable base player members name) :=
  decidable_of_iff (baseName name = base ∧ trim name = name ∧ isPlaceholder name = false ∧
    name ≠ player ∧ name ∉ members)
    ⟨fun ⟨a, b, c, d, e⟩ => ⟨a, b, c, d, e⟩, fun h => ⟨h.1, h.2, h.3, h.4, h.5⟩⟩

namespace GameState

/-- Whether the player holds what the game knows of a base name after some names of it were taught: of
these only such of the highest rank, in one spelling each. -/
structure Schooled (base player : String) (members names : List String) (s : GameState) : Prop
    extends School base player members none s where
  lessons : ∀ name ∈ names, Teachable base player members name
  learned : ∀ name, s.Knows base name → s.HeldBy player name
  taught : ∀ name, s.Knows base name → name ∈ names
  best : ∀ name, s.Knows base name → ∀ other ∈ names, rank other ≤ rank name
  spelled : ∀ a b, s.Knows base a → s.Knows base b → sameName a b = true → a = b
  present : names ≠ [] → ∃ name, s.Knows base name

/-- Whether a name can be entered among the skills that the game knows of its base name: they share its
rank, and none of the names that were taught is of a higher one. -/
structure Ready (base player : String) (members names : List String) (new : String)
    (s : GameState) : Prop extends School base player members (some new) s where
  lessons : ∀ name ∈ names, Teachable base player members name
  learned : ∀ name, s.Knows base name → s.HeldBy player name ∨ name = new
  taught : ∀ name, s.Knows base name → name ∈ names
  level : ∀ name, s.Knows base name → rank name = rank new
  spelled : ∀ a b, s.Knows base a → s.Knows base b → sameName a b = true → a = b
  single : ∀ name, s.Knows base name → sameName name new = true → name = new
  top : ∀ other ∈ names, rank other ≤ rank new

/-- The player holds the entered name beside the others. -/
theorem Ready.enter (h : Ready base player members names e.name s)
    (lesson : Teachable base player members e.name) (skill : e.kind = .skill) :
    Schooled base player members (names ++ [e.name]) (addToHolder (s.put e) player e.name).1 := by
  have entered : School base player members none (s.put e) :=
    h.toSchool.put skill (fun _ same => (Option.some.inj same).symm) lesson.apart lesson.outside
  have here : (s.put e).kindOf? e.name = some .skill := by rw [kindOf?_put, if_pos rfl, skill]
  have knows (name : String) : (addToHolder (s.put e) player e.name).1.Knows base name ↔
      s.Knows base name ∨ name = e.name :=
    knows_addToHolder_put skill lesson.own
  obtain ⟨pc, leads, named⟩ := entered.leads
  have found : (s.put e).find? player = some pc := named ▸ find?_pc entered.keyed leads
  have character : pc.isCharacter = true := by rw [Entity.isCharacter, (pc?_eq_some leads).2]; rfl
  -- What the player holds of the base name is known, so it shares the rank of the entered name.
  have held (name : String) (listed : name ∈ pc.skillNames) (shared : baseName name = baseName e.name) :
      s.Knows base name ∨ name = e.name := by
    have own : baseName name = base := shared.trans lesson.own
    have known := (entered.held player name own ⟨pc, found, character, listed⟩).resolve_right
      (Option.some_ne_none _).symm
    exact (knows name).mp ⟨own, kindOf?_addToHolder.trans known⟩
  have holds (name : String) : (addToHolder (s.put e) player e.name).1.HeldBy player name ↔
      name ∈ pc.skillNames ∨ name = e.name := by
    refine (heldBy_addToHolder found character).trans
      (mem_taught_iff lesson.trimmed lesson.filled (fun name listed shared => ?_)
        fun name listed same => ?_)
    · exact (held name listed shared).elim (h.level name) (congrArg rank)
    · exact (held name listed (baseName_of_sameName same)).elim (h.single name · same) id
  exact {
    toSchool := entered.teach (fun _ => here) lesson.trimmed
    lessons := List.forall_mem_append.mpr ⟨h.lessons, List.forall_mem_singleton.mpr lesson⟩
    learned := fun name known => (holds name).mpr <| by
      refine or_iff_not_imp_right.mpr fun other => ?_
      obtain ⟨bearer, first, isCharacter, listed⟩ :=
        (h.learned name (((knows name).mp known).resolve_right other)).resolve_right other
      have kept : (s.put e).find? player = some bearer := by
        rw [find?_put, if_neg lesson.apart, first]
      rw [found] at kept
      exact Option.some.inj kept ▸ listed
    taught := fun name known => List.mem_append.mpr <|
      ((knows name).mp known).imp (h.taught name) List.mem_singleton.mpr
    best := fun name known => by
      have same : rank name = rank e.name :=
        ((knows name).mp known).elim (h.level name) (congrArg rank)
      rw [same]
      exact List.forall_mem_append.mpr ⟨h.top, List.forall_mem_singleton.mpr le_rfl⟩
    spelled := fun a b left right same => by
      rcases (knows a).mp left with left | rfl
      · rcases (knows b).mp right with right | rfl
        · exact h.spelled a b left right same
        · exact h.single a left same
      · rcases (knows b).mp right with right | rfl
        · exact (h.single b right (sameName_comm.trans same)).symm
        · rfl
    present := fun _ => ⟨e.name, (knows e.name).mpr (.inr rfl)⟩ }

/-! ### Lessons -/

theorem Tidy.expect (h : Tidy base members none s) (new : String) : Tidy base members (some new) s where
  keyed := h.keyed
  company := h.company
  held holder name own held := .inl ((h.held holder name own held).resolve_right nofun)
  party m member name listed own := .inl ((h.party m member name listed own).resolve_right nofun)
  things := h.things

theorem School.expect (h : School base player members none s) (new : String) :
    School base player members (some new) s where
  toTidy := h.toTidy.expect new
  leads := h.leads
  known := h.known
  alone := h.alone
  partners := h.partners

namespace Schooled

theorem level {a b : String} (h : Schooled base player members names s) (left : s.Knows base a)
    (right : s.Knows base b) : rank a = rank b :=
  le_antisymm (h.best b right a (h.taught a left)) (h.best a left b (h.taught b right))

/-- A name is ready for if it shares the rank of what is known, and none of it is another spelling. -/
theorem ready (h : Schooled base player members names s)
    (level : ∀ name, s.Knows base name → rank name = rank new)
    (single : ∀ name, s.Knows base name → sameName name new = true → name = new) :
    Ready base player members names new s where
  toSchool := h.toSchool.expect new
  lessons := h.lessons
  learned name known := .inl (h.learned name known)
  taught := h.taught
  level := level
  spelled := h.spelled
  single := single
  top other member := by
    obtain ⟨name, known⟩ := h.present (List.ne_nil_of_mem member)
    exact (h.best name known other member).trans (level name known).le

/-- So is a higher one in the place of the only one that is known. -/
theorem supersede (h : Schooled base player members names s) (known : s.Knows base old)
    (only : ∀ name, s.Knows base name → name = old) (lower : rank old < rank new) :
    Ready base player members names new ((replaceReferences s old new none).1.forget old) := by
  have none_known (name : String) :
      ¬((replaceReferences s old new none).1.forget old).Knows base name := by
    rintro ⟨own, skill⟩
    rw [kindOf?_forget, kindOf?_replaceReferences] at skill
    split_ifs at skill with gone
    exact gone (only name ⟨own, skill⟩)
  exact {
    toSchool := h.toSchool.supersede known.2 (h.lessons old (h.taught old known)).outside
      (fun name own skill => only name ⟨own, skill⟩) new
    lessons := h.lessons
    learned := fun name known => absurd known (none_known name)
    taught := fun name known => absurd known (none_known name)
    level := fun name known => absurd known (none_known name)
    spelled := fun a _ known => absurd known (none_known a)
    single := fun name known => absurd known (none_known name)
    top := fun other member => (h.best old known other member).trans lower.le }

/-- A name that does not outrank what is known makes no difference. -/
theorem outdone (h : Schooled base player members names s)
    (lesson : Teachable base player members new) (known : s.Knows base old)
    (le : rank new ≤ rank old) : Schooled base player members (names ++ [new]) s where
  toSchool := h.toSchool
  lessons := List.forall_mem_append.mpr ⟨h.lessons, List.forall_mem_singleton.mpr lesson⟩
  learned := h.learned
  taught name known := List.mem_append_left _ (h.taught name known)
  best name other := List.forall_mem_append.mpr
    ⟨h.best name other, List.forall_mem_singleton.mpr (le.trans (h.level known other).le)⟩
  spelled := h.spelled
  present _ := ⟨old, known⟩

/-- A name that was taught before may be left out. -/
theorem again (h : Schooled base player members (names ++ [new]) s) (member : new ∈ names) :
    Schooled base player members names s where
  toSchool := h.toSchool
  lessons name listed := h.lessons name (List.mem_append_left _ listed)
  learned := h.learned
  taught name known := (List.mem_append.mp (h.taught name known)).elim id
    fun last => List.mem_singleton.mp last ▸ member
  best name known other listed := h.best name known other (List.mem_append_left _ listed)
  spelled := h.spelled
  present _ := h.present (by simp)

/-- A known skill is taught once more, maybe in another spelling. -/
theorem refresh (h : Schooled base player members names s) (known : s.Knows base e.name)
    (skill : e.kind = .skill) (lesson : Teachable base player members new)
    (same : sameName e.name new = true) :
    Schooled base player members (names ++ [new]) (addToHolder (s.put e) player e.name).1 := by
  have taught := h.taught e.name known
  have before := h.lessons e.name taught
  have entered := (h.ready (fun _ other => h.level other known)
    fun name other => h.spelled name e.name other known).enter before skill
  refine (entered.again taught).outdone lesson ?_
    (rank_of_sameName same).ge
  exact (knows_addToHolder_put skill before.own).mpr (.inr rfl)

end Schooled

end GameState

end Gamebook
