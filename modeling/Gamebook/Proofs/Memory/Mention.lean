import Gamebook.Memory.Enhancement
import Gamebook.Proofs.Keyed
import Gamebook.Proofs.Text.Scan

/-!
Whom a text mentions. The names that are found are keys of the map, in its order and without
repetitions: those whose own text, or a part of it, or one of whose skills occurs, whatever the case.
The skills are those of the list that all characters but the player keep, so whatever skill of theirs
occurs relates them; the player's own list is not looked at.
-/

namespace Gamebook

open Text

variable {text key part : String} {known : Keyed Entity} {e : Entity}

/-- Whether a phrase occurs in a text, both in small letters. -/
def Text.Says (text phrase : String) : Prop := (lower phrase).toList <:+: (lower text).toList

theorem occurs_iff_says : occurs (lower part) (lower text) = true ↔ Says text part := occursIn_iff

/-- The ways in which a text mentions an entity. -/
inductive Mentioned (text key : String) (e : Entity) : Prop
  | name : Says text key → Mentioned text key e
  | part {part : String} : part ∈ nameVariations key → Says text part → Mentioned text key e
  | skill {skill : String} : skill ∈ e.skills → Says text skill → Mentioned text key e

theorem mentions_iff : mentions (lower text) key e = true ↔ Mentioned text key e := by
  simp only [mentions, Bool.or_eq_true, List.any_eq_true, occurs_iff_says]
  constructor
  · rintro ((named | ⟨part, listed, said⟩) | ⟨skill, held, said⟩)
    · exact .name named
    · exact .part listed said
    · exact .skill held said
  · rintro (named | ⟨listed, said⟩ | ⟨held, said⟩)
    · exact .inl (.inl named)
    · exact .inl (.inr ⟨_, listed, said⟩)
    · exact .inr ⟨_, held, said⟩

theorem relatedEntities_sublist (text : String) (known : Keyed Entity) :
    (relatedEntities text known).Sublist known.keys :=
  List.filter_sublist.map Prod.fst

theorem mem_relatedEntities_iff :
    key ∈ relatedEntities text known ↔ ∃ e, (key, e) ∈ known ∧ Mentioned text key e := by
  simp only [relatedEntities, List.mem_map, List.mem_filter, mentions_iff]
  constructor
  · rintro ⟨⟨_, e⟩, ⟨member, mentioned⟩, rfl⟩
    exact ⟨e, member, mentioned⟩
  · rintro ⟨e, member, mentioned⟩
    exact ⟨(key, e), ⟨member, mentioned⟩, rfl⟩

/-- In a map an entity is found exactly if it is mentioned. -/
theorem mem_relatedEntities_of_get? (distinct : known.keys.Nodup) (held : known.get? key = some e) :
    key ∈ relatedEntities text known ↔ Mentioned text key e := by
  rw [mem_relatedEntities_iff]
  constructor
  · rintro ⟨other, member, mentioned⟩
    obtain rfl := Option.some.inj (held.symm.trans (Keyed.get?_of_mem distinct member))
    exact mentioned
  · exact fun mentioned => ⟨e, Keyed.mem_of_get? held, mentioned⟩

/-- Whether a text tells a skill that a character holds. -/
def Entity.Shows (text : String) (e : Entity) : Prop :=
  e.isCharacter = true ∧ ∃ skill ∈ e.skillNames, Says text skill

/-- A character other than the player is mentioned with each of its skills. -/
theorem Entity.Shows.mentioned (shown : e.Shows text) (other : e.kind ≠ .pc) :
    Mentioned text key e := by
  obtain ⟨-, skill, held, said⟩ := shown
  rw [skillNames, if_neg other] at held
  exact .skill held said

/-- What is said of the names that a text is related to: they are keys in their order, without
repetitions; a character that shows a skill is among them unless it is the player; and all that show a
skill are among them exactly if the player, where it shows one, is mentioned in another way. -/
structure Relates (text : String) (known : Keyed Entity) (names : List String) : Prop where
  inOrder : names.Sublist known.keys
  distinct : names.Nodup
  others : ∀ key e, known.get? key = some e → e.Shows text → e.kind ≠ .pc → key ∈ names
  everyone : (∀ key e, known.get? key = some e → e.Shows text → key ∈ names) ↔
    ∀ key pc, known.get? key = some pc → pc.kind = .pc → pc.Shows text → Mentioned text key pc

theorem relatedEntities_relates (text : String) (known : Keyed Entity) (distinct : known.keys.Nodup) :
    Relates text known (relatedEntities text known) := by
  have others : ∀ key e, known.get? key = some e → e.Shows text → e.kind ≠ .pc →
      key ∈ relatedEntities text known :=
    fun key e held shown other => (mem_relatedEntities_of_get? distinct held).mpr (shown.mentioned other)
  refine ⟨relatedEntities_sublist text known, (relatedEntities_sublist text known).nodup distinct,
    others, fun all key pc held _ shown => ?_, fun players key e held shown => ?_⟩
  · exact (mem_relatedEntities_of_get? distinct held).mp (all key pc held shown)
  · by_cases player : e.kind = .pc
    · exact (mem_relatedEntities_of_get? distinct held).mpr (players key e held player shown)
    · exact others key e held shown player

/-- The party, in which a companion heals. -/
def infirmary : Keyed Entity :=
  [("Minh", { name := "Minh", kind := .npc }),
    ("Tiểu Vân", { name := "Tiểu Vân", kind := .companion, skills := ["Y thuật"] })]

/-- The healer is related to the healing. -/
theorem infirmary_relates : infirmary.keys.Nodup ∧
    "Tiểu Vân" ∈ relatedEntities "Vết thương được chữa bằng y thuật" infirmary := by
  have distinct : infirmary.keys.Nodup := by decide
  have relates := relatedEntities_relates "Vết thương được chữa bằng y thuật" infirmary distinct
  have said : Says "Vết thương được chữa bằng y thuật" "Y thuật" :=
    occurs_iff_says.mp (by decide +kernel)
  exact ⟨distinct, relates.others "Tiểu Vân" _ rfl ⟨rfl, "Y thuật", List.mem_cons_self, said⟩ nofun⟩

/-- The player, who knows how to fence. -/
def fencer : Entity where
  name := "Lan"
  kind := .pc
  learnedSkills := ["Kiếm"]

/-- The player is not related to a text on fencing. -/
theorem fencer_unrelated : fencer.Shows "Rút kiếm ra" ∧
    "Lan" ∉ relatedEntities "Rút kiếm ra" [("Lan", fencer)] := by
  have said : Says "Rút kiếm ra" "Kiếm" := occurs_iff_says.mp (by decide +kernel)
  exact ⟨⟨rfl, "Kiếm", List.mem_cons_self, said⟩, by decide +kernel⟩

end Gamebook
