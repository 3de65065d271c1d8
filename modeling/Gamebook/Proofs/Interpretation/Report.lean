import Gamebook.Proofs.Acting.Run
import Gamebook.Proofs.Acting.Speech
import Gamebook.Proofs.Tag.Residue

/-!
What a narrative reports and shows. A narrative of which no tag was applied has left the state as it
was, unless experience slipped by a skill: at its cap a skill gains nothing and no change is reported,
but its record is written anew. The player sees the text without tags: stripping and cutting out
reasoning leave none, unless they put one together, and then the player reads a tag that was never
played.
-/

namespace Gamebook

open Play (Yields)

/-! ### Tags that were applied -/

/-- Whether a tag grants experience that slips by a skill. -/
def Tag.Slips (t : Tag) (s : GameState) : Prop :=
  ∃ kind, t.kind? = some kind ∧ kind.Slips (Attribute.parse t.body) s

/-- If no tag of a narrative was applied, nothing has changed, as long as no tag grants experience
that slips by on the state that the tag is played on. -/
theorem interpret_unapplied {s : GameState} {rules : List Rule} {text : String} {d d' : Draws}
    {i : Interpretation} (ok : interpret rules text s d = (.ok i, d')) (none : i.applied = [])
    (steady : ∀ stage ∈ stagesOf rules text s d, ¬stage.1.Slips stage.2) : i.state = s := by
  obtain ⟨p, ⟨d₁, played⟩, applied, kept, -⟩ := interpret_ok ok
  have reached : (Progress.playAll rules (Tag.find text) s d).1.applied = [] →
      (Progress.playAll rules (Tag.find text) s d).1.state = s := by
    refine Progress.foldl_playTag_keeps (P := fun t applied => applied = [] → t = s)
      (fun stage member kind q known y applied before empty => ?_) (fun _ => rfl)
    have unchanged : q.changed = false ∧ applied = [] := by
      cases changed : q.changed <;> simp_all
    rw [← before unchanged.2]
    exact (TagKind.play_acts (Keyed.nodup_ofPairs _) y).silent unchanged.1 fun slips =>
      steady stage member ⟨kind, known, slips⟩
  rw [played] at reached
  rw [kept (applied ▸ none)]
  exact reached (applied ▸ none)

/-- A skill at its cap, after a breakthrough that failed. -/
def wornSword : Entity :=
  { name := "Sword"
    kind := .skill
    mastery := some Skill.firstMastery
    skillExp := some (.int 100)
    maxSkillExp := some (.int 100)
    skillCapped := true }

def armory : GameState := { knownEntities := [("Sword", wornSword)] }

/-- A skill at its cap, ready for a breakthrough. -/
def readySword : Entity := { wornSword with breakthroughEligible := true }

def readyArmory : GameState := { knownEntities := [("Sword", readySword)] }

def drill : String := "[SKILL_EXP_GAIN: skillName=Sword amount=10]"

/-- What a skill that is ready gets stored as under more experience is the same skill. -/
theorem readySword_steady : ¬Skill.Slips 10 readyArmory readySword := by
  rintro ⟨gain, grown, -, changed⟩
  obtain rfl := Except.ok.inj (show Except.ok { skill := readySword } = Except.ok gain from grown)
  exact changed rfl

theorem drill_unapplied : ∃ i d', interpret [] drill readyArmory {} = (.ok i, d') ∧
    i.applied = [] ∧ (∀ stage ∈ stagesOf [] drill readyArmory {}, ¬stage.1.Slips stage.2) ∧
    i.state = readyArmory := by
  have idle : Play.passes (interpret [] drill readyArmory) {} (fun i _ => i.applied = []) = true := by
    decide +kernel
  obtain ⟨i, d', ok, passed⟩ := Play.exists_of_passes idle
  have none := of_decide_eq_true passed
  have told : Tag.find drill = [⟨drill, "SKILL_EXP_GAIN", "skillName=Sword amount=10"⟩] := by
    decide +kernel
  have steady : ∀ stage ∈ stagesOf [] drill readyArmory {}, ¬stage.1.Slips stage.2 := by
    rw [stagesOf, told]
    rintro stage member ⟨kind, known, amount, name, e, read, -, trained, found, slips⟩
    obtain rfl := List.mem_singleton.mp member
    obtain rfl : TagKind.skillExpGain = kind := Option.some.inj known
    have asked : (Attribute.asInt 0 (Value.field (Attribute.parse "skillName=Sword amount=10")
        "amount")).toOption = some 10 := by
      decide +kernel
    have trains : TagKind.trains .skillExpGain (Attribute.parse "skillName=Sword amount=10")
        readyArmory = ["Sword"] := by
      decide +kernel
    rw [read] at asked
    rw [trains] at trained
    obtain rfl := Option.some.inj asked
    obtain rfl := List.mem_singleton.mp trained
    obtain rfl : readySword = e := Option.some.inj found
    exact readySword_steady slips
  exact ⟨i, d', ok, none, steady, interpret_unapplied ok none steady⟩

/-- More experience makes a skill ready whose breakthrough failed, and no change is reported. -/
theorem drill_slips : ∃ i d', interpret [] drill armory {} = (.ok i, d') ∧
    i.applied = [] ∧ i.state ≠ armory := by
  have slipped : Play.passes (interpret [] drill armory) {} (fun i _ => i.applied = [] ∧
      i.state.knownEntities.any fun pair => pair.2.breakthroughEligible) = true := by
    decide +kernel
  obtain ⟨i, d', ok, passed⟩ := Play.exists_of_passes slipped
  obtain ⟨none, ready⟩ := of_decide_eq_true passed
  refine ⟨i, d', ok, none, fun same => ?_⟩
  rw [same] at ready
  exact nomatch ready

/-! ### The text that is shown -/

section Display

variable {text : String} {s : GameState}

theorem preview_displayText (text : String) (s : GameState) : (preview text s).displayText =
    Text.trim (Reasoning.split (Text.trim (Tag.strip text))).1 := by
  rw [preview, shownText]
  rfl

/-- The text that is shown for a narrative has no tags, with effect or without, if it asks for no special
items and no name in it is interrupted; on well-keyed states there is such a text. -/
theorem interpret_untagged {rules : List Rule} (whole : Tag.isInterrupted text.toList = false)
    (plain : ∀ t ∈ Tag.find text, t.kind? ≠ some .specialItemGenerate) :
    (∀ d i d', interpret rules text s d = (.ok i, d') → Tag.Untagged i.displayText) ∧
      (s.WellKeyed → ∀ d, ∃ i d', interpret rules text s d = (.ok i, d')) ∧
      Tag.Untagged (preview text s).displayText := by
  have previewed : Tag.Untagged (preview text s).displayText := by
    rw [preview_displayText]
    exact Tag.untagged_trim_split whole
  refine ⟨fun d i d' ok => ?_, fun keyed => interpret_gives keyed rules text, previewed⟩
  rw [interpret_displayText plain ok]
  exact previewed

/-- A night with a thought in front, a tag between two words and a lone bracket. -/
def nightfall : String :=
  "[COT_REASONING]She hides.[/COT_REASONING]Night falls [TIME_ELAPSED: hours=1]over [THE CITY]."

theorem nightfall_untagged : ∃ i d', interpret [] nightfall {} {} = (.ok i, d') ∧
    i.displayText = "Night falls over [THE CITY]." ∧ Tag.Untagged i.displayText := by
  have shown : Play.passes (interpret [] nightfall {}) {}
      (fun i _ => i.displayText = "Night falls over [THE CITY].") = true := by
    decide +kernel
  obtain ⟨i, d', ok, same⟩ := Play.exists_of_passes shown
  have whole : Tag.isInterrupted nightfall.toList = false := by decide +kernel
  have plain : ∀ t ∈ Tag.find nightfall, t.kind? ≠ some .specialItemGenerate := by decide +kernel
  exact ⟨i, d', ok, of_decide_eq_true same, (interpret_untagged whole plain).1 _ i d' ok⟩

/-- A tag within the name of a tag: without it, the name is whole again, and the tag is shown. -/
theorem gluing_shows_tag :
    (∀ t ∈ Tag.find "[CHRONICLE_[A: x]TURN: text=Dawn]", t.kind? ≠ some .specialItemGenerate) ∧
      ∃ i d', interpret [] "[CHRONICLE_[A: x]TURN: text=Dawn]" {} {} = (.ok i, d') ∧
        (Tag.find i.displayText).map (·.kind?) = [some .chronicleTurn] := by
  have shown : Play.passes (interpret [] "[CHRONICLE_[A: x]TURN: text=Dawn]" {}) {}
      (fun i _ => (Tag.find i.displayText).map (·.kind?) = [some .chronicleTurn]) = true := by
    decide +kernel
  obtain ⟨i, d', ok, same⟩ := Play.exists_of_passes shown
  exact ⟨by decide +kernel, i, d', ok, of_decide_eq_true same⟩

end Display

end Gamebook
