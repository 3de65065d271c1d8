import Gamebook.Proofs.Cast.Standing
import Gamebook.Proofs.Tag.Retelling
import Gamebook.Tag.Definition
import Gamebook.Tag.Kind

/-!
What a tag touches of a state, and what it reports. Most tags move the cast only; time, chronicle,
statuses, quests and discoveries each have tags of their own. A tag that reports no change has left
the state as it was, unless experience slipped by: a skill was stored in another form without
gaining any.
-/

namespace Gamebook

open Attribute
open Play (Yields)

/-! ### Experience that slips by -/

/-- Whether experience that is granted to a skill changes the state though none is gained. -/
def Skill.Slips (amount : Int) (s : GameState) (e : Entity) : Prop :=
  ∃ gain, addExp e (.int amount) = .ok gain ∧ (Number.int 0).lt gain.expGained = false ∧
    s.put gain.skill ≠ s

namespace TagKind

/-- The names of the skills that a tag grants experience to. -/
def trains (kind : TagKind) (attrs : Fields) (s : GameState) : List String :=
  match kind with
  | .skillExpGain => (text? attrs "skillName").toList
  | .skillExpReward => (s.pc?.map (·.learnedSkills)).getD []
  | _ => []

/-- Whether a tag grants experience to a skill that it slips by. -/
def Slips (kind : TagKind) (attrs : Fields) (s : GameState) : Prop :=
  ∃ amount name e, asInt 0 (Value.field attrs "amount") = .ok amount ∧ 0 < amount ∧
    name ∈ kind.trains attrs s ∧ Scene.skill? { state := s } (some name) = some e ∧
    Skill.Slips amount s e

/-! ### Touching -/

/-- The tags that tell of statuses. -/
def ofStatuses : List TagKind :=
  [.statusAppliedSelf, .statusAppliedNpc, .statusCuredSelf, .statusCuredNpc]

/-- The tags of the quest journal. -/
def ofQuests : List TagKind := [.questAssigned, .questUpdated, .questObjectiveCompleted]

end TagKind

/-- Whether the logs of a chronicle go on in those of another. -/
structure Chronicle.Grows (earlier later : Chronicle) : Prop where
  turn : earlier.turn <+: later.turn
  chapter : earlier.chapter <+: later.chapter
  memoir : earlier.memoir <+: later.memoir

theorem Chronicle.Grows.refl (log : Chronicle) : log.Grows log :=
  ⟨List.prefix_rfl, List.prefix_rfl, List.prefix_rfl⟩

theorem Chronicle.Grows.trans {first second third : Chronicle} (h : first.Grows second)
    (next : second.Grows third) : first.Grows third :=
  ⟨h.turn.trans next.turn, h.chapter.trans next.chapter, h.memoir.trans next.memoir⟩

/-- A change that a tag of a kind can make on its way. Only a general update that tells a kind may
change the cast beyond a move. -/
inductive Touches (kind : TagKind) (attrs : Fields) : GameState → GameState → Prop
  | cast {s t : GameState} (move : Moves s t) : Touches kind attrs s t
  | retype {s t : GameState} (tag : kind = .entityUpdate) (typed : (attrs.get? "type").isSome = true)
    (only : CastOnly s t) : Touches kind attrs s t
  | time (tag : kind = .timeElapsed) (s : GameState) (gameTime : GameTime) :
    Touches kind attrs s { s with gameTime }
  | log {s : GameState} {chronicle : Chronicle} (grown : s.chronicle.Grows chronicle) :
    Touches kind attrs s { s with chronicle }
  | remember (s : GameState) (memory : Memory) :
    Touches kind attrs s { s with memories := s.memories ++ [memory] }
  | statuses (tag : kind ∈ TagKind.ofStatuses) (s : GameState) (statuses : List Status) :
    Touches kind attrs s { s with statuses }
  | quests (tag : kind ∈ TagKind.ofQuests) (s : GameState) (quests : List Quest) :
    Touches kind attrs s { s with quests }
  | discover (s : GameState) (name : String) : Touches kind attrs s (Scene.discover s name)

/-- Any number of such changes, one after another. -/
abbrev Touched (kind : TagKind) (attrs : Fields) : GameState → GameState → Prop :=
  Relation.ReflTransGen (Touches kind attrs)

/-- What a tag leaves behind: what it has touched, and where the player's experience may have changed,
the player's realm brought up to date in the end. -/
inductive Leaves (kind : TagKind) (attrs : Fields) (s : GameState) : GameState → Prop
  | plain {t : GameState} (run : Touched kind attrs s t) : Leaves kind attrs s t
  | advanced {t r : GameState} (run : Touched kind attrs s t) (only : CastOnly t r)
    (keyed : s.WellKeyed → r.WellKeyed) : Leaves kind attrs s r.progressRealm

variable {kind : TagKind} {attrs : Fields} {s t u : GameState} {c next : Scene} {p : Played}

theorem Touched.move (move : Moves s t) : Touched kind attrs s t := .single (.cast move)

theorem Leaves.head (left : Leaves kind attrs t u) (first : Touches kind attrs s t)
    (keyed : s.WellKeyed → t.WellKeyed) : Leaves kind attrs s u := by
  cases left with
  | plain run => exact .plain (run.head first)
  | advanced run only after => exact .advanced (run.head first) only (after ∘ keyed)

/-- What a tag does to a scene and what it reports of it. -/
structure Acts (kind : TagKind) (attrs : Fields) (c : Scene) (p : Played) : Prop where
  left : Leaves kind attrs c.state p.scene.state
  silent : p.changed = false → ¬kind.Slips attrs c.state → p.scene.state = c.state

theorem Acts.kept : Acts kind attrs c c.kept := ⟨.plain .refl, fun _ _ => rfl⟩

theorem Acts.leaving (left : Leaves kind attrs c.state next.state) :
    Acts kind attrs c next.changed :=
  ⟨left, nofun⟩

theorem Acts.changed (run : Touched kind attrs c.state next.state) :
    Acts kind attrs c next.changed :=
  .leaving (.plain run)

/-- A tag that reports a change of the cast has made one move. -/
theorem Acts.moved (move : Moves c.state next.state) : Acts kind attrs c next.changed :=
  .changed (.move move)

end Gamebook
