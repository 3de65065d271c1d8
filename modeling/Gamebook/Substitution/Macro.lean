import Gamebook.State.Basic
import Gamebook.Text.Fold
import Gamebook.Text.Scan

/-!
Macros: references such as the one to the player's name, which stand for a fact of the game. A
reference is the macro's name in double braces, in any case. The macros are expanded one after the
other, each in the text that the one before has left.
-/

namespace Gamebook

open Text

/-- The facts that macros stand for. -/
structure MacroContext where
  playerName : Option String := none
  currentLocation : Option String := none
  currentTime : Option GameTime := none
  lastAction : Option String := none
  currentHp : Option Int := none
  currentMana : Option Int := none
  level : Option String := none
  experience : Option Double := none
  deriving DecidableEq, Inhabited

def reference (name : String) : List Char :=
  '\x7b' :: '\x7b' :: (name.toList ++ ['\x7d', '\x7d'])

/-- The length of a reference at the front of a text. -/
def referenceAt? (name : String) (cs : List Char) : Option Nat :=
  (afterOpeningFold? (reference name) cs).map fun _ => (reference name).length

/-- A text with every reference to one macro replaced. -/
def expandMacro (name : String) (value cs : List Char) : List Char :=
  replaceAll (referenceAt? name) value cs

/-- Whether a character means something else than itself in a pattern. -/
def isPatternSign (c : Char) : Bool :=
  "()[]\x7b\x7d?*+-|^$\\.&~# \t\n\r\x0b\x0c".toList.contains c

/-- A text as a pattern that matches just this text. -/
def escapePattern (cs : List Char) : List Char :=
  cs.flatMap fun c => if isPatternSign c then ['\\', c] else [c]

namespace MacroContext

/-- The time of day as macros tell it. -/
def timeText : Option GameTime → String
  | none => "Unknown Time"
  | some t =>
    toString t.day ++ "/" ++ toString t.month ++ "/" ++ toString t.year ++ ":" ++ toString t.hour

/-- An experience total as macros tell it. -/
def experienceText : Option Double → String
  | none => "0"
  | some x => if x.isZero then "0" else x.text

/-- The macros and what they stand for, in the order in which they are expanded. -/
def values (m : MacroContext) : List (String × String) :=
  let player := textOr "Player" m.playerName
  [("player", player),
    ("character", player),
    ("location", textOr "Unknown Location" m.currentLocation),
    ("time", timeText m.currentTime),
    ("hp", toString (m.currentHp.getD 0)),
    ("mana", toString (m.currentMana.getD 0)),
    ("level", textOr "1" m.level),
    ("exp", experienceText m.experience),
    ("action", textOr "" m.lastAction)]

/-- A text with all macros expanded, their values written by `write`. -/
def expandWith (m : MacroContext) (write : List Char → List Char) (cs : List Char) : List Char :=
  m.values.foldl (fun cs nv => expandMacro nv.1 (write nv.2.toList) cs) cs

/-- A text with all macros expanded. -/
def expand (m : MacroContext) (cs : List Char) : List Char := m.expandWith id cs

/-- A pattern with all macros expanded into patterns for their values. -/
def expandEscaped (m : MacroContext) (cs : List Char) : List Char :=
  m.expandWith escapePattern cs

/-- The facts of a state, with the player's last action. The experience total has to lie in the
range of doubles. -/
def ofState (s : GameState) (lastAction : Option String) : Checked MacroContext :=
  let build (experience : Option Double) : MacroContext :=
    { playerName := s.pc?.map (·.name)
      currentLocation := s.locationDiscoveryOrder.getLast?
      currentTime := some s.gameTime
      lastAction
      level := s.pc?.bind (·.realm)
      experience }
  match s.pc?.bind (·.currentExp) with
  | none => .ok (build none)
  | some exp => ((Checked.ofOption exp.toDouble?).map fun x => build (some x)).within "experience"

/-- Reads the facts from their fields. -/
def ofFields (f : Fields) : Checked MacroContext :=
  mk <$> f.get "player_name" (Read.optional Read.text) none
    <*> f.get "current_location" (Read.optional Read.text) none
    <*> f.get "current_time" (Read.optional GameTime.read) none
    <*> f.get "last_action" (Read.optional Read.text) none
    <*> f.get "current_hp" (Read.optional Read.int) none
    <*> f.get "current_mana" (Read.optional Read.int) none
    <*> f.get "level" (Read.optional Read.text) none
    <*> f.get "experience" (Read.optional Read.double) none

def read (v : Value) : Checked MacroContext := (Read.object v).andThen ofFields

def toValue (m : MacroContext) : Value :=
  .object (Slot.full
    [.optText "player_name" m.playerName,
      .optText "current_location" m.currentLocation,
      ⟨"current_time", .opt GameTime.toValue m.currentTime, m.currentTime.isNone⟩,
      .optText "last_action" m.lastAction,
      .optInt "current_hp" m.currentHp,
      .optInt "current_mana" m.currentMana,
      .optText "level" m.level,
      .optDouble "experience" m.experience])

end MacroContext

end Gamebook
