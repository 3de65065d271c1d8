import Gamebook.Number.Numeral
import Gamebook.Record.Checked

/-!
What can go wrong. A failure names its cause; `message` puts it into words. A failed tag leaves the
state as it was, and a failed operation has no result.
-/

namespace Gamebook

/-- The cause of a failure. -/
inductive Failure where
  | invalid (places : List Place)
  | unknownKey (key : String)
  | noSnapshot (turn : Int)
  | numeralTooLong (digits : Nat)
  | beyondDouble
  | notFinite (isNan : Bool)
  | repetitionTooLarge
  | incompatibleFlags
  | unknownProvider (name : String)
  | narratorMissing
  | narratorFailed (attempts : Nat)
  | outage (text : String)
  deriving Inhabited

namespace Failure

def message : Failure → String
  | .invalid places => placesText places
  | .unknownKey key => key
  | .noSnapshot turn => "No snapshot for turn " ++ toString turn
  | .numeralTooLong digits =>
    "Exceeds the limit (4300 digits) for integer string conversion: value has " ++
      toString digits ++ " digits; use sys.set_int_max_str_digits() to increase the limit"
  | .beyondDouble => "int too large to convert to float"
  | .notFinite isNan =>
    if isNan then "cannot convert float NaN to integer"
    else "cannot convert float infinity to integer"
  | .repetitionTooLarge => "the repetition number is too large"
  | .incompatibleFlags => "ASCII and UNICODE flags are incompatible"
  | .unknownProvider name => "Unknown provider type: " ++ name
  | .narratorMissing => "Narrator not configured: set OPENROUTER_API_KEY"
  | .narratorFailed attempts =>
    "Narrator request failed after " ++ toString attempts ++ " attempts"
  | .outage text => text

end Failure

/-- A result or a failure. -/
abbrev Outcome := Except Failure

namespace Outcome

/-- A checked record as an outcome. -/
def ofChecked {α : Type} : Checked α → Outcome α
  | .ok a => .ok a
  | .faults places => .error (.invalid places)

/-- The result of arithmetic that fails beyond the range of doubles. -/
def ofArithmetic {α : Type} : Option α → Outcome α
  | some a => .ok a
  | none => .error .beyondDouble

end Outcome

end Gamebook
