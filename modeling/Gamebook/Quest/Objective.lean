/-!
Objectives: the single things to be done in a quest. An objective is addressed by its description.
-/

namespace Gamebook

/-- One thing to be done, and whether it is done. -/
structure Objective where
  description : String
  completed : Bool := false
  deriving DecidableEq, Inhabited

end Gamebook
