import Gamebook.Draws
import Gamebook.State.Basic
import Gamebook.Text.Case

/-!
Reference ids: stable names of entities such as `REF_IT_ITE_3FA2C01B`. An id has two letters for the
type, three for the category and eight hexadecimal digits. A new id is drawn until it is not yet
taken.
-/

namespace Gamebook.ReferenceId

def typeLetters : List (String × String) :=
  [("pc", "PC"), ("npc", "NP"), ("companion", "CO"), ("location", "LO"), ("item", "IT"),
    ("skill", "SK"), ("faction", "FA"), ("concept", "CN"), ("status_effect", "ST")]

def categoryLetters : List (String × String) :=
  [("characters", "CHA"), ("locations", "LOC"), ("items", "ITE"), ("factions", "FAC"),
    ("concepts", "CON"), ("skills", "SKI"), ("statusEffects", "STA")]

def typeCategories : List (String × String) :=
  [("pc", "characters"), ("npc", "characters"), ("companion", "characters"),
    ("location", "locations"), ("item", "items"), ("skill", "skills"), ("faction", "factions"),
    ("concept", "concepts"), ("status_effect", "statusEffects")]

/-- The first characters in capitals, filled up with `X`. -/
def initials (n : Nat) (s : String) : String :=
  let cs := (Text.upper (Text.take n s)).toList
  String.ofList (cs ++ List.replicate (n - cs.length) 'X')

/-- The letters for a type, known or not. -/
def typePrefix (type : String) : String :=
  (Keyed.get? typeLetters type).getD (initials 2 type)

/-- The letters for a category, known or not. -/
def categoryPrefix (category : String) : String :=
  (Keyed.get? categoryLetters category).getD (initials 3 category)

/-- The category that counts: the one given, or else that of the type. -/
def categoryOf (type : String) (category : Option String) : String :=
  match category with
  | some c => if c.isEmpty then (Keyed.get? typeCategories type).getD "concepts" else c
  | none => (Keyed.get? typeCategories type).getD "concepts"

def compose (type category token : String) : String :=
  "REF_" ++ typePrefix type ++ "_" ++ categoryPrefix category ++ "_" ++ Text.upper token

/-- Draws ids until one is not taken, at most `tries + 1` times. -/
def drawFresh (type category : String) (taken : List String) : Nat → Draws → String × Draws
  | 0, d =>
    let (token, d) := d.token
    (compose type category token, d)
  | tries + 1, d =>
    let (token, d) := d.token
    let id := compose type category token
    if id ∈ taken then drawFresh type category taken tries d else (id, d)

/-- Draws an id that is not taken. The prepared tokens may all be taken; of those in the supply, one
more than there are taken ids is always enough. -/
def generate (type : String) (category : Option String) (taken : List String) (d : Draws) :
    String × Draws :=
  drawFresh type (categoryOf type category) taken (d.tokens.length + taken.length) d

/-- The ids of the known entities. -/
def idsOf (s : GameState) : List String :=
  s.knownEntities.values.filterMap fun e => e.referenceId.filter (!·.isEmpty)

/-- Draws an id for an entity of a kind that no known entity has. -/
def forState (s : GameState) (kind : EntityKind) : Play String :=
  Play.draw (generate kind.name none (idsOf s))

def isCapital (c : Char) : Bool := 'A' ≤ c && c ≤ 'Z'

/-- A hexadecimal digit with capital letters. -/
def isHexDigit (c : Char) : Bool := ('0' ≤ c && c ≤ '9') || ('A' ≤ c && c ≤ 'F')

/-- The parts of an id. -/
structure Parts where
  type : String
  category : String
  hash : String
  deriving DecidableEq

/-- Takes exactly `n` characters of a class from the front. -/
def takeExactly (inClass : Char → Bool) : Nat → List Char → Option (List Char × List Char)
  | 0, cs => some ([], cs)
  | _ + 1, [] => none
  | n + 1, c :: rest =>
    if inClass c then (takeExactly inClass n rest).map fun (t, after) => (c :: t, after) else none

/-- The parts of a well-formed id, which may end in a line end. -/
def parse? (id : String) : Option Parts := do
  let cs ← Text.afterOpening? "REF_".toList id.toList
  let (type, cs) ← takeExactly isCapital 2 cs
  let cs ← Text.afterOpening? ['_'] cs
  let (category, cs) ← takeExactly isCapital 3 cs
  let cs ← Text.afterOpening? ['_'] cs
  let (hash, cs) ← takeExactly isHexDigit 8 cs
  if cs = [] ∨ cs = ['\n'] then
    some ⟨String.ofList type, String.ofList category, String.ofList hash⟩
  else none

/-- Whether a text is a well-formed id. -/
def isValid (id : String) : Bool := (parse? id).isSome

end Gamebook.ReferenceId
