import Gamebook.Failure
import Gamebook.Keyed
import Gamebook.Text.Basic

/-!
The remote narrator. It is available only with a key. A request that fails or brings a blank reply
is made again, three times in all; the last answer decides whether the call fails or gives a blank.
-/

namespace Gamebook.Narrator

/-- How the remote narrator is reached. -/
structure Settings where
  apiKey : Option String := none
  model : String := "google/gemini-2.0-flash-001"
  baseUrl : String := "https://openrouter.ai/api/v1"
  siteUrl : Option String := none
  siteName : String := "Saga"
  deriving DecidableEq, Inhabited

namespace Settings

/-- The value of an environment variable, if it is not empty. -/
def nonemptyOf? (env : Keyed String) (name : String) : Option String :=
  (env.get? name).filter (!·.isEmpty)

/-- The settings in an environment: a key is taken from it when none is given, everything else
whenever the environment has it. -/
def within (env : Keyed String) (s : Settings) : Settings :=
  { apiKey := if (s.apiKey.getD "").isEmpty then env.get? "OPENROUTER_API_KEY" else s.apiKey
    model := (nonemptyOf? env "OPENROUTER_MODEL").getD s.model
    baseUrl := (nonemptyOf? env "LLM_BASE_URL").getD s.baseUrl
    siteUrl := (nonemptyOf? env "OPENROUTER_SITE_URL").orElse fun _ => s.siteUrl
    siteName := (nonemptyOf? env "OPENROUTER_SITE_NAME").getD s.siteName }

/-- The key, if there is one. -/
def key? (s : Settings) : Option String := s.apiKey.filter (!·.isEmpty)

def isAvailable (s : Settings) : Bool := s.key?.isSome

/-- The headers by which requests are attributed. -/
def headers (s : Settings) : List (String × String) :=
  ("X-Title", s.siteName) :: ((s.siteUrl.filter (!·.isEmpty)).map fun url =>
    ("HTTP-Referer", url)).toList

end Settings

/-- What one request brings. -/
inductive Answer where
  | content (text : Option String)
  | raised (reason : String)
  deriving DecidableEq, Inhabited

/-- How often a request is made at most. -/
def maxAttempts : Nat := 3

/-- The requests of one call: how many were made, and the last reply or the last failure. -/
structure Exchange where
  requests : Nat
  result : Except String String

namespace Exchange

/-- The seconds slept before each request but the first; every pause is twice as long as the one
before. -/
def pauses (e : Exchange) : List Nat := (List.range (e.requests - 1)).map (1 <<< ·)

end Exchange

/-- Makes up to `left` more requests after the first `made`, until a reply is not blank. -/
def converseFrom (client : Nat → Answer) :
    Nat → Nat → Except String String → Exchange
  | 0, made, last => ⟨made, last⟩
  | left + 1, made, _ =>
    match client made with
    | .raised reason => converseFrom client left (made + 1) (.error reason)
    | .content text =>
      let reply := text.getD ""
      if Text.isBlankText reply then converseFrom client left (made + 1) (.ok reply)
      else ⟨made + 1, .ok reply⟩

/-- A call to the narrator: `client` says what each request brings. -/
def converse (client : Nat → Answer) : Exchange := converseFrom client maxAttempts 0 (.ok "")

/-- The reply of a call, or its failure. -/
def complete (s : Settings) (client : Nat → Answer) : Outcome String :=
  if s.isAvailable then
    match (converse client).result with
    | .ok reply => .ok reply
    | .error _ => .error (.narratorFailed maxAttempts)
  else .error .narratorMissing

end Gamebook.Narrator
