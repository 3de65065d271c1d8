import Gamebook.Substitution.Find
import Gamebook.Substitution.Macro
import Gamebook.Substitution.Rule
import Gamebook.Text.Class

/-!
Running rules. A rule that does not apply or whose pattern is not well written leaves the text
alone. What replaces a match is made from the rule's template in three steps: the matched text is
put in, then what the numbered groups have matched, and last the macros are expanded.
-/

namespace Gamebook

open Text

/-- Where in the pipeline a text is being processed. -/
structure Occasion where
  isMarkdown : Bool := false
  isPrompt : Bool := false
  isEdit : Bool := false
  depth : Option Int := none
  deriving DecidableEq, Inhabited

namespace Occasion

/-- Reads an occasion from its fields. -/
def ofFields (f : Fields) : Checked Occasion :=
  mk <$> f.get "is_markdown" Read.bool false
    <*> f.get "is_prompt" Read.bool false
    <*> f.get "is_edit" Read.bool false
    <*> f.get "depth" (Read.optional Read.int) none

def read (v : Value) : Checked Occasion := (Read.object v).andThen ofFields

def toValue (o : Occasion) : Value :=
  .object (Slot.full
    [.bool "is_markdown" false o.isMarkdown,
      .bool "is_prompt" false o.isPrompt,
      .bool "is_edit" false o.isEdit,
      .optInt "depth" o.depth])

end Occasion

/-- The digits of a numbered reference at the front of a text. -/
def groupReference? : List Char → Option (List Nat)
  | '$' :: rest =>
    match (rest.takeWhile isDigit).filterMap digitValue? with
    | [] => none
    | ds => some ds
  | _ => none

/-- The number that the digits of a reference spell. -/
def groupNumber (ds : List Nat) : Outcome Nat :=
  if Numeral.maxDigits < ds.length then .error (.numeralTooLong ds.length)
  else .ok (Numeral.valueOf ds)

/-- A template with its numbered references replaced, after the next `skip` characters. -/
def expandReferences (valueOf : Nat → Outcome (List Char)) :
    Nat → List Char → Outcome (List Char)
  | _, [] => .ok []
  | skip + 1, _ :: rest => expandReferences valueOf skip rest
  | 0, c :: rest => do
    match groupReference? (c :: rest) with
    | some ds => do
      let value ← valueOf (← groupNumber ds)
      let others ← expandReferences valueOf ds.length rest
      return value ++ others
    | none => do
      let others ← expandReferences valueOf 0 rest
      return c :: others

/-- The name of the macro for the matched text. -/
def matchMacro : String := "match"

namespace Rule

/-- Whether a rule applies to texts of an occasion. -/
def applies (r : Rule) (o : Occasion) : Bool :=
  let deepEnough := o.depth.all fun d => r.minDepth.all (· ≤ d) && r.maxDepth.all (d ≤ ·)
  !r.disabled && !r.findRegex.isEmpty && deepEnough && (!o.isEdit || r.runOnEdit) &&
    ((r.markdownOnly && o.isMarkdown) || (r.promptOnly && o.isPrompt) ||
      (!r.markdownOnly && !r.promptOnly && !o.isMarkdown && !o.isPrompt))

/-- The rule's pattern with its macros expanded as the rule asks for. -/
def findPattern (r : Rule) (macros : MacroContext) : FindPattern :=
  let written := r.findRegex.toList
  .ofText (String.ofList (match r.macroMode with
    | .keep => written
    | .raw => macros.expand written
    | .escaped => macros.expandEscaped written))

/-- A text without everything that a trim pattern matches. -/
def trimOne (macros : MacroContext) (cs : List Char) (trim : String) : Outcome (List Char) := do
  if trim.isEmpty then return cs
  else
    let source := String.ofList (macros.expand trim.toList)
    match ← compilePattern [] source with
    | .error _ => return cs
    | .ok c => c.node.replace none (fun _ _ => .ok []) cs

/-- A text without everything that the rule's trim patterns match, one after the other. -/
def trimmed (r : Rule) (macros : MacroContext) (cs : List Char) : Outcome (List Char) :=
  r.trimStrings.foldlM (trimOne macros) cs

/-- What a numbered reference stands for: the whole match, the trimmed text of a group, or nothing
for a group that does not exist or has matched nothing. -/
def groupText (r : Rule) (macros : MacroContext) (text whole : List Char)
    (captures : Pattern.Captures) (index : Nat) : Outcome (List Char) :=
  if index = 0 then .ok whole
  else
    match captures.get? index with
    | some (start, stop) => r.trimmed macros ((text.drop start).take (stop - start))
    | none => .ok []

/-- What replaces a match of the rule. -/
def replacementFor (r : Rule) (macros : MacroContext) (text : List Char) :
    Pattern.Replacement Outcome := fun rest hit => do
  let whole := rest.take hit.length
  let template := expandMacro matchMacro whole r.replaceString.toList
  let filled ← expandReferences (r.groupText macros text whole hit.captures) 0 template
  return macros.expand filled

/-- Runs a rule over a text. -/
def run (r : Rule) (macros : MacroContext) (o : Occasion) (text : String) : Outcome String := do
  if text.isEmpty || !r.applies o then return text
  else
    let pattern := r.findPattern macros
    match ← pattern.compile? with
    | none => return text
    | some c =>
      let cs := text.toList
      return String.ofList (← c.node.replace pattern.limit (r.replacementFor macros cs) cs)

end Rule

/-- Runs the rules of a placement over a text, oldest first. -/
def processText (macros : MacroContext) (o : Occasion) (placement : Placement) (rules : List Rule)
    (text : String) : Outcome String :=
  let applicable := rules.filter fun r => !r.disabled && r.placement.contains placement
  let inOrder := applicable.mergeSort fun a b => a.createdAt ≤ b.createdAt
  inOrder.foldlM (fun text r => r.run macros o text) text

end Gamebook
