import Gamebook.Failure
import Gamebook.Pattern.Parser
import Gamebook.Pattern.Replace

/-!
Find patterns of rules. A pattern may be written bare, and then every match is replaced, or between
slashes with flags behind them, and then only the first match is replaced unless a flag asks for
all.
-/

namespace Gamebook

/-- A pattern as it is written: its source, the flags that matter, and the greatest number of
replacements if there is one. -/
structure FindPattern where
  source : String
  flags : Pattern.Flags := []
  limit : Option Nat := none
  deriving DecidableEq

namespace FindPattern

/-- A letter that may stand behind the second slash. -/
def isFlag (c : Char) : Bool := "gimsuy".toList.contains c

/-- The flags behind the second slash; one line end may follow them. -/
def flagsOf? (cs : List Char) : Option (List Char) :=
  match cs.span isFlag with
  | (flags, []) => some flags
  | (flags, ['\n']) => some flags
  | _ => none

/-- The source and the flags of a pattern between slashes: the last slash closes the source, which
is not empty. -/
def betweenSlashes? : List Char → Option (List Char × List Char)
  | '/' :: rest =>
    match rest.reverse.span (· != '/') with
    | (behind, '/' :: source) =>
      if source.isEmpty then none
      else (flagsOf? behind.reverse).map fun flags => (source.reverse, flags)
    | _ => none
  | _ => none

/-- Reads the pattern of a rule. -/
def ofText (s : String) : FindPattern :=
  match betweenSlashes? s.toList with
  | some (source, flags) =>
    { source := String.ofList source
      flags := flags.filter fun c => c == 'i' || c == 'm' || c == 's'
      limit := if flags.contains 'g' then none else some 1 }
  | none => { source := s }

end FindPattern

/-- Compiles a pattern. One that is not well written is none; a number in it that is too large is a
failure. -/
def compilePattern (flags : Pattern.Flags) (source : String) :
    Outcome (Except String Pattern.Compiled) :=
  match Pattern.compile flags source with
  | .ok c => .ok (.ok c)
  | .error (.malformed reason place) => .ok (.error (Pattern.describe source reason place))
  | .error (.numeralTooLong digits) => .error (.numeralTooLong digits)
  | .error .repetitionTooLarge => .error .repetitionTooLarge
  | .error .incompatibleFlags => .error .incompatibleFlags

/-- What is wrong with a pattern, if anything. -/
def patternFault? (source : String) : Outcome (Option String) := do
  match ← compilePattern [] source with
  | .ok _ => return none
  | .error reason => return some reason

/-- The pattern of a rule with its compiled form; none if it is not well written. -/
def FindPattern.compile? (p : FindPattern) : Outcome (Option Pattern.Compiled) := do
  match ← compilePattern p.flags p.source with
  | .ok c => return some c
  | .error _ => return none

end Gamebook
