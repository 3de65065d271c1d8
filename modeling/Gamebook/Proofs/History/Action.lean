import Gamebook.History.Summary
import Gamebook.Proofs.Outcome
import Gamebook.Proofs.Text.Scan

/-!
Actions read back from their frames. A frame ends with the first quote behind its opening, so an
action comes out of its own frame whole exactly if it has no quote; history then remembers what the
player did.
-/

namespace Gamebook

variable {action cs : List Char} {text : String}

/-- The quoted action at the front of a text is what stands between the opening of a frame and the
next quote. -/
theorem framedAt?_eq_some : framedAt? cs = some action ↔
    action ≠ [] ∧ '"' ∉ action ∧ ∃ rest, cs = frameOpening ++ (action ++ '"' :: rest) := by
  constructor
  · intro framed
    rw [framedAt?] at framed
    split at framed
    · cases framed
    rename_i behind opened
    obtain rfl := Text.afterOpening?_eq_some.mp opened
    dsimp only at framed
    split_ifs at framed with unfit
    obtain rfl := Option.some.inj framed
    simp only [Bool.or_eq_true, List.isEmpty_iff, decide_eq_true_eq, not_or] at unfit
    refine ⟨unfit.1, fun quote => by simpa using List.mem_takeWhile_imp quote, ?_⟩
    -- The action is not all that is left, so it has been stopped by a quote.
    have split := List.takeWhile_append_dropWhile (p := (· != '"')) (l := behind)
    cases stop : behind.dropWhile (· != '"') with
    | nil =>
      rw [stop, List.append_nil] at split
      exact absurd (congrArg List.length split) unfit.2
    | cons c rest =>
      have closing : (c != '"') = false := by
        have first := List.head?_dropWhile_not (· != '"') behind
        rwa [stop] at first
      obtain rfl : c = '"' := by simpa using closing
      exact ⟨rest, by rw [← stop, split]⟩
  · rintro ⟨some, plain, rest, rfl⟩
    have inside : ∀ c ∈ action, (c != '"') = true := fun c member =>
      bne_iff_ne.mpr fun quote => plain (quote ▸ member)
    have front : (action ++ '"' :: rest).takeWhile (· != '"') = action := by
      rw [List.takeWhile_append_of_pos inside, List.takeWhile_cons_of_neg (by decide),
        List.append_nil]
    rw [framedAt?, Text.afterOpening?_eq_some.mpr rfl]
    simp [front, some]

/-- What is found in a frame has no quote, wherever in the text the frame is. -/
theorem findFramed_plain (found : findFramed cs = some action) : '"' ∉ action := by
  induction cs with
  | nil => cases found
  | cons c cs ih =>
    rw [findFramed] at found
    cases here : framedAt? (c :: cs) with
    | none =>
      rw [here] at found
      exact ih found
    | some first =>
      rw [here] at found
      exact Option.some.inj found ▸ (framedAt?_eq_some.mp here).2.1

theorem frameAction_toList (action : String) :
    (frameAction action).toList = frameOpening ++ (action.toList ++ ['"']) := by
  rw [frameAction, String.toList_append, String.toList_append, List.append_assoc]
  rfl

/-- An action is read back from its frame exactly if it has no quote. -/
theorem framedAction?_frameAction {action : String} (some : action ≠ "") :
    framedAction? (frameAction action) = .some action ↔ '"' ∉ action.toList := by
  rw [framedAction?, frameAction_toList, Option.map_eq_some_iff]
  constructor
  · rintro ⟨found, whole, rfl⟩
    rw [String.toList_ofList]
    exact findFramed_plain whole
  · intro plain
    have here : framedAt? (frameOpening ++ (action.toList ++ ['"'])) = .some action.toList :=
      framedAt?_eq_some.mpr ⟨fun none => some (String.toList_eq_nil_iff.mp none), plain, [], rfl⟩
    refine ⟨action.toList, ?_, String.ofList_toList⟩
    -- The frame stands at the very front of the text, where the search begins.
    cases text : frameOpening ++ (action.toList ++ ['"']) with
    | nil => exact absurd (List.append_eq_nil_iff.mp text).1 (by decide)
    | cons c cs =>
      rw [text] at here
      rw [findFramed, here]
      rfl

/-- A single entry of the player is compressed to its key action, if it has one. -/
theorem compress_ofUser (text : String) (first last : Int) (summaryLength : Nat) :
    ∃ segment, compress [Entry.ofUser text] first last summaryLength = .ok segment ∧
      segment.keyActions = (keyAction? text).toList := by
  refine ⟨_, rfl, ?_⟩
  have whole : (Entry.ofUser text).text = text := String.empty_append
  change (([] : List String) ++ (keyAction? (Entry.ofUser text).text).toList).take 10 = _
  rw [whole, List.nil_append]
  cases keyAction? text <;> rfl

/-- From the frame of an action other than that of the system, the action is read back exactly if it
has no quote; compressing the entry then keeps it as a key action if it is worth remembering. -/
theorem compress_reads_action {action : String} (some : action ≠ "")
    (own : action ≠ systemAction) (first last : Int) (summaryLength : Nat) :
    (framedAction? (frameAction action) = .some action ↔ '"' ∉ action.toList) ∧
      ('"' ∉ action.toList → ∃ segment,
        compress [Entry.ofUser (frameAction action)] first last summaryLength = .ok segment ∧
        segment.keyActions = if isImportantAction action then [summarizeAction action] else []) := by
  refine ⟨framedAction?_frameAction some, fun plain => ?_⟩
  obtain ⟨segment, ok, kept⟩ := compress_ofUser (frameAction action) first last summaryLength
  refine ⟨segment, ok, ?_⟩
  rw [kept, keyAction?, (framedAction?_frameAction some).mpr plain]
  by_cases important : isImportantAction action = true <;> simp [own, important]

/-- A question over two lines. -/
def question : String := "hỏi Lan:\nđi đâu?"

theorem question_read_back : question ≠ "" ∧ question ≠ systemAction ∧ '"' ∉ question.toList ∧
    framedAction? (frameAction question) = some question ∧ ∃ segment,
      compress [Entry.ofUser (frameAction question)] 1 1 200 = .ok segment ∧
      segment.keyActions = [question] := by
  have plain : '"' ∉ question.toList := by decide
  obtain ⟨whole, kept⟩ := @compress_reads_action question (by decide) (by decide) 1 1 200
  obtain ⟨segment, ok, actions⟩ := kept plain
  have remembered : (if isImportantAction question then [summarizeAction question] else []) =
      [question] := by
    decide +kernel
  exact ⟨by decide, by decide, plain, whole.mpr plain, segment, ok, actions.trans remembered⟩

/-- A question with a quoted name is cut at the first quote. -/
theorem quoted_question_cut : isImportantAction "hỏi \"Lan\" về kiếm" = true ∧ ∃ segment,
    compress [Entry.ofUser (frameAction "hỏi \"Lan\" về kiếm")] 1 1 200 = .ok segment ∧
      segment.keyActions = ["hỏi "] ∧
      segment.keyActions ≠ [summarizeAction "hỏi \"Lan\" về kiếm"] := by
  obtain ⟨segment, ok, kept⟩ :=
    compress_ofUser (frameAction "hỏi \"Lan\" về kiếm") 1 1 200
  have cut : keyAction? (frameAction "hỏi \"Lan\" về kiếm") = some "hỏi " := by decide +kernel
  rw [cut] at kept
  exact ⟨by decide +kernel, segment, ok, kept, by rw [kept]; decide +kernel⟩

end Gamebook
