import Gamebook.Narrator.Decoding
import Gamebook.Proofs.History.Window
import Gamebook.Proofs.Json.Faults
import Gamebook.Proofs.Text.Scan

/-!
Decoding as an operation that gives a result. Malformed text is no fault: it is taken as the story. What
is left is a whole numeral that is too long to read, and where none stands outside quoted texts, every
reply is decoded and every entry tells what it holds.
-/

namespace Gamebook

open Json (LongNumeral longNumeral_of_read not_longNumeral_of_length_le)
open Numeral (maxDigits)
open Text (trimChars_enclosed)

/-- Whether a text is an object with a text as its story. -/
def TellsStory (s : String) : Prop :=
  ∃ fields story, Json.read s = .ok (.object fields) ∧ Keyed.get? fields "story" = some (.text story)

theorem Json.read_of_not_longNumeral {s : String} (short : ¬LongNumeral s.toList) :
    (∃ v, Json.read s = .ok v) ∨ Json.read s = .error .malformed := by
  cases outcome : Json.read s with
  | ok v => exact .inl ⟨v, rfl⟩
  | error fault =>
    cases fault with
    | malformed => exact .inr rfl
    | tooLong n => exact absurd (longNumeral_of_read outcome) short

theorem Entry.readable_of_not_longNumeral {e : Entry} (short : ¬LongNumeral e.text.toList) :
    e.Readable := by
  rw [Readable, payload?]
  split
  · exact ⟨none, rfl⟩
  · obtain ⟨v, read⟩ | malformed := Json.read_of_not_longNumeral short
    · exact ⟨some v, by rw [read]⟩
    · exact ⟨none, by rw [malformed]⟩

theorem Reply.storyOf?_eq_some {v : Value} {story : String} (told : storyOf? v = some story) :
    ∃ fields, v = .object fields ∧ Keyed.get? fields "story" = some (.text story) := by
  rw [storyOf?.eq_def] at told
  split at told
  · rename_i fields
    split at told
    · rename_i found
      exact ⟨fields, rfl, Option.some.inj told ▸ found⟩
    · exact nomatch told
  · exact nomatch told

namespace Narrator

variable {raw : String}

theorem decode_of_story {fields : Fields} {story : String}
    (read : Json.read (payloadText raw) = .ok (.object fields))
    (told : Keyed.get? fields "story" = some (.text story)) :
    decode raw = .ok { story, choices := Reply.choicesOf (.object fields) } := by
  rw [decode, read]
  simp only [Reply.storyOf?, told]

theorem decode_of_not_tellsStory (short : ¬LongNumeral (payloadText raw).toList)
    (plain : ¬TellsStory (payloadText raw)) : decode raw = .ok { story := raw } := by
  rw [decode]
  obtain ⟨v, read⟩ | malformed := Json.read_of_not_longNumeral short
  · rw [read]
    cases told : Reply.storyOf? v with
    | none => simp only [told]
    | some story =>
      obtain ⟨fields, rfl, found⟩ := Reply.storyOf?_eq_some told
      exact absurd ⟨fields, story, read, found⟩ plain
  · rw [malformed]

/-- Where no numeral is too long, every reply is decoded, to its story or else to itself, and every entry
tells its story and its choices. -/
theorem decode_returns {e : Entry} (short : ¬LongNumeral (payloadText raw).toList)
    (brief : ¬LongNumeral e.text.toList) :
    (∃ r, decode raw = .ok r) ∧
      (∀ fields story, Json.read (payloadText raw) = .ok (.object fields) →
        Keyed.get? fields "story" = some (.text story) →
        decode raw = .ok { story, choices := Reply.choicesOf (.object fields) }) ∧
      (¬TellsStory (payloadText raw) → decode raw = .ok { story := raw }) ∧
      (∃ story, e.story? = .ok story) ∧ ∃ choices, e.choices = .ok choices := by
  have readable := Entry.readable_of_not_longNumeral brief
  refine ⟨?_, fun _ _ => decode_of_story, decode_of_not_tellsStory short, readable.story?,
    readable.choices⟩
  by_cases tells : TellsStory (payloadText raw)
  · obtain ⟨fields, story, read, told⟩ := tells
    exact ⟨_, decode_of_story read told⟩
  · exact ⟨_, decode_of_not_tellsStory short tells⟩

def howl : String := "12 wolves howl."

theorem howl_returns : ¬LongNumeral (payloadText howl).toList ∧ ¬TellsStory (payloadText howl) ∧
    decode howl = .ok { story := howl } ∧
    ¬LongNumeral (Entry.ofReply { story := howl }).text.toList ∧
    ∃ story, (Entry.ofReply { story := howl }).story? = .ok story := by
  have short : ¬LongNumeral (payloadText howl).toList :=
    not_longNumeral_of_length_le (by decide +kernel)
  have brief : ¬LongNumeral (Entry.ofReply { story := howl }).text.toList :=
    not_longNumeral_of_length_le (by decide +kernel)
  have malformed : (Json.read (payloadText howl)).isOk = false := by decide +kernel
  have plain : ¬TellsStory (payloadText howl) := by
    rintro ⟨fields, story, read, -⟩
    rw [read] at malformed
    exact nomatch malformed
  obtain ⟨-, -, verbatim, told, -⟩ := decode_returns short brief
  exact ⟨short, plain, verbatim plain, brief, told⟩

def ones (n : Nat) : List Char := List.replicate n '1'

theorem readNumber_ones {n : Nat} (long : maxDigits < n) :
    Json.readNumber false (ones n) = .error (.tooLong n) := by
  obtain ⟨n, rfl⟩ := Nat.exists_eq_add_one_of_ne_zero (Nat.ne_zero_of_lt long)
  have digit : Json.isPlainDigit '1' = true := by decide
  have whole : Json.readWhole (ones (n + 1)) = (ones (n + 1), []) := by
    rw [ones, List.replicate_succ, Json.readWhole, ← List.replicate_succ, Json.spanDigits,
      List.span_eq_takeWhile_dropWhile, List.takeWhile_replicate, List.dropWhile_replicate]
    · simp only [digit, if_true]
    · simp
  have size : (ones (n + 1)).length = n + 1 := List.length_replicate
  rw [Json.readNumber, whole]
  change (if maxDigits < (ones (n + 1)).length then
    Except.error (Numeral.Fault.tooLong (ones (n + 1)).length) else _) = _
  rw [size, if_pos long]

theorem read_ones {n : Nat} (long : maxDigits < n) :
    Json.read (String.ofList (ones n)) = .error (.tooLong n) := by
  have scalar : Json.readValue ((Json.skipSpace (ones n)).length + 1) (Json.skipSpace (ones n)) =
      Json.readNumber false (ones n) := by
    obtain ⟨n, rfl⟩ := Nat.exists_eq_add_one_of_ne_zero (Nat.ne_zero_of_lt long)
    rfl
  rw [Json.read, String.toList_ofList, scalar, readNumber_ones long]

theorem payloadText_ones {n : Nat} (long : maxDigits < n) :
    payloadText (String.ofList (ones n)) = String.ofList (ones n) := by
  obtain ⟨m, rfl⟩ : ∃ m, n = m + 2 := ⟨n - 2, by rw [maxDigits] at long; omega⟩
  have ends : ones (m + 2) = '1' :: (ones m ++ ['1']) := by
    rw [ones, List.replicate_succ, List.replicate_succ']
    rfl
  rw [payloadText, String.toList_ofList, ends, trimChars_enclosed (by decide) (by decide)]
  rfl

def onesEntry (n : Nat) : Entry := { role := .model, parts := [String.ofList (ones n)] }

theorem payload?_ones {n : Nat} (long : maxDigits < n) :
    (onesEntry n).payload? = .error (.numeralTooLong n) := by
  have held : (onesEntry n).text = String.ofList (ones n) := by
    rw [Entry.text, onesEntry, String.join_cons, String.join_nil, String.append_empty]
  rw [Entry.payload?, held, read_ones long]
  rfl

theorem ones_refused {n : Nat} (long : maxDigits < n) :
    decode (String.ofList (ones n)) = .error (.numeralTooLong n) ∧
      (onesEntry n).story? = .error (.numeralTooLong n) ∧
      (onesEntry n).choices = .error (.numeralTooLong n) := by
  refine ⟨?_, ?_, ?_⟩
  · rw [decode, payloadText_ones long, read_ones long]
  · rw [Entry.story?, payload?_ones long]
    rfl
  · rw [Entry.choices, payload?_ones long]
    rfl

/-- A reply that is one long numeral is not decoded, and an entry that holds it tells neither a story nor
choices. -/
theorem ones_fail : decode (String.ofList (ones 4301)) = .error (.numeralTooLong 4301) ∧
    (onesEntry 4301).story? = .error (.numeralTooLong 4301) ∧
    (onesEntry 4301).choices = .error (.numeralTooLong 4301) :=
  ones_refused (by decide)

end Narrator

end Gamebook
