import Gamebook.Narrator.Decoding
import Gamebook.Proofs.Json.Legible
import Gamebook.Proofs.Text.Scan

/-!
The payload of a reply goes through every decoder and back. It is one object from its first character
to its last, so that trimming leaves it whole and no fence is found around it; and a fence that is put
around it is all that is taken off.
-/

namespace Gamebook

open Json (Legible legible_text legible_list legible_object)

/-! ### Payloads -/

namespace Reply

theorem legible_payload (r : Reply) : Legible r.payload := by
  refine legible_object (by simp [Keyed.keys]) (List.forall_mem_cons.mpr ⟨legible_text _, ?_⟩)
  refine List.forall_mem_singleton.mpr (legible_list fun v member => ?_)
  obtain ⟨choice, -, rfl⟩ := List.mem_map.mp member
  exact legible_text choice

theorem storyOf?_payload (r : Reply) : storyOf? r.payload = some r.story := rfl

theorem choicesOf_payload (r : Reply) : choicesOf r.payload = r.choices := by
  have shown : Value.display ∘ Value.text = id := rfl
  change (r.choices.map Value.text).map Value.display = r.choices
  rw [List.map_map, shown, List.map_id]

theorem write_payload (r : Reply) : ∃ inner, r.payload.write = '\x7b' :: (inner ++ ['\x7d']) :=
  Json.write_object _

end Reply

namespace Entry

theorem text_ofReply (r : Reply) : (ofReply r).text = r.payload.json := by
  rw [text, ofReply, String.join_cons, String.join_nil, String.append_empty]

theorem payload?_ofReply (r : Reply) : (ofReply r).payload? = .ok (some r.payload) := by
  rw [payload?, text_ofReply, r.legible_payload.read_json]
  rfl

theorem story?_ofReply (r : Reply) : (ofReply r).story? = .ok (some r.story) := by
  rw [story?, payload?_ofReply]
  rfl

theorem choices_ofReply (r : Reply) : (ofReply r).choices = .ok r.choices := by
  rw [choices, payload?_ofReply]
  exact congrArg _ r.choicesOf_payload

end Entry

/-! ### Fences -/

namespace Narrator

open Text

variable {inner : List Char} {r : Reply}

/-- A text in a fence of backticks, each on a line of its own. -/
def fenced (label text : String) : String := "```" ++ label ++ "\n" ++ text ++ "\n```"

theorem beforeFence?_fence (cs : List Char) : beforeFence? (cs ++ fence) = some cs := by
  have mirrored : afterOpening? fence (cs ++ fence).reverse = some cs.reverse := by
    rw [List.reverse_append]
    exact afterOpening?_eq_some.mpr rfl
  rw [beforeFence?, mirrored, Option.map_some, List.reverse_reverse]

theorem trimChars_fence (cs : List Char) :
    trimChars (fence ++ (cs ++ fence)) = fence ++ (cs ++ fence) := by
  have enclosed : fence ++ (cs ++ fence) =
      '\x60' :: ('\x60' :: '\x60' :: cs ++ ['\x60', '\x60'] ++ ['\x60']) := by
    simp [fence]
  rw [enclosed, trimChars_enclosed rfl rfl]

theorem unfenced?_fence {body label : List Char} (object : body = '\x7b' :: (inner ++ ['\x7d']))
    (known : label = [] ∨ label = "json".toList) :
    unfenced? (fence ++ (label ++ '\n' :: (body ++ ['\n']) ++ fence)) = some body := by
  have unlabelled : (afterOpening? "json".toList (label ++ '\n' :: (body ++ ['\n']) ++ fence)).getD
      (label ++ '\n' :: (body ++ ['\n']) ++ fence) = '\n' :: (body ++ ['\n'] ++ fence) := by
    obtain rfl | rfl := known
    · rfl
    · rw [List.append_assoc, afterOpening?_eq_some.mpr rfl]
      rfl
  -- The object begins and ends with a brace, so blanks are cut off up to it and no further.
  have begun : ('\n' :: (body ++ ['\n'] ++ fence)).dropWhile isBlank = body ++ ['\n'] ++ fence := by
    rw [object]
    rfl
  have inside : trimEndChars (body ++ ['\n']) = body := by
    rw [trimEndChars_concat_of_blank rfl, object, ← List.cons_append, trimEndChars_concat rfl]
  rw [unfenced?, afterOpening?_eq_some.mpr rfl]
  simp only [Option.bind_eq_bind, Option.bind_some, unlabelled, begun, beforeFence?_fence, inside]
  rfl

theorem payloadText_json (r : Reply) : payloadText r.payload.json = r.payload.json := by
  obtain ⟨inner, object⟩ := r.write_payload
  rw [payloadText, Value.json, String.toList_ofList, object, trimChars_enclosed rfl rfl]
  rfl

theorem payloadText_fenced (r : Reply) {label : String} (known : label = "" ∨ label = "json") :
    payloadText (fenced label r.payload.json) = r.payload.json := by
  obtain ⟨inner, object⟩ := r.write_payload
  have spelled : (fenced label r.payload.json).toList =
      fence ++ (label.toList ++ '\n' :: (r.payload.write ++ ['\n']) ++ fence) := by
    simp [fenced, fence, Value.json]
  have known : label.toList = [] ∨ label.toList = "json".toList :=
    known.imp (congrArg String.toList) (congrArg String.toList)
  rw [payloadText, spelled, trimChars_fence, unfenced?_fence object known]
  rfl

theorem decode_of_payloadText {raw : String} (carried : payloadText raw = r.payload.json) :
    decode raw = .ok r := by
  rw [decode, carried, r.legible_payload.read_json]
  exact congrArg (fun choices => Except.ok (Reply.mk r.story choices)) r.choicesOf_payload

end Narrator

/-- A reply goes through its payload and back: the entry tells its story and its choices, and the
narrator's text is decoded as the reply, bare or in a fence. -/
theorem Reply.round_trips (r : Reply) :
    (Entry.ofReply r).story? = .ok (some r.story) ∧ (Entry.ofReply r).choices = .ok r.choices ∧
      Narrator.decode (Entry.ofReply r).text = .ok r ∧ ∀ label ∈ ["", "json"],
        Narrator.decode (Narrator.fenced label (Entry.ofReply r).text) = .ok r := by
  rw [Entry.text_ofReply]
  refine ⟨Entry.story?_ofReply r, Entry.choices_ofReply r,
    Narrator.decode_of_payloadText (Narrator.payloadText_json r), fun label member => ?_⟩
  have known : label = "" ∨ label = "json" := by simpa using member
  exact Narrator.decode_of_payloadText (Narrator.payloadText_fenced r known)

end Gamebook
