import Mathlib.Data.List.TakeDrop
import Mathlib.Tactic.SplitIfs
import Gamebook.Pattern.Replace

/-!
What replacing keeps. At one place there are at most two matches, and only the last of them covers
anything; so if every match that is replaced gives way to its own text, the whole text stays.
-/

namespace Gamebook.Pattern

variable {m : Type → Type} [Monad m] [LawfulMonad m] {hits : List Hit} {hitsAt : Nat → List Hit}
  {replacement : Replacement m} {limit : Option Nat} {rest cs : List Char}

/-! ### The matches at a place -/

/-- Whether all matches of a list but the last cover nothing. -/
def Stepwise (hits : List Hit) : Prop := ∀ hit ∈ hits.dropLast, hit.length = 0

theorem Node.hitsAt_stepwise (node : Node) (text : Subject) (place : Nat) :
    Stepwise (node.hitsAt text place) := by
  rw [Node.hitsAt]
  split
  · exact fun hit absent => absurd absent List.not_mem_nil
  · rename_i hit _
    split_ifs with empty
    · cases node.hitAt? text place false with
      | none => exact fun hit absent => absurd absent List.not_mem_nil
      | some => exact List.forall_mem_singleton.mpr empty
    · exact fun hit absent => absurd absent List.not_mem_nil

theorem hitsUpTo_stepwise {place : Nat} (h : Stepwise (hitsAt place)) :
    Stepwise (hitsUpTo limit hitsAt place) := by
  rcases limit with _ | _ | n
  · exact h
  · exact fun hit absent => absurd absent List.not_mem_nil
  · intro hit member
    change hit ∈ ((hitsAt place).take (n + 1)).dropLast at member
    rw [List.dropLast_take_eq_take_dropLast] at member
    exact h hit (List.mem_of_mem_take member)

/-- Matches that give way to their own texts give way to what the last of them covers. -/
theorem replaceHits_own (stepwise : Stepwise hits)
    (own : ∀ hit ∈ hits, replacement rest hit = pure (rest.take hit.length)) :
    replaceHits replacement rest hits = pure (rest.take (coveredBy hits)) := by
  induction hits with
  | nil => rfl
  | cons hit hits ih =>
    rw [replaceHits, own hit List.mem_cons_self]
    cases hits with
    | nil => simp only [replaceHits, pure_bind, List.append_nil, coveredBy]
    | cons next hits =>
      -- A match that another one follows at the same place inserts nothing.
      have nothing : hit.length = 0 := stepwise hit List.mem_cons_self
      have later : Stepwise (next :: hits) := fun hit member =>
        stepwise hit (List.mem_cons_of_mem _ member)
      rw [ih later fun hit member => own hit (List.mem_cons_of_mem _ member), pure_bind, pure_bind,
        nothing, List.take_zero, List.nil_append]
      rfl

/-! ### The matches of a text -/

/-- The matches that are replaced in the rest of a text from a place on, at most `limit` of them, each
with the rest of the text from it on; the first `skip` characters are covered by a match already. -/
def matchedFrom (hitsAt : Nat → List Hit) :
    Option Nat → Nat → Nat → List Char → List (List Char × Hit)
  | limit, _, place, [] => (hitsUpTo limit hitsAt place).map ([], ·)
  | limit, skip + 1, place, _ :: rest => matchedFrom hitsAt limit skip (place + 1) rest
  | limit, 0, place, c :: rest =>
    let hits := hitsUpTo limit hitsAt place
    hits.map (c :: rest, ·) ++
      matchedFrom hitsAt (limit.map (· - hits.length)) (coveredBy hits - 1) (place + 1) rest

/-- The matches of a pattern that are replaced in a text, at most `limit` of them, each with the rest of
the text from it on. -/
def Node.matched (node : Node) (limit : Option Nat) (text : List Char) : List (List Char × Hit) :=
  matchedFrom (node.hitsAt text.toArray) limit 0 0 text

theorem replaceFrom_own (stepwise : ∀ place, Stepwise (hitsAt place)) {skip place : Nat}
    (own : ∀ found ∈ matchedFrom hitsAt limit skip place cs,
      replacement found.1 found.2 = pure (found.1.take found.2.length)) :
    replaceFrom hitsAt replacement limit skip place cs = pure (cs.drop skip) := by
  -- What is left of the limit and what the last match covers are the scan's only memory of the text
  -- behind it, so the induction has to be for all of them.
  induction cs generalizing limit skip place with
  | nil =>
    have ends : replaceHits replacement [] (hitsUpTo limit hitsAt place) = pure [] := by
      rw [replaceHits_own (hitsUpTo_stepwise (stepwise place)), List.take_nil]
      intro hit member
      cases skip <;> exact own ([], hit) (List.mem_map_of_mem member)
    cases skip <;> exact ends
  | cons c cs ih =>
    cases skip with
    | succ skip => exact ih own
    | zero =>
      obtain ⟨here, later⟩ := List.forall_mem_append.mp own
      have inserted : replaceHits replacement (c :: cs) (hitsUpTo limit hitsAt place) =
          pure ((c :: cs).take (coveredBy (hitsUpTo limit hitsAt place))) :=
        replaceHits_own (hitsUpTo_stepwise (stepwise place)) fun hit member =>
          here (c :: cs, hit) (List.mem_map_of_mem member)
      rw [replaceFrom, inserted, pure_bind]
      generalize coveredBy (hitsUpTo limit hitsAt place) = covered at later ⊢
      have others := ih later
      cases covered with
      | zero =>
        change replaceFrom hitsAt replacement _ 0 (place + 1) cs = pure cs at others
        simp only [others, pure_bind, List.take_zero, List.nil_append, List.drop_zero]
      | succ n =>
        change replaceFrom hitsAt replacement _ n (place + 1) cs = pure (cs.drop n) at others
        simp only [others, pure_bind, List.take_succ_cons, List.cons_append, List.take_append_drop,
          List.drop_zero]

/-- If every match that is replaced gives way to its own text, the text stays as it is. -/
theorem Node.replace_own (node : Node)
    (own : ∀ found ∈ node.matched limit cs,
      replacement found.1 found.2 = pure (found.1.take found.2.length)) :
    node.replace limit replacement cs = pure cs :=
  replaceFrom_own (fun place => node.hitsAt_stepwise cs.toArray place) own

end Gamebook.Pattern
