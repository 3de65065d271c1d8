import Mathlib.Tactic.Basic
import Gamebook.Draws

/-!
Plays taken apart: what the parts of a play that gives a result gave. Where only the result counts
and not what was drawn, it is enough that the play may give it.
-/

namespace Gamebook.Play

/-! ### Steps with a memory -/

section Memory

variable {σ α β : Type} {x : ExceptT Failure (StateM σ) α}
  {f : α → ExceptT Failure (StateM σ) β} {s s' : σ} {b : β}

theorem bind_eq_ok : (x >>= f) s = (.ok b, s') ↔
    ∃ a s₁, x s = (.ok a, s₁) ∧ f a s₁ = (.ok b, s') := by
  simp only [bind, ExceptT.bind, ExceptT.mk, StateT.bind]
  rcases x s with ⟨e | a, s₁⟩
  · constructor
    · exact nofun
    · rintro ⟨a, s₁, h, -⟩
      exact nomatch h
  · constructor
    · exact fun h => ⟨a, s₁, rfl, h⟩
    · rintro ⟨a, s₁, h, rest⟩
      cases h
      exact rest

theorem pure_eq_ok {a b : α} :
    (pure a : ExceptT Failure (StateM σ) α) s = (.ok b, s') ↔ a = b ∧ s = s' := by
  constructor
  · intro h
    cases h
    exact ⟨rfl, rfl⟩
  · rintro ⟨rfl, rfl⟩
    rfl

/-- Whether a play gives a result that passes a test, together with what it remembers by then. -/
def passes (x : ExceptT Failure (StateM σ) α) (s : σ) (test : α → σ → Bool) : Bool :=
  match x s with
  | (.ok a, s') => test a s'
  | (.error _, _) => false

/-- A result that passes a test, found by evaluation. -/
theorem exists_of_passes {test : α → σ → Bool} (h : passes x s test = true) :
    ∃ a s', x s = (.ok a, s') ∧ test a s' = true := by
  rw [passes] at h
  rcases ran : x s with ⟨e | a, s'⟩ <;> rw [ran] at h
  · exact nomatch h
  · exact ⟨a, s', rfl, h⟩

end Memory

/-! ### Possible results -/

variable {α β : Type}

/-- Whether a play gives a result for some draws. -/
def Yields (x : Play α) (a : α) : Prop := ∃ d d', x d = (.ok a, d')

theorem yields_pure {a b : α} : Yields (pure a) b ↔ a = b := by
  constructor
  · rintro ⟨d, d', h⟩
    exact (pure_eq_ok.mp h).1
  · rintro rfl
    exact ⟨default, default, rfl⟩

theorem Yields.bind {x : Play α} {f : α → Play β} {b : β} (h : Yields (x >>= f) b) :
    ∃ a, Yields x a ∧ Yields (f a) b := by
  obtain ⟨d, d', h⟩ := h
  obtain ⟨a, d₁, first, rest⟩ := bind_eq_ok.mp h
  exact ⟨a, ⟨d, d₁, first⟩, ⟨d₁, d', rest⟩⟩

theorem yields_ofOutcome {x : Outcome α} {a : α} : Yields (ofOutcome x) a ↔ x = .ok a := by
  constructor
  · rintro ⟨d, d', h⟩
    exact congrArg Prod.fst h
  · rintro rfl
    exact ⟨default, default, rfl⟩

theorem Yields.mapM {f : α → Play β} {xs : List α} {ys : List β} (h : Yields (xs.mapM f) ys) :
    ∀ y ∈ ys, ∃ x ∈ xs, Yields (f x) y := by
  induction xs generalizing ys with
  | nil =>
    obtain rfl := yields_pure.mp h
    exact nofun
  | cons x xs ih =>
    rw [List.mapM_cons] at h
    obtain ⟨first, begun, h⟩ := h.bind
    obtain ⟨rest, later, h⟩ := h.bind
    obtain rfl := yields_pure.mp h
    intro y member
    rcases List.mem_cons.mp member with rfl | member
    · exact ⟨x, List.mem_cons_self, begun⟩
    · obtain ⟨source, listed, given⟩ := ih later y member
      exact ⟨source, List.mem_cons_of_mem x listed, given⟩

/-- What every step keeps, a fold keeps. -/
theorem Yields.foldlM {P : β → Prop} {f : β → α → Play β}
    (step : ∀ b a b', P b → Yields (f b a) b' → P b') {xs : List α} {b b' : β} (h : P b)
    (y : Yields (xs.foldlM f b) b') : P b' := by
  induction xs generalizing b with
  | nil =>
    obtain rfl := yields_pure.mp y
    exact h
  | cons x xs ih =>
    rw [List.foldlM_cons] at y
    obtain ⟨next, first, rest⟩ := y.bind
    exact ih (step b x next h first) rest

/-- Steps that do nothing, one after another, do nothing. -/
theorem foldlM_idle {f : β → α → Play β} {xs : List α} {b : β} (idle : ∀ x ∈ xs, f b x = pure b) :
    xs.foldlM f b = pure b := by
  induction xs with
  | nil => rfl
  | cons x xs ih =>
    rw [List.foldlM_cons, idle x List.mem_cons_self, pure_bind]
    exact ih fun later listed => idle later (List.mem_cons_of_mem x listed)

/-! ### Certain results -/

/-- Whether a play gives a result with a property, whatever it draws. -/
def Gives (x : Play α) (P : α → Prop) : Prop := ∀ d, ∃ a d', x d = (.ok a, d') ∧ P a

variable {P : α → Prop} {Q : β → Prop}

theorem gives_pure {a : α} (h : P a) : Gives (pure a) P := fun d => ⟨a, d, rfl, h⟩

theorem gives_ofOutcome {x : Outcome α} {a : α} (h : x = .ok a) : Gives (ofOutcome x) (· = a) :=
  fun d => ⟨a, d, congrArg (·, d) h, rfl⟩

theorem gives_draw (f : Draws → α × Draws) : Gives (draw f) fun _ => True :=
  fun d => ⟨(f d).1, (f d).2, rfl, trivial⟩

theorem Gives.bind {x : Play α} {f : α → Play β} (h : Gives x P) (next : ∀ a, P a → Gives (f a) Q) :
    Gives (x >>= f) Q := by
  intro d
  obtain ⟨a, d₁, first, holds⟩ := h d
  obtain ⟨b, d', rest, last⟩ := next a holds d₁
  exact ⟨b, d', bind_eq_ok.mpr ⟨a, d₁, first, rest⟩, last⟩

/-- What a play certainly gives holds of every result that it may give. -/
theorem Gives.of_yields {x : Play α} {a : α} (h : Gives x P) (y : Yields x a) : P a := by
  obtain ⟨d, d', ok⟩ := y
  obtain ⟨b, d₁, given, holds⟩ := h d
  obtain rfl := Except.ok.inj (congrArg Prod.fst (ok.symm.trans given))
  exact holds

theorem Gives.mono {x : Play α} {R : α → Prop} (h : Gives x P) (weaker : ∀ a, P a → R a) :
    Gives x R := by
  intro d
  obtain ⟨a, d', ok, holds⟩ := h d
  exact ⟨a, d', ok, weaker a holds⟩

theorem Gives.foldlM {f : β → α → Play β} (step : ∀ b a, Q b → Gives (f b a) Q) (xs : List α) {b : β}
    (h : Q b) : Gives (xs.foldlM f b) Q := by
  induction xs generalizing b with
  | nil => exact gives_pure h
  | cons x xs ih =>
    rw [List.foldlM_cons]
    exact (step b x h).bind fun next holds => ih holds

/-! ### Rolls -/

/-- Whether a play gives a result that stands in some relation to the rolls that it used up, whatever
it draws. -/
def Rolls (x : Play α) (R : List Number → α → Prop) : Prop :=
  ∀ d, ∃ a drawn d', x d = (.ok a, d') ∧ d.rolls = drawn ++ d'.rolls ∧ R drawn a

variable {R : List Number → α → Prop} {S : List Number → β → Prop}

theorem rolls_pure {a : α} (h : R [] a) : Rolls (pure a) R := fun d => ⟨a, [], d, rfl, rfl, h⟩

theorem rolls_ofOutcome {x : Outcome α} {a : α} (h : x = .ok a) :
    Rolls (ofOutcome x) fun drawn b => drawn = [] ∧ b = a :=
  fun d => ⟨a, [], d, congrArg (·, d) h, rfl, rfl, rfl⟩

/-- One roll is used up, or there are none left and the roll is even. -/
theorem rolls_roll : Rolls roll fun drawn r => drawn = [r] ∨ drawn = [] ∧ r = Draws.evenRoll := by
  rintro ⟨rolls, tokens, later, issued⟩
  cases rolls with
  | nil => exact ⟨Draws.evenRoll, [], _, rfl, rfl, .inr ⟨rfl, rfl⟩⟩
  | cons r rest => exact ⟨r, [r], _, rfl, rfl, .inl rfl⟩

theorem Rolls.bind {x : Play α} {f : α → Play β} (h : Rolls x R)
    (next : ∀ drawn a, R drawn a → Rolls (f a) fun more b => S (drawn ++ more) b) :
    Rolls (x >>= f) S := by
  intro d
  obtain ⟨a, drawn, d₁, first, before, holds⟩ := h d
  obtain ⟨b, more, d', rest, after, last⟩ := next drawn a holds d₁
  refine ⟨b, drawn ++ more, d', bind_eq_ok.mpr ⟨a, d₁, first, rest⟩, ?_, last⟩
  rw [before, after, List.append_assoc]

theorem Rolls.mono {x : Play α} {R' : List Number → α → Prop} (h : Rolls x R)
    (weaker : ∀ drawn a, R drawn a → R' drawn a) : Rolls x R' := by
  intro d
  obtain ⟨a, drawn, d', ok, used, holds⟩ := h d
  exact ⟨a, drawn, d', ok, used, weaker drawn a holds⟩

theorem Rolls.length_mapM {f : α → Play β} {xs : List α}
    (h : ∀ x ∈ xs, Rolls (f x) fun _ _ => True) :
    Rolls (xs.mapM f) fun _ ys => ys.length = xs.length := by
  induction xs with
  | nil => exact rolls_pure rfl
  | cons x xs ih =>
    rw [List.mapM_cons]
    refine (h x List.mem_cons_self).bind fun _ y _ => ?_
    refine (ih fun later listed => h later (List.mem_cons_of_mem x listed)).bind fun _ ys same => ?_
    exact rolls_pure (by simp [same])

end Gamebook.Play
