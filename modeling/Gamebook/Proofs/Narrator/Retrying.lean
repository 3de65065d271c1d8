import Mathlib
import Gamebook.Narrator.Remote

/-!
Retrying the remote narrator. Requests are made one after another until a reply is not blank, three at
most, and the last one made decides what the call gives. A call in which every request fails thus fails;
so does one whose last request fails after replies that were all blank.
-/

namespace Gamebook.Narrator

namespace Answer

/-- Whether an answer is a reply that is not blank. -/
def tells : Answer → Bool
  | .content text => !Text.isBlankText (text.getD "")
  | .raised _ => false

/-- Whether an answer is a failure. -/
def raises : Answer → Bool
  | .content _ => false
  | .raised _ => true

/-- What a call gives if an answer decides it. -/
def result : Answer → Except String String
  | .content text => .ok (text.getD "")
  | .raised reason => .error reason

theorem exists_reply_of_tells {a : Answer} (tells : a.tells = true) :
    ∃ reply, a.result = .ok reply ∧ Text.isBlankText reply = false := by
  cases a with
  | raised reason => exact nomatch tells
  | content text => exact ⟨text.getD "", rfl, by simpa [Answer.tells] using tells⟩

theorem exists_blank {a : Answer} (silent : a.tells = false) (spoken : a.raises = false) :
    ∃ reply, a.result = .ok reply ∧ Text.isBlankText reply = true := by
  cases a with
  | raised reason => exact nomatch spoken
  | content text => exact ⟨text.getD "", rfl, by simpa [Answer.tells] using silent⟩

theorem silent_of_raises {a : Answer} (raised : a.raises = true) : a.tells = false := by
  cases a with
  | raised reason => rfl
  | content text => exact nomatch raised

theorem raises_iff {a : Answer} : a.raises = true ↔ ∃ reason, a.result = .error reason := by
  cases a <;> simp [raises, result]

end Answer

/-! ### Requests one after another -/

section Requests

variable {client : Nat → Answer} {left made n i : Nat} {last : Except String String}

theorem converseFrom_succ (client : Nat → Answer) (left made : Nat) (last : Except String String) :
    converseFrom client (left + 1) made last =
      if (client made).tells then ⟨made + 1, (client made).result⟩
      else converseFrom client left (made + 1) (client made).result := by
  rw [converseFrom]
  cases client made with
  | raised reason => rfl
  | content text =>
    cases blank : Text.isBlankText (text.getD "") <;> simp [Answer.tells, Answer.result, blank]

/-- The first reply that is not blank ends the requests. -/
theorem converseFrom_of_tells (within : i < left)
    (first : ∀ j < i, (client (made + j)).tells = false) (tells : (client (made + i)).tells = true) :
    converseFrom client left made last = ⟨made + i + 1, (client (made + i)).result⟩ := by
  induction i generalizing left made last with
  | zero =>
    obtain ⟨left, rfl⟩ := Nat.exists_eq_add_one_of_ne_zero within.ne'
    rw [converseFrom_succ]
    exact if_pos tells
  | succ i ih =>
    obtain ⟨left, rfl⟩ := Nat.exists_eq_add_one_of_ne_zero (Nat.ne_zero_of_lt within)
    have shift (j : Nat) : made + 1 + j = made + (j + 1) := by omega
    have silent : (client made).tells = false := first 0 i.succ_pos
    rw [converseFrom_succ, silent, if_neg Bool.false_ne_true, ih (Nat.lt_of_succ_lt_succ within),
      shift]
    · intro j before
      rw [shift]
      exact first (j + 1) (Nat.succ_lt_succ before)
    · rwa [shift]

/-- While no reply is other than blank, requests go on to the last one that is left. -/
theorem converseFrom_of_silent (silent : ∀ j < left + 1, (client (made + j)).tells = false) :
    converseFrom client (left + 1) made last = ⟨made + left + 1, (client (made + left)).result⟩ := by
  induction left generalizing made last with
  | zero =>
    rw [converseFrom_succ, show (client made).tells = false from silent 0 Nat.one_pos]
    rfl
  | succ left ih =>
    have shift (j : Nat) : made + 1 + j = made + (j + 1) := by omega
    rw [converseFrom_succ, show (client made).tells = false from silent 0 (Nat.succ_pos _),
      if_neg Bool.false_ne_true, ih, shift]
    intro j within
    rw [shift]
    exact silent (j + 1) (Nat.succ_lt_succ within)

/-- Among the first answers one is the first to tell something, or none does. -/
theorem exists_first_or_silent (client : Nat → Answer) (n : Nat) :
    (∃ i < n, (∀ j < i, (client j).tells = false) ∧ (client i).tells = true) ∨
      ∀ i < n, (client i).tells = false := by
  induction n with
  | zero => exact .inr fun i below => absurd below (Nat.not_lt_zero i)
  | succ n ih =>
    rcases ih with ⟨i, below, first, tells⟩ | silent
    · exact .inl ⟨i, below.trans n.lt_succ_self, first, tells⟩
    · cases tells : (client n).tells with
      | true => exact .inl ⟨n, n.lt_succ_self, silent, tells⟩
      | false =>
        refine .inr fun i below => ?_
        rcases Nat.lt_succ_iff_lt_or_eq.mp below with before | rfl
        · exact silent i before
        · exact tells

end Requests

/-! ### Calls -/

section Calls

variable {client : Nat → Answer} {i : Nat}

/-- The last request of a call. -/
def lastAttempt : Nat := maxAttempts - 1

theorem lastAttempt_lt : lastAttempt < maxAttempts := by decide

theorem converse_of_tells (within : i < maxAttempts) (first : ∀ j < i, (client j).tells = false)
    (tells : (client i).tells = true) : converse client = ⟨i + 1, (client i).result⟩ := by
  have begun : converse client = ⟨0 + i + 1, (client (0 + i)).result⟩ := by
    refine converseFrom_of_tells within (fun j before => ?_) ?_
    · rw [Nat.zero_add]
      exact first j before
    · rwa [Nat.zero_add]
  rwa [Nat.zero_add] at begun

theorem converse_of_silent (silent : ∀ i < maxAttempts, (client i).tells = false) :
    converse client = ⟨maxAttempts, (client lastAttempt).result⟩ := by
  have begun : converse client = ⟨0 + lastAttempt + 1, (client (0 + lastAttempt)).result⟩ := by
    refine converseFrom_of_silent fun j within => ?_
    rw [Nat.zero_add]
    exact silent j within
  rwa [Nat.zero_add] at begun

variable {s : Settings}

theorem complete_of_ok {reply : String} (configured : s.isAvailable = true)
    (replied : (converse client).result = .ok reply) : complete s client = .ok reply := by
  rw [complete, if_pos configured, replied]

theorem complete_of_error {reason : String} (configured : s.isAvailable = true)
    (raised : (converse client).result = .error reason) :
    complete s client = .error (.narratorFailed maxAttempts) := by
  rw [complete, if_pos configured, raised]

/-- At most three requests are made, and none after a reply that is not blank. -/
theorem converse_requests (client : Nat → Answer) : (converse client).requests ≤ maxAttempts ∧
    ∀ i, i + 1 < (converse client).requests → (client i).tells = false := by
  rcases exists_first_or_silent client maxAttempts with ⟨i, within, first, tells⟩ | silent
  · rw [converse_of_tells within first tells]
    exact ⟨within, fun j before => first j (Nat.lt_of_succ_lt_succ before)⟩
  · rw [converse_of_silent silent]
    exact ⟨le_rfl, fun j before => silent j (Nat.lt_of_succ_lt before)⟩

theorem complete_of_tells (configured : s.isAvailable = true) (within : i < maxAttempts)
    (first : ∀ j < i, (client j).tells = false) (tells : (client i).tells = true) :
    ∃ reply, (client i).result = .ok reply ∧ complete s client = .ok reply := by
  obtain ⟨reply, told, -⟩ := Answer.exists_reply_of_tells tells
  have made := congrArg Exchange.result (converse_of_tells within first tells)
  exact ⟨reply, told, complete_of_ok configured (made.trans told)⟩

theorem complete_of_blank (configured : s.isAvailable = true)
    (silent : ∀ i < maxAttempts, (client i).tells = false)
    (spoken : (client lastAttempt).raises = false) :
    ∃ reply, (client lastAttempt).result = .ok reply ∧ Text.isBlankText reply = true ∧
      complete s client = .ok reply := by
  obtain ⟨reply, told, blank⟩ := Answer.exists_blank (silent _ lastAttempt_lt) spoken
  have made := congrArg Exchange.result (converse_of_silent silent)
  exact ⟨reply, told, blank, complete_of_ok configured (made.trans told)⟩

theorem complete_of_outage (configured : s.isAvailable = true)
    (silent : ∀ i < maxAttempts, (client i).tells = false)
    (raised : (client lastAttempt).raises = true) :
    complete s client = .error (.narratorFailed maxAttempts) := by
  obtain ⟨reason, last⟩ := Answer.raises_iff.mp raised
  have made := congrArg Exchange.result (converse_of_silent silent)
  exact complete_of_error configured (made.trans last)

theorem complete_of_raised (configured : s.isAvailable = true)
    (raised : ∀ i < maxAttempts, (client i).raises = true) :
    complete s client = .error (.narratorFailed maxAttempts) := by
  apply complete_of_outage configured
  · intro i within
    exact Answer.silent_of_raises (raised i within)
  · exact raised _ lastAttempt_lt

/-- A call fails exactly if all replies before were blank and the last request fails. -/
theorem complete_fails_iff (configured : s.isAvailable = true) :
    (∃ failure, complete s client = .error failure) ↔
      (∀ i < maxAttempts, (client i).tells = false) ∧ (client lastAttempt).raises = true := by
  constructor
  · rintro ⟨failure, failed⟩
    rcases exists_first_or_silent client maxAttempts with ⟨i, within, first, tells⟩ | silent
    · obtain ⟨reply, -, replied⟩ := complete_of_tells configured within first tells
      exact nomatch replied.symm.trans failed
    · refine ⟨silent, ?_⟩
      by_contra spoken
      obtain ⟨reply, -, -, replied⟩ :=
        complete_of_blank configured silent (Bool.eq_false_iff.mpr spoken)
      exact nomatch replied.symm.trans failed
  · rintro ⟨silent, raised⟩
    exact ⟨_, complete_of_outage configured silent raised⟩

/-- A failure tells that every request failed, unless the last one failed after a blank reply. -/
theorem complete_fails_iff_raised_iff (configured : s.isAvailable = true) :
    ((∃ failure, complete s client = .error failure) ↔
        ∀ i < maxAttempts, (client i).raises = true) ↔
      ¬((∀ i < maxAttempts, (client i).tells = false) ∧ (client lastAttempt).raises = true ∧
        ∃ i < maxAttempts, (client i).raises = false) := by
  rw [complete_fails_iff configured]
  constructor
  · rintro same ⟨silent, last, i, within, spoken⟩
    exact nomatch spoken.symm.trans (same.mp ⟨silent, last⟩ i within)
  · intro usual
    constructor
    · rintro ⟨silent, last⟩ i within
      by_contra spoken
      exact usual ⟨silent, last, i, within, Bool.eq_false_iff.mpr spoken⟩
    · intro raised
      exact ⟨fun i within => Answer.silent_of_raises (raised i within), raised _ lastAttempt_lt⟩

end Calls

/-- A configured narrator makes three requests at most and none after a reply that is not blank. It gives
the first such reply, or else what the last request brings, so that it fails if every request does; and it
fails only then, unless the last request fails after nothing but failures and blank replies. -/
theorem complete_retries {s : Settings} (configured : s.isAvailable = true)
    (client : Nat → Answer) :
    ((converse client).requests ≤ maxAttempts ∧
      ∀ i, i + 1 < (converse client).requests → (client i).tells = false) ∧
    (∀ i < maxAttempts, (∀ j < i, (client j).tells = false) → (client i).tells = true →
      ∃ reply, (client i).result = .ok reply ∧ complete s client = .ok reply) ∧
    ((∀ i < maxAttempts, (client i).tells = false) → (client lastAttempt).raises = false →
      ∃ reply, (client lastAttempt).result = .ok reply ∧ Text.isBlankText reply = true ∧
        complete s client = .ok reply) ∧
    ((∀ i < maxAttempts, (client i).raises = true) →
      complete s client = .error (.narratorFailed maxAttempts)) ∧
    (((∃ failure, complete s client = .error failure) ↔
        ∀ i < maxAttempts, (client i).raises = true) ↔
      ¬((∀ i < maxAttempts, (client i).tells = false) ∧ (client lastAttempt).raises = true ∧
        ∃ i < maxAttempts, (client i).raises = false)) := by
  refine ⟨converse_requests client, ?_, ?_, ?_, complete_fails_iff_raised_iff configured⟩
  · intro i within first tells
    exact complete_of_tells configured within first tells
  · intro silent spoken
    exact complete_of_blank configured silent spoken
  · intro raised
    exact complete_of_raised configured raised

/-- A narrator with a key. -/
def withKey : Settings := { apiKey := some "key" }

/-- Answers one after another, and failures when they are used up. -/
def scripted (answers : List Answer) (n : Nat) : Answer := answers.getD n (.raised "unreachable")

def gust : List Answer := [.raised "timeout", .content none, .content (some "Gió nổi.")]

/-- After a failure and an empty reply the third request is told. -/
theorem gust_told : withKey.isAvailable = true ∧ complete withKey (scripted gust) = .ok "Gió nổi." := by
  have configured : withKey.isAvailable = true := by decide
  obtain ⟨-, told, -⟩ := complete_retries configured (scripted gust)
  obtain ⟨reply, brought, replied⟩ := told 2 (by decide) (by decide) (by decide)
  obtain rfl := Except.ok.inj brought
  exact ⟨configured, replied⟩

/-- An empty reply that is followed by failures is lost: the call fails though not every request did. -/
theorem blank_then_outage_fails :
    complete withKey (scripted [.content (some "")]) = .error (.narratorFailed maxAttempts) ∧
      (scripted [.content (some "")] 0).raises = false := by
  constructor <;> rfl

end Gamebook.Narrator
