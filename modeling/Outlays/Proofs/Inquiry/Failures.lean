import Outlays.Proofs.Inquiry.Refusals

/-!
# The first failure ends a run

Whoever keeps an account of the stores sees the questions that are put to them, and what they make
of each: an answer or a failure. That account says how the run ends. As long as all is answered, the
service comes to a result, or turns the request down. Once a question fails, it is the last one, and
what the client is told is that failure in its own words: no failure is passed over, no question is
put again, and nothing is made of the answers that came before.

## Main definitions

* `Attempt`, `Backend.attempts` — questions with what the stores make of them
* `Inquiry.Ends` — how a run ends, by what has been answered
* `Failure.Tells` — what a client is told of a failure

## Main results

* `Inquiry.ends_run` — the end of a run
* `Inquiry.RefusesClient.result` — the result of a run in which no question fails
* `Call.ends_with_first_failure` — what a call comes to
-/

namespace Outlays

/-! ## Attempts -/

/-- A question with what the stores make of it. -/
abbrev Attempt := (q : Question) × Except Failure q.Answer

/-- The question is answered. -/
def Attempt.IsAnswered (a : Attempt) : Prop := ∃ answer, a.2 = .ok answer

/-- The attempt of a question that is answered. -/
def Answered.attempt (a : Answered) : Attempt := ⟨a.1, .ok a.2⟩

theorem Answered.isAnswered_attempt (a : Answered) : a.attempt.IsAnswered := ⟨a.2, rfl⟩

theorem Attempt.not_isAnswered_error (q : Question) (how : Failure) :
    ¬ IsAnswered ⟨q, .error how⟩ := by
  rintro ⟨answer, h⟩
  cases h

namespace Backend

variable {σ : Type} (b : Backend σ)

/-- What the stores make of questions that are put to them in this order, whether they fail or
not. -/
def attempts : List Question → σ → List Attempt
  | [], _ => []
  | q :: rest, s => ⟨q, (b.answer q s).1⟩ :: attempts rest (b.answer q s).2

/-- The state in which questions leave the stores. -/
def after (questions : List Question) (s : σ) : σ :=
  questions.foldl (fun s q => (b.answer q s).2) s

/-- What comes of more questions depends on the state that the first ones leave. -/
theorem attempts_append (first rest : List Question) (s : σ) :
    b.attempts (first ++ rest) s = b.attempts first s ++ b.attempts rest (b.after first s) := by
  induction first generalizing s with
  | nil => rfl
  | cons q first ih => simp only [List.cons_append, attempts, ih, after, List.foldl_cons]

end Backend

/-! ## Ends of runs -/

namespace Inquiry

variable {σ α : Type} {b : Backend σ}

/-- How a run ends whose transcript is the log: with a result or a refusal, once all questions have
been answered, or with the failure of one more question. -/
inductive Ends (log : List Answered) : List Attempt → Except Cause α → Prop where
  | done (a : α) : Ends log (log.map Answered.attempt) (.ok a)
  | refused (why : Refusal) : Ends log (log.map Answered.attempt) (.error (.refused why))
  | failed (q : Question) (how : Failure) :
      Ends log (log.map Answered.attempt ++ [⟨q, .error how⟩]) (.error (.failed how))

/-- One more answer in front changes nothing about the end. -/
theorem Ends.cons {log : List Answered} {attempts : List Attempt} {r : Except Cause α}
    (h : Ends log attempts r) (a : Answered) : Ends (a :: log) (a.attempt :: attempts) r := by
  cases h with
  | done c => exact .done c
  | refused why => exact .refused why
  | failed q how => exact .failed q how

/-- The questions that a run puts, with what the stores make of them, say how it ends. -/
theorem ends_run (x : Inquiry α) (s : σ) :
    Ends (x.transcript b s) (b.attempts (x.run b s).asked s) (x.run b s).result := by
  -- By induction on the inquiry: an answer goes on record and the run goes on, a failure ends both.
  induction x generalizing s with
  | done a => exact .done a
  | refuse why => exact .refused why
  | ask q next ih =>
    simp only [run, transcript]
    cases hanswer : b.answer q s with
    | mk answer s' =>
      cases answer with
      | ok answer =>
        simp only [Backend.attempts, hanswer]
        exact (ih answer s').cons ⟨q, answer⟩
      | error how =>
        simp only [Backend.attempts, hanswer]
        exact .failed q how

/-- A run leaves the stores where its questions leave them. -/
theorem state_run (x : Inquiry α) (s : σ) : (x.run b s).state = b.after (x.run b s).asked s := by
  induction x generalizing s with
  | done a => rfl
  | refuse why => rfl
  | ask q next ih =>
    simp only [run, Backend.after]
    cases hanswer : b.answer q s with
    | mk answer s' =>
      cases answer with
      | ok answer => simpa only [List.foldl_cons, hanswer, Backend.after] using ih answer s'
      | error how => simp only [List.foldl_cons, List.foldl_nil, hanswer]

namespace Ends

variable {log : List Answered} {attempts : List Attempt} {r : Except Cause α}

/-- A question that fails is the last one, and the run ends with its failure. -/
theorem of_failure (h : Ends log attempts r) {before after : List Attempt} {q : Question}
    {how : Failure} (hsplit : attempts = before ++ ⟨q, .error how⟩ :: after) :
    after = [] ∧ r = .error (.failed how) := by
  -- No failure is among the questions of the log.
  have hlog (rest : List Attempt) :
      log.map Answered.attempt ≠ before ++ ⟨q, .error how⟩ :: rest := by
    intro heq
    have hmem : ⟨q, .error how⟩ ∈ log.map Answered.attempt := by
      rw [heq]
      exact List.mem_append_right _ List.mem_cons_self
    obtain ⟨a, -, ha⟩ := List.mem_map.mp hmem
    exact Attempt.not_isAnswered_error q how (ha ▸ a.isAnswered_attempt)
  cases h with
  | done a => exact absurd hsplit (hlog after)
  | refused why => exact absurd hsplit (hlog after)
  | failed q' how' =>
    -- The attempt that failed is the last one of all, so it is the one that the list is split at.
    rcases List.eq_nil_or_concat after with rfl | ⟨rest, last, rfl⟩
    · obtain ⟨-, hlast⟩ := List.append_inj' hsplit rfl
      obtain ⟨rfl, hhow⟩ := Sigma.mk.inj (List.cons.inj hlast).1
      obtain rfl := Except.error.inj (eq_of_heq hhow)
      exact ⟨rfl, rfl⟩
    · rw [List.concat_eq_append, ← List.cons_append, ← List.append_assoc] at hsplit
      exact absurd (List.append_inj' hsplit rfl).1 (hlog rest)

/-- Where all questions are answered, the run ends with a result or a refusal. -/
theorem of_isAnswered (h : Ends log attempts r) (hall : ∀ a ∈ attempts, a.IsAnswered) :
    attempts = log.map Answered.attempt ∧
      ((∃ a, r = .ok a) ∨ ∃ why, r = .error (.refused why)) := by
  cases h with
  | done a => exact ⟨rfl, .inl ⟨a, rfl⟩⟩
  | refused why => exact ⟨rfl, .inr ⟨why, rfl⟩⟩
  | failed q how =>
    have hlast := hall ⟨q, .error how⟩ (List.mem_append_right _ List.mem_cons_self)
    exact absurd hlast (Attempt.not_isAnswered_error q how)

end Ends

/-- An inquiry in which no question fails comes to a result, or to a refusal that blames the client,
unless it is given an answer that it cannot go on from. -/
theorem RefusesClient.result {x : Inquiry α} (hx : x.RefusesClient) {s : σ}
    (hall : ∀ a ∈ b.attempts (x.run b s).asked s, a.IsAnswered) :
    (∃ a, (x.run b s).result = .ok a) ∨
      ∃ why, (x.run b s).result = .error (.refused why) ∧
        (why.OfClient ∨
          ∃ a : Answered, a.attempt ∈ b.attempts (x.run b s).asked s ∧ ¬ a.Fair) := by
  obtain ⟨hattempts, hdone | ⟨why, hwhy⟩⟩ := (ends_run x s).of_isAnswered hall
  · exact .inl hdone
  · refine .inr ⟨why, hwhy, (hx.of_run hwhy).imp_right ?_⟩
    rintro ⟨a, ha, hunfair⟩
    rw [hattempts]
    exact ⟨a, List.mem_map_of_mem ha, hunfair⟩

end Inquiry

/-! ## What a client is told -/

theorem Text.isBlankText_append (s t : String) :
    isBlankText (s ++ t) = (isBlankText s && isBlankText t) := by
  rw [isBlankText, String.toList_append, List.all_append]
  rfl

/-- A fault is made with its code and the identifier in scope, and perhaps with other words. -/
theorem Fault.exists_make_eq (scope : Scope) (code : FaultCode) (message : String) :
    ∃ words, make scope code message = ⟨code, words, scope, none⟩ := by
  by_cases hblank : Text.isBlankText message = true
  · exact ⟨code.fallback, by simp only [make, make?, hblank, if_true]⟩
  · exact ⟨message, by simp only [make, make?, hblank, if_false, Bool.false_eq_true]⟩

/-- Neither the code nor the identifier depends on the words and the details. -/
theorem Cause.exists_fault_eq (scope : Scope) (c : Cause) :
    ∃ words details, c.fault scope = ⟨c.code, words, scope, details⟩ := by
  obtain ⟨words, hmake⟩ := Fault.exists_make_eq scope c.code c.message
  simp only [fault, hmake]
  cases c.details? with
  | none => exact ⟨words, none, rfl⟩
  | some details => exact ⟨words, some details, rfl⟩

@[simp] theorem Cause.code_fault (scope : Scope) (c : Cause) : (c.fault scope).code = c.code := by
  obtain ⟨words, details, h⟩ := c.exists_fault_eq scope
  rw [h]

@[simp] theorem Cause.trace_fault (scope : Scope) (c : Cause) : (c.fault scope).trace = scope := by
  obtain ⟨words, details, h⟩ := c.exists_fault_eq scope
  rw [h]

namespace Failure

/-- The store cannot be reached, or is late. -/
def MayPass (how : Failure) : Prop :=
  (∃ store words, how = .unreachable store words) ∨ ∃ words, how = .late words

/-- The store rejects the question, or answers something that makes no sense. -/
def IsInside (how : Failure) : Prop :=
  (∃ store words, how = .rejected store words) ∨ ∃ words, how = .garbled words

/-- What a client is told of a failure: its words, under a code that says whether it may pass. -/
structure Tells (how : Failure) (f : Fault) : Prop where
  message : f.message = how.message
  unavailable : how.MayPass → f.code = .serviceUnavailable
  internal : how.IsInside → f.code = .internalError
  details : f.details = none

/-- The text of a failure names what has failed, whatever its words. -/
theorem isBlankText_message (how : Failure) : Text.isBlankText how.message = false := by
  have hfront (front words : String) (h : Text.isBlankText front = false) :
      Text.isBlankText (front ++ words) = false := by
    rw [Text.isBlankText_append, h, Bool.false_and]
  cases how with
  | unreachable store words =>
    exact hfront (store.name ++ " connection failed: ") words (by cases store <;> decide)
  | rejected store words =>
    exact hfront (store.name ++ " query failed: ") words (by cases store <;> decide)
  | late words => exact hfront "transaction search timed out: " words (by decide)
  | garbled words => exact hfront "transaction search response invalid: " words (by decide)
  | cache words => exact hfront "response cache backend failure: " words (by decide)

/-- What a client is told of a failure comes from the failure as it is. -/
theorem fault_eq (how : Failure) (scope : Scope) :
    (Cause.failed how).fault scope = ⟨how.code, how.message, scope, none⟩ := by
  simp only [Cause.fault, Cause.details?, Cause.code, Cause.message, Fault.make, Fault.make?,
    how.isBlankText_message, Bool.false_eq_true, if_false]

theorem tells_fault (how : Failure) (scope : Scope) :
    how.Tells ((Cause.failed how).fault scope) := by
  rw [how.fault_eq]
  refine ⟨rfl, ?_, ?_, rfl⟩
  · rintro (⟨store, words, rfl⟩ | ⟨words, rfl⟩) <;> rfl
  · rintro (⟨store, words, rfl⟩ | ⟨words, rfl⟩) <;> rfl

end Failure

/-- What a call comes to, by what the stores make of its questions. Once a question fails, it is the
last one, and the client is told of the failure in its own words. As long as all is answered, the
call comes to a result, or to a refusal that blames the client, unless the last monthly window that
has closed names no month. -/
theorem Call.ends_with_first_failure {σ : Type} (b : Backend σ) (c : Circumstances) (call : Call)
    (scope : Scope) (s : σ) :
    let o := (call.inquiry c).run b s
    (∀ before q how after, b.attempts o.asked s = before ++ ⟨q, .error how⟩ :: after →
      after = [] ∧ o.result = .error (.failed how) ∧
        how.Tells ((Cause.failed how).fault scope)) ∧
    ((∀ a ∈ b.attempts o.asked s, a.IsAnswered) →
      (∃ json, o.result = .ok json) ∨
      ∃ why, o.result = .error (.refused why) ∧
        (((Cause.refused why).fault scope).code.OfClient ∨
          ((Cause.refused why).fault scope).code = .internalError ∧
            ∃ (now : Instant) (closed : ClosedPeriods) (window : ClosedPeriod),
              ⟨.closedPeriods now, .ok closed⟩ ∈ b.attempts o.asked s ∧
              closed.monthly = some window ∧
              ¬ (0 ≤ window.period ∧ window.period ≤ uint8Max))) := by
  intro o
  constructor
  · intro before q how after hsplit
    obtain ⟨hafter, hresult⟩ := (Inquiry.ends_run (call.inquiry c) s).of_failure hsplit
    exact ⟨hafter, hresult, how.tells_fault scope⟩
  · intro hall
    obtain hdone | ⟨why, hwhy, hblame⟩ := (call.refusesClient_inquiry c).result hall
    · exact .inl hdone
    refine .inr ⟨why, hwhy, ?_⟩
    rw [Cause.code_fault, Cause.code]
    by_cases hclient : why.OfClient
    · exact .inl hclient
    -- The client is not to blame, so the run has come upon a window that names no month.
    · obtain ⟨a, ha, hunfair⟩ := hblame.resolve_left hclient
      obtain ⟨now, closed, window, rfl, hwindow, hperiod⟩ := Answered.exists_of_not_fair hunfair
      exact .inr ⟨Refusal.code_of_not_ofClient hclient, now, closed, window, ha, hwindow, hperiod⟩

end Outlays
