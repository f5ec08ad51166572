import Outlays.Inquiry.Failure
import Outlays.Inquiry.Question

/-!
# Inquiries

A service is a tree of questions: it ends with a result or a refusal, or asks one question and
goes on from the answer. Running it against stores puts the questions in order and stops at the
first failure.

## Main definitions

* `Inquiry`, `Inquiry.ask`, `Inquiry.refuse`
* `Backend` — the stores, as a function of their state
* `Inquiry.run`, `Outcome` — the result, the state left behind and the questions asked

## Main results

* `Inquiry.run_bind` — running one inquiry after another
-/

namespace Outlays

/-- A computation that puts questions to the stores. -/
inductive Inquiry (α : Type) where
  | done (a : α)
  | refuse (why : Refusal)
  | ask (q : Question) (next : q.Answer → Inquiry α)

namespace Inquiry

/-- Goes on with another inquiry from the result of this one. -/
def bind {α β : Type} : Inquiry α → (α → Inquiry β) → Inquiry β
  | .done a, f => f a
  | .refuse why, _ => .refuse why
  | .ask q next, f => .ask q fun answer => (next answer).bind f

instance : Monad Inquiry where
  pure := .done
  bind := bind

/-- Puts one question. -/
def put (q : Question) : Inquiry q.Answer := .ask q .done

/-- Goes on with a value or ends with a refusal. -/
def ofExcept {α : Type} : Except Refusal α → Inquiry α
  | .ok a => .done a
  | .error why => .refuse why

end Inquiry

/-- The stores: what they answer in a state, and the state they are in afterwards. -/
structure Backend (σ : Type) where
  answer : (q : Question) → σ → Except Failure q.Answer × σ

/-- What a run leaves behind. -/
structure Outcome (σ α : Type) where
  result : Except Cause α
  state : σ
  /-- The questions asked, in order. -/
  asked : List Question

namespace Inquiry

/-- Puts the questions of an inquiry to the stores. The first failure ends it. -/
def run {σ α : Type} (b : Backend σ) : Inquiry α → σ → Outcome σ α
  | .done a, s => ⟨.ok a, s, []⟩
  | .refuse why, s => ⟨.error (.refused why), s, []⟩
  | .ask q next, s =>
    match b.answer q s with
    | (.ok answer, s) =>
      let o := run b (next answer) s
      { o with asked := q :: o.asked }
    | (.error how, s) => ⟨.error (.failed how), s, [q]⟩

variable {σ α β : Type} (b : Backend σ)

@[simp] theorem run_done (a : α) (s : σ) : run b (.done a) s = ⟨.ok a, s, []⟩ := rfl

@[simp] theorem run_refuse (why : Refusal) (s : σ) :
    run (α := α) b (.refuse why) s = ⟨.error (.refused why), s, []⟩ := rfl

/-- Running one inquiry after another: the second starts in the state that the first leaves, and
their questions follow each other. -/
theorem run_bind (x : Inquiry α) (f : α → Inquiry β) (s : σ) :
    run b (x.bind f) s =
      match (run b x s).result with
      | .ok a =>
        let o := run b (f a) (run b x s).state
        { o with asked := (run b x s).asked ++ o.asked }
      | .error c => ⟨.error c, (run b x s).state, (run b x s).asked⟩ := by
  induction x generalizing s with
  | done a => simp [bind]
  | refuse why => simp [bind]
  | ask q next ih =>
    simp only [bind, run]
    cases h : b.answer q s with
    | mk r s' =>
      cases r with
      | error how => simp
      | ok answer =>
        simp only [ih]
        cases hr : (run b (next answer) s').result <;> simp

end Inquiry

end Outlays
