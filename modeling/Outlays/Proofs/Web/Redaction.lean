import Outlays.Memory.Sample
import Outlays.Proofs.Inquiry.Failures
import Outlays.Proofs.Web.Visits

/-!
# What clients do not see

The words of a store that rejects a question can tell how it is asked, and where. They are for those
who run the service, and no client sees them. That is a fact about two services at once: where the
stores of the one fail, those of the other fail in the same way and perhaps in other words, and
whatever a client asks, it cannot tell which of the two it talks to. The two go through the same
stages side by side, so a relation between the states of their stores carries the argument, and the
words are lost where a fault inside becomes a response.

## Main definitions

* `Failure.Alike`, `Cause.Alike` — failures that differ in their words at most, and only inside
* `SameUpTo` — the same results, or errors that are alike
* `Backend.Alike` — stores that fail alike, by a relation between their states

## Main results

* `WebResponse.ofFault_eq` — faults inside look the same
* `Job.next_alike`, `Job.steps_alike` — two jobs side by side
* `Service.response_eq_of_alike` — no client sees the words of a failure inside
-/

namespace Outlays

/-! ## Alike -/

/-- The failures are the same, up to the words of one inside. -/
inductive Failure.Alike : Failure → Failure → Prop where
  | same (how : Failure) : Alike how how
  | rejected (store : Store) (words words' : String) :
      Alike (.rejected store words) (.rejected store words')
  | garbled (words words' : String) : Alike (.garbled words) (.garbled words')

/-- The causes are the same, up to the words of a failure inside. -/
inductive Cause.Alike : Cause → Cause → Prop where
  | refused (why : Refusal) : Alike (.refused why) (.refused why)
  | failed {how how' : Failure} (h : how.Alike how') : Alike (.failed how) (.failed how')

/-- The results are the same, or both are errors, and these are related. -/
inductive SameUpTo {ε α : Type} (related : ε → ε → Prop) : Except ε α → Except ε α → Prop where
  | ok (a : α) : SameUpTo related (.ok a) (.ok a)
  | error {e e' : ε} (h : related e e') : SameUpTo related (.error e) (.error e')

/-- In related states the stores give the same answers, or fail alike, and their states stay
related. -/
def Backend.Alike {σ τ : Type} (b : Backend σ) (b' : Backend τ) (R : σ → τ → Prop) : Prop :=
  ∀ q s t, R s t →
    SameUpTo Failure.Alike (b.answer q s).1 (b'.answer q t).1 ∧
      R (b.answer q s).2 (b'.answer q t).2

namespace Backend

variable {σ : Type}

/-- The stores, with other words for their failures. -/
def reworded (b : Backend σ) (reword : Failure → Failure) : Backend σ where
  answer q s := ((b.answer q s).1.mapError reword, (b.answer q s).2)

/-- Other words for failures inside make no difference but in the words. -/
theorem alike_reworded (b : Backend σ) {reword : Failure → Failure}
    (h : ∀ how : Failure, how.Alike (reword how)) : b.Alike (b.reworded reword) Eq := by
  rintro q s _ rfl
  refine ⟨?_, rfl⟩
  simp only [reworded]
  cases (b.answer q s).1 with
  | ok answer => exact .ok answer
  | error how => exact .error (h how)

end Backend

/-! ## Faults -/

/-- A fault inside is shown with its identifier only. -/
theorem Fault.redacted_of_internalError (scope : Scope) {f : Fault} (h : f.code = .internalError) :
    f.redacted scope =
      (f.trace.elim id fun trace shown => shown.withTrace trace)
        (make scope .internalError FaultCode.internalError.fallback) := by
  rw [redacted, h]
  cases f.trace <;> rfl

/-- Two faults inside with the same identifier look the same, whatever their messages and their
details. -/
theorem WebResponse.ofFault_eq (scope : Scope) {f g : Fault} (hf : f.code = .internalError)
    (hg : g.code = .internalError) (htrace : f.trace = g.trace) :
    ofFault scope f = ofFault scope g := by
  have hshown : f.redacted scope = g.redacted scope := by
    rw [Fault.redacted_of_internalError scope hf, Fault.redacted_of_internalError scope hg, htrace]
  rw [ofFault, ofFault, hshown, hf, hg, htrace]

/-- Causes that are alike look the same. -/
theorem Cause.Alike.ofFault_eq {cause cause' : Cause} (h : cause.Alike cause') (scope : Scope) :
    WebResponse.ofFault scope (cause.fault scope) =
      WebResponse.ofFault scope (cause'.fault scope) := by
  cases h with
  | refused why => rfl
  | @failed how how' h =>
    have htrace : ((Cause.failed how).fault scope).trace =
        ((Cause.failed how').fault scope).trace := by
      rw [Cause.trace_fault, Cause.trace_fault]
    cases h with
    | same => rfl
    | rejected store words words' =>
      exact WebResponse.ofFault_eq scope (Cause.code_fault _ _) (Cause.code_fault _ _) htrace
    | garbled words words' =>
      exact WebResponse.ofFault_eq scope (Cause.code_fault _ _) (Cause.code_fault _ _) htrace

/-! ## Side by side -/

section SideBySide

variable {σ τ α : Type} {b : Backend σ} {b' : Backend τ} {R : σ → τ → Prop} {s : σ} {t : τ}

/-- The same inquiry ends alike, and leaves states that are related. -/
theorem Inquiry.run_alike (h : b.Alike b' R) (x : Inquiry α) (hst : R s t) :
    SameUpTo Cause.Alike (x.run b s).result (x.run b' t).result ∧
      R (x.run b s).state (x.run b' t).state := by
  -- Both are given the same answer and go down the same branch, or both end here.
  induction x generalizing s t with
  | done a => exact ⟨.ok a, hst⟩
  | refuse why => exact ⟨.error (.refused why), hst⟩
  | ask q next ih =>
    have hq := h q s t hst
    simp only [run]
    cases hanswer : b.answer q s with
    | mk r s' =>
      cases hanswer' : b'.answer q t with
      | mk r' t' =>
        rw [hanswer, hanswer'] at hq
        obtain ⟨hsame, hnext⟩ := hq
        cases hsame with
        | ok answer => exact ih answer hnext
        | error hhow => exact ⟨.error (.failed hhow), hnext⟩

namespace Job

/-- One step of the same job from the same stage comes to the same stage. -/
theorem next_alike (h : b.Alike b' R) (job : Job) (stage : Stage) (hst : R s t) :
    (job.next b stage s).stage = (job.next b' stage t).stage ∧
      R (job.next b stage s).state (job.next b' stage t).state := by
  cases stage with
  | look =>
    obtain ⟨hsame, hnext⟩ := h (.cacheGet job.key) s t hst
    rw [next_look_stage, next_look_stage, next_look_state, next_look_state]
    refine ⟨?_, hnext⟩
    -- A cache that fails is passed over, whatever its words.
    generalize (b.answer (.cacheGet job.key) s).1 = found at hsame
    generalize (b'.answer (.cacheGet job.key) t).1 = found' at hsame
    cases hsame with
    | ok found => rfl
    | error _ => rfl
  | compute =>
    obtain ⟨hsame, hnext⟩ := job.inquiry.run_alike h hst
    rw [next_compute_stage, next_compute_stage, next_compute_state, next_compute_state]
    refine ⟨?_, hnext⟩
    generalize (job.inquiry.run b s).result = result at hsame
    generalize (job.inquiry.run b' t).result = result' at hsame
    cases hsame with
    | ok json => rfl
    | error halike => exact congrArg Stage.done (halike.ofFault_eq job.scope)
  | store body =>
    obtain ⟨hsame, hnext⟩ := h (.cachePut job.key body) s t hst
    rw [next_store_stage, next_store_stage, next_store_state, next_store_state]
    refine ⟨?_, hnext⟩
    generalize (b.answer (.cachePut job.key body) s).1 = put at hsame
    generalize (b'.answer (.cachePut job.key body) t).1 = put' at hsame
    cases hsame with
    | ok _ => rfl
    | error _ => rfl
  | done response => exact ⟨rfl, hst⟩

/-- So do any number of steps. -/
theorem steps_alike (h : b.Alike b' R) (job : Job) (n : ℕ) (stage : Stage) (hst : R s t) :
    (job.steps b n stage s).stage = (job.steps b' n stage t).stage := by
  induction n generalizing stage s t with
  | zero => rfl
  | succ n ih =>
    obtain ⟨hstage, hnext⟩ := next_alike h job stage hst
    simp only [steps]
    rw [← hstage]
    exact ih _ hnext

end Job

namespace Service

/-- A request to an endpoint is served alike. -/
theorem atEndpoint_eq_of_alike (h : b.Alike b' R) (c : Circumstances) (health : Health)
    (scope : Scope) (r : WebRequest) (e : Endpoint) (captures : List String) (hst : R s t) :
    (atEndpoint ⟨c, b⟩ health scope r e captures s).response =
      (atEndpoint ⟨c, b'⟩ health scope r e captures t).response := by
  unfold atEndpoint
  split
  · rfl
  · rfl
  · split
    · rfl
    · cases e.call captures r.query r.body with
      | error why => rfl
      | ok found =>
        cases found with
        | none => rfl
        | some call =>
          have hstage := Job.steps_alike h ⟨r.key e, call.inquiry c, scope⟩ 3 .look hst
          exact congrArg responseOf hstage

/-- A request outside of the trace is served alike. -/
theorem untraced_eq_of_alike (h : b.Alike b' R) (c : Circumstances) (health : Health)
    (scope : Scope) (r : WebRequest) (hst : R s t) :
    (untraced ⟨c, b⟩ health scope r s).response =
      (untraced ⟨c, b'⟩ health scope r t).response := by
  unfold untraced
  cases findRoute? r.method r.path with
  | none => rfl
  | some found => exact atEndpoint_eq_of_alike h c health scope r found.1 found.2 hst

/-- No client sees the words of a failure inside. Services that know the same, with stores that fail
alike, give the same response to every request; and any two faults inside with the same identifier
are told in the same response, whatever their messages and their details. -/
theorem response_eq_of_alike (h : b.Alike b' R) (hst : R s t) (c : Circumstances) (health : Health)
    (trace : Option Uuid) (r : WebRequest) :
    (serve ⟨c, b⟩ health trace r s).response = (serve ⟨c, b'⟩ health trace r t).response ∧
      ∀ (scope : Scope) (f g : Fault), f.code = .internalError → g.code = .internalError →
        f.trace = g.trace → WebResponse.ofFault scope f = WebResponse.ofFault scope g := by
  constructor
  · cases trace with
    | none => exact untraced_eq_of_alike h c health none r hst
    | some id =>
      simp only [serve]
      rw [untraced_eq_of_alike h c health (some id.render) r hst]
  · intro scope f g hf hg htrace
    exact WebResponse.ofFault_eq scope hf hg htrace

end Service

end SideBySide

/-! ## A register that rejects a question -/

/-- The failure without its words, where it is one inside. -/
def Failure.wordless : Failure → Failure
  | .rejected store _ => .rejected store ""
  | .garbled _ => .garbled ""
  | how => how

theorem Failure.alike_wordless (how : Failure) : how.Alike how.wordless := by
  cases how with
  | rejected store words => exact .rejected store words ""
  | garbled words => exact .garbled words ""
  | _ => exact .same _

/-- Stores whose register of recipients rejects every question about a profile. -/
def rejectingBackend : Backend Memory :=
  Memory.backend {} fun
    | .profileExists _ => some (.rejected .recipients "password expired for reader@registry")
    | _ => none

/-- The overview of a recipient is asked for. -/
def overviewRequest : WebRequest :=
  .ofTarget "GET" "/api/v2/recipient/11111111-1111-1111-1111-111111111111-P/?year=all" []

/-- The client is told that something is wrong inside, and could not tell it from a failure without
any words. -/
theorem response_eq_of_alike_wordless :
    let v : Service Memory := ⟨.sample, rejectingBackend⟩
    let wordless : Service Memory := ⟨.sample, rejectingBackend.reworded Failure.wordless⟩
    (v.serve {} none overviewRequest {}).response.status = 500 ∧
      (v.serve {} none overviewRequest {}).response =
        (wordless.serve {} none overviewRequest {}).response ∧
      WebResponse.ofFault none ⟨.internalError, "password expired", none, some (.bool true)⟩ =
        WebResponse.ofFault none ⟨.internalError, "", none, none⟩ := by
  have halike := rejectingBackend.alike_reworded Failure.alike_wordless
  obtain ⟨hresponse, hfaults⟩ :=
    Service.response_eq_of_alike halike rfl .sample {} none overviewRequest
  exact ⟨by decide +kernel, hresponse, hfaults none _ _ rfl rfl rfl⟩

end Outlays
