import Mathlib.Logic.Function.Basic
import Outlays.Memory.Sample
import Outlays.Proofs.Inquiry.Questions
import Outlays.Proofs.Web.Visits

/-!
# Where cached responses come from

Any number of visits share the stores, and their steps come in any order. Between the steps the
stores may change on their own: data come and go, entries of the response cache expire, and parts
begin to fail or recover. One thing does not happen: no entry comes into the cache but by being put
there.

A run carries along what has happened so far. From the cache alone one could not tell who computed
an entry; from the record one can. Every entry goes back to a computation for a request with its
fingerprint, since a body is put only by a job that has just computed it, and hence so does every
body that is found.

## Main definitions

* `Backend.Caches` — what is asked of a response cache
* `Traffic.Run` — interleaved steps of visits, with a record of what happened
* `Traffic.ComputedFor` — the record has a computation of a body for a fingerprint
* `Traffic.Accounted` — what the record says of the entries and of the responses

## Main results

* `Traffic.Run.account` — the record of each visit is the account of its job
* `Traffic.Run.computedFor_of_holds`, `Traffic.Run.computedFor_of_hit` — the invariants of the cache
* `Traffic.Run.accounted` — the state of affairs in every run
-/

namespace Outlays

variable {σ : Type}

/-! ## Response caches -/

/-- The entries of a response cache, as far as they can be found or come into being: what is found
is held, and nothing comes to be held but the body that is put, under its own key. A cache may
forget at any time, and it may keep a body also where it fails to confirm that. -/
structure Backend.Caches (b : Backend σ) (Holds : σ → CacheKey → List UInt8 → Prop) : Prop where
  holds_of_get {key : CacheKey} {body : List UInt8} {s : σ} :
    (b.answer (.cacheGet key) s).1 = .ok (some body) → Holds s key body
  holds_of_answer {q : Question} {s : σ} {key : CacheKey} {body : List UInt8} :
    (∀ key body, q ≠ .cachePut key body) → Holds (b.answer q s).2 key body → Holds s key body
  holds_of_put {key key' : CacheKey} {body body' : List UInt8} {s : σ} :
    Holds (b.answer (.cachePut key body) s).2 key' body' →
      Holds s key' body' ∨ key' = key ∧ body' = body

/-- Questions of data bring nothing into the cache. -/
theorem Backend.Caches.holds_of_run {b : Backend σ} {Holds : σ → CacheKey → List UInt8 → Prop}
    (cache : b.Caches Holds) {α : Type} {x : Inquiry α} (hx : x.Asks Question.OfData) {s : σ}
    {key : CacheKey} {body : List UInt8} (h : Holds (x.run b s).state key body) :
    Holds s key body := by
  have hstep : ∀ q s', Question.OfData q → (Holds s' key body → Holds s key body) →
      (Holds (b.answer q s').2 key body → Holds s key body) := by
    intro q s' hq hs' hholds
    refine hs' (cache.holds_of_answer ?_ hholds)
    rintro _ _ rfl
    exact hq
  exact hx.invariant_run hstep id h

/-- The response that stores in memory hold under a key. -/
def Memory.Keeps (m : Memory) (key : CacheKey) (body : List UInt8) : Prop :=
  m.cached.get? key = some body

/-- Stores in memory are a response cache, whatever is made to fail. -/
theorem Memory.caches_backend (use : MemoryUse) (outage : Question → Option Failure)
    (hcaches : use.caches = true) : (backend use outage).Caches Keeps where
  holds_of_get := by
    intro key body m h
    simp only [backend] at h
    split at h
    · cases h
    · simpa [respond, hcaches, Keeps] using h
  holds_of_answer := by
    intro q m key body hq h
    have hcached : ((backend use outage).answer q m).2.cached = m.cached := by
      simp only [backend]
      split
      · rfl
      · cases q with
        | cachePut key body => exact absurd rfl (hq key body)
        | countTransactions filters =>
          simp only [respond]
          split <;> rfl
        | recipientTotals filters grouping =>
          simp only [respond]
          split <;> rfl
        | _ => rfl
    rwa [Keeps, hcached] at h
  holds_of_put := by
    intro key key' body body' m h
    simp only [backend] at h
    split at h
    · exact .inl h
    · simp only [Keeps, respond, hcaches, if_true, Keyed.get?_put] at h
      split at h
      · next hkey => exact .inr ⟨hkey.symm, (Option.some.inj h).symm⟩
      · exact .inl h

/-! ## Interleaved visits -/

namespace Traffic

variable {ι : Type}

section Record

variable (visits : ι → Visit)

/-- The record has a computation that ended in the body, for a request with the fingerprint. -/
def ComputedFor (log : List (ι × JobEvent)) (key : CacheKey) (body : List UInt8) : Prop :=
  ∃ j json, (visits j).key = key ∧ (j, .computed (.ok json)) ∈ log ∧ body = json.renderBytes

theorem ComputedFor.mono {visits : ι → Visit} {log later : List (ι × JobEvent)} {key : CacheKey}
    {body : List UInt8} (h : ComputedFor visits log key body) :
    ComputedFor visits (later ++ log) key body := by
  obtain ⟨j, json, hkey, hmem, hbody⟩ := h
  exact ⟨j, json, hkey, List.mem_append_right later hmem, hbody⟩

end Record

/-- What is found in the record after a step was found by that step, or it was in the record
before. -/
theorem found_of_step {b : Backend σ} {job : Job} {stage : Stage} {s : σ} {i j : ι}
    {answer : Except Failure (Option (List UInt8))} {log later before : List (ι × JobEvent)}
    (h : (job.events b stage s).map (j, ·) ++ log = later ++ (i, .found answer) :: before) :
    (j = i ∧ (b.answer (.cacheGet job.key) s).1 = answer ∧ log = before) ∨
      ∃ later', log = later' ++ (i, .found answer) :: before := by
  obtain hnone | ⟨e, hone⟩ := job.events_eq_nil_or_singleton b stage s
  · rw [hnone] at h
    exact .inr ⟨later, h⟩
  · rw [hone, List.map_singleton, List.singleton_append] at h
    obtain ⟨-, hrecord⟩ | ⟨later', -, hlog⟩ := List.cons_eq_append_iff.mp h
    · obtain ⟨hevent, hbefore⟩ := List.cons.inj hrecord
      obtain ⟨hvisit, hfound⟩ := Prod.mk.inj hevent
      have hmem : .found answer ∈ job.events b stage s := by
        rw [hone, hfound]
        exact List.mem_singleton_self _
      exact .inl ⟨hvisit.symm, Job.answer_of_found_mem_events hmem, hbefore.symm⟩
    · exact .inr ⟨later', hlog⟩

variable [DecidableEq ι]

/-- What happened to one visit, the last event first. -/
def own (log : List (ι × JobEvent)) (i : ι) : List JobEvent :=
  (log.filter fun e => e.1 = i).map (·.2)

theorem mem_own_iff {log : List (ι × JobEvent)} {i : ι} {e : JobEvent} :
    e ∈ own log i ↔ (i, e) ∈ log := by
  simp only [own, List.mem_map, List.mem_filter, decide_eq_true_eq]
  constructor
  · rintro ⟨⟨j, e⟩, ⟨hmem, rfl⟩, rfl⟩
    exact hmem
  · intro hmem
    exact ⟨(i, e), ⟨hmem, rfl⟩, rfl⟩

theorem own_map_append {log : List (ι × JobEvent)} {i j : ι} {events : List JobEvent} :
    own (events.map (i, ·) ++ log) j = if i = j then events ++ own log j else own log j := by
  by_cases h : i = j
  · subst h
    simp [own, List.filter_map, Function.comp_def]
  · simp [own, List.filter_map, Function.comp_def, h]

/-- Any interleaving of the steps of visits, from a cache without entries: how far each visit has
come, the state of the stores, and what has happened, the last event first. The stores may change
between two steps, but no entry comes into the cache that way. -/
inductive Run (b : Backend σ) (Holds : σ → CacheKey → List UInt8 → Prop) (visits : ι → Visit) :
    (ι → Stage) → σ → List (ι × JobEvent) → Prop where
  | start {s : σ} (empty : ∀ key body, ¬ Holds s key body) :
      Run b Holds visits (fun _ => .look) s []
  | step {stages : ι → Stage} {s : σ} {log : List (ι × JobEvent)} (i : ι)
      (run : Run b Holds visits stages s log) :
      Run b Holds visits
        (Function.update stages i ((visits i).job.next b (stages i) s).stage)
        ((visits i).job.next b (stages i) s).state
        (((visits i).job.events b (stages i) s).map (i, ·) ++ log)
  | drift {stages : ι → Stage} {s s' : σ} {log : List (ι × JobEvent)}
      (run : Run b Holds visits stages s log)
      (kept : ∀ key body, Holds s' key body → Holds s key body) : Run b Holds visits stages s' log

namespace Run

variable {b : Backend σ} {Holds : σ → CacheKey → List UInt8 → Prop} {visits : ι → Visit}
  {stages : ι → Stage} {s : σ} {log : List (ι × JobEvent)}

/-- The record of each visit is the account of its job: the steps of the others leave it alone. -/
theorem account (run : Run b Holds visits stages s log) (i : ι) :
    (visits i).job.Account (stages i) (own log i) := by
  induction run with
  | start empty => exact .look
  | @step stages s log j run ih =>
    rw [own_map_append]
    -- Its own step goes on with the account, and a step of another leaves stage and record as is.
    by_cases hj : j = i
    · subst hj
      rw [Function.update_self, if_pos rfl]
      exact ih.next b s
    · rw [Function.update_of_ne (Ne.symm hj), if_neg hj]
      exact ih
  | drift run kept ih => exact ih

/-- A body that is about to be put has been computed by the same visit. -/
theorem computed_of_store (run : Run b Holds visits stages s log) {i : ι} {body : List UInt8}
    (h : stages i = .store body) : ComputedFor visits log (visits i).key body := by
  have haccount := run.account i
  rw [h] at haccount
  generalize hown : own log i = events at haccount
  cases haccount with
  | store miss json =>
    refine ⟨i, json, rfl, ?_, rfl⟩
    rw [← mem_own_iff, hown]
    exact List.mem_cons_self

/-- Every entry was computed before, for a request with its fingerprint. -/
theorem computedFor_of_holds (cache : b.Caches Holds) (run : Run b Holds visits stages s log)
    {key : CacheKey} {body : List UInt8} (h : Holds s key body) :
    ComputedFor visits log key body := by
  induction run with
  | start empty => exact absurd h (empty key body)
  | drift run kept ih => exact ih (kept key body h)
  | @step stages s log i run ih =>
    -- Only the third step of a visit can bring an entry.
    refine ComputedFor.mono ?_
    cases hstage : stages i with
    | look =>
      rw [hstage, Job.next_look_state] at h
      exact ih (cache.holds_of_answer (by simp) h)
    | compute =>
      rw [hstage, Job.next_compute_state] at h
      exact ih (cache.holds_of_run (Call.asks_inquiry _ _) h)
    | store stored =>
      rw [hstage, Job.next_store_state] at h
      obtain h | ⟨rfl, rfl⟩ := cache.holds_of_put h
      · exact ih h
      · exact run.computed_of_store hstage
    | done response =>
      rw [hstage] at h
      exact ih h

/-- Whatever is found was computed before it was found, for a request with the same fingerprint. -/
theorem computedFor_of_hit (cache : b.Caches Holds) (run : Run b Holds visits stages s log) {i : ι}
    {body : List UInt8} {later before : List (ι × JobEvent)}
    (h : log = later ++ (i, .found (.ok (some body))) :: before) :
    ComputedFor visits before (visits i).key body := by
  induction run generalizing later with
  | start empty => simp at h
  | drift run kept ih => exact ih h
  | @step stages s log j run ih =>
    obtain ⟨rfl, hfound, rfl⟩ | ⟨later', hlog⟩ := found_of_step h
    -- The step found an entry, and the entries of that moment are accounted for.
    · exact run.computedFor_of_holds cache (cache.holds_of_get hfound)
    · exact ih hlog

end Run

/-! ## The state of affairs -/

/-- What the record of a run says of the entries in the cache and of the responses so far. -/
structure Accounted (Holds : σ → CacheKey → List UInt8 → Prop) (visits : ι → Visit)
    (stages : ι → Stage) (s : σ) (log : List (ι × JobEvent)) : Prop where
  /-- An entry is a body that was computed for a request with its fingerprint. -/
  entry {key : CacheKey} {body : List UInt8} : Holds s key body → ComputedFor visits log key body
  /-- The body of a response that is no fault was computed by the visit itself, or it was found
  after it had been computed for a request with the same fingerprint. -/
  body {i : ι} {r : WebResponse} : stages i = .done r → ((visits i).sent r).status = 200 →
    (∃ json, (i, .computed (.ok json)) ∈ log ∧ ((visits i).sent r).body = json.renderBytes) ∨
      ∃ later before,
        log = later ++ (i, .found (.ok (some ((visits i).sent r).body))) :: before ∧
          ComputedFor visits before (visits i).key ((visits i).sent r).body
  /-- A visit whose computation fails puts nothing, and its response is the fault. -/
  fault {i : ι} {cause : Cause} : (i, .computed (.error cause)) ∈ log →
    (∀ body answer, (i, .put body answer) ∉ log) ∧
      stages i = .done (.ofFault (visits i).scope (cause.fault (visits i).scope))
  /-- Where the cache fails, the response has the status and the body that the computation gives it
  without any cache. -/
  unshaken {i : ι} {r : WebResponse} : stages i = .done r →
    ((∃ how, (i, .found (.error how)) ∈ log) ∨ ∃ body how, (i, .put body (.error how)) ∈ log) →
      ∃ result, (i, .computed result) ∈ log ∧
        ((visits i).sent r).status = ((visits i).job.plainResponse result).status ∧
          ((visits i).sent r).body = ((visits i).job.plainResponse result).body
  /-- A visit that has taken three steps has its response, whatever the cache did. -/
  finished {i : ι} : 3 ≤ (own log i).length → ∃ r, stages i = .done r
  /-- The header tells of a hit exactly where a body was found. -/
  hit {i : ι} {r : WebResponse} : stages i = .done r →
    (((visits i).sent r).header? "cache-trace" = some "hit-cache" ↔
      ∃ body, (i, .found (.ok (some body))) ∈ log)
  /-- The header tells of a new entry exactly where a body was computed and the cache took it. -/
  set {i : ι} {r : WebResponse} : stages i = .done r →
    (((visits i).sent r).header? "cache-trace" = some "set-cache" ↔
      ∃ json, (i, .computed (.ok json)) ∈ log ∧ (i, .put json.renderBytes (.ok ())) ∈ log)
  /-- Otherwise there is no such header. -/
  silent {i : ι} {r : WebResponse} : stages i = .done r →
    (((visits i).sent r).header? "cache-trace" = none ↔
      ¬ (∃ body, (i, .found (.ok (some body))) ∈ log) ∧
        ¬ ∃ json, (i, .computed (.ok json)) ∈ log ∧ (i, .put json.renderBytes (.ok ())) ∈ log)

/-- In every run, whatever the order of the steps and whatever fails, the entries and the responses
are accounted for. -/
theorem Run.accounted {b : Backend σ} {Holds : σ → CacheKey → List UInt8 → Prop}
    {visits : ι → Visit} {stages : ι → Stage} {s : σ} {log : List (ι × JobEvent)}
    (cache : b.Caches Holds) (run : Run b Holds visits stages s log) :
    Accounted Holds visits stages s log := by
  have haccount {i : ι} {r : WebResponse} (h : stages i = .done r) :
      (visits i).job.Account (.done r) (own log i) := h ▸ run.account i
  have hheader (i : ι) (r : WebResponse) :
      ((visits i).sent r).header? "cache-trace" = r.header? WebResponse.cacheHeader :=
    (visits i).header?_cacheHeader_sent r
  -- What is said of a visit is read off its account, and that is its part of the record.
  have hhit {i : ι} {r : WebResponse} (h : stages i = .done r) :
      r.header? WebResponse.cacheHeader = some Job.replayed ↔
        ∃ body, (i, .found (.ok (some body))) ∈ log := by
    simpa only [mem_own_iff] using (haccount h).header_eq_replayed_iff
  have hset {i : ι} {r : WebResponse} (h : stages i = .done r) :
      r.header? WebResponse.cacheHeader = some Job.stored ↔
        ∃ json, (i, .computed (.ok json)) ∈ log ∧
          (i, .put json.renderBytes (.ok ())) ∈ log := by
    simpa only [mem_own_iff] using (haccount h).header_eq_stored_iff
  constructor
  case entry => exact run.computedFor_of_holds cache
  case body =>
    intro i r hdone hstatus
    rw [Visit.sent_status] at hstatus
    rw [Visit.sent_body]
    have hbody := (haccount hdone).body_of_status hstatus
    simp only [mem_own_iff] at hbody
    obtain hcomputed | hfound := hbody
    · exact .inl hcomputed
    · obtain ⟨later, before, hlog⟩ := List.append_of_mem hfound
      exact .inr ⟨later, before, hlog, run.computedFor_of_hit cache hlog⟩
  case fault =>
    intro i cause hmem
    rw [← mem_own_iff] at hmem
    obtain ⟨hput, hstage⟩ := (run.account i).of_computed_error hmem
    simp only [mem_own_iff] at hput
    exact ⟨hput, hstage⟩
  case unshaken =>
    intro i r hdone hfailure
    simp only [← mem_own_iff] at hfailure
    simpa only [mem_own_iff, Visit.sent_status, Visit.sent_body] using
      (haccount hdone).of_cache_failure hfailure
  case finished => exact fun {i} => (run.account i).done_of_three_le
  case hit =>
    intro i r hdone
    rw [hheader]
    exact hhit hdone
  case set =>
    intro i r hdone
    rw [hheader]
    exact hset hdone
  case silent =>
    intro i r hdone
    rw [hheader, ← hhit hdone, ← hset hdone]
    constructor
    · intro hnone
      simp [hnone]
    · rintro ⟨hnotHit, hnotSet⟩
      obtain h | h | h := (haccount hdone).header_cases
      · exact absurd h hnotHit
      · exact absurd h hnotSet
      · exact h

/-- A request for all agencies. -/
def agenciesVisit : Visit where
  request := ⟨"GET", "/api/v2/reporting/agencies/overview/", "", []⟩
  trace := none
  circumstances := .sample
  endpoint := .agencies
  captures := []
  call := .agencies none none none {}
  route := by decide +kernel
  taken := rfl
  asks := rfl

/-- Stores in memory that keep responses. -/
def keeping : Backend Memory := Memory.backend { caches := true } fun _ => none

/-- Two requests for all agencies: the second finds what the first has put. -/
theorem accounted_agenciesTwice :
    ∃ stages m log body, Run keeping Memory.Keeps (fun _ : Fin 2 => agenciesVisit) stages m log ∧
      (1, .found (.ok (some body))) ∈ log ∧
        Accounted Memory.Keeps (fun _ : Fin 2 => agenciesVisit) stages m log := by
  have cache : keeping.Caches Memory.Keeps := Memory.caches_backend _ _ rfl
  have begun : Run keeping Memory.Keeps (fun _ : Fin 2 => agenciesVisit) (fun _ => .look) {} [] :=
    .start (by simp [Memory.Keeps, Keyed.get?])
  -- The first visit looks up, computes and puts, and then the second looks up.
  have looked : Run keeping Memory.Keeps (fun _ : Fin 2 => agenciesVisit)
      (Function.update (fun _ => .look) 0 .compute) {} [(0, .found (.ok none))] :=
    begun.step 0
  obtain ⟨json, hcomputed⟩ : ∃ json : Json, (agenciesVisit.job.next keeping .compute {}).stage =
      .store json.renderBytes := ⟨_, rfl⟩
  have hunchanged : (agenciesVisit.job.next keeping .compute {}).state = {} := rfl
  have computed := looked.step 0
  simp only [Function.update_self, Function.update_idem, hcomputed, hunchanged] at computed
  have stored := computed.step 0
  simp only [Function.update_self, Function.update_idem] at stored
  have found := stored.step 1
  refine ⟨_, _, _, json.renderBytes, found, ?_, found.accounted cache⟩
  have hlook : Function.update (fun _ => Stage.look) (0 : Fin 2)
      (agenciesVisit.job.next keeping (.store json.renderBytes) {}).stage 1 = .look :=
    Function.update_of_ne (by decide) _ _
  rw [hlook]
  refine List.mem_append_left _ ?_
  simp [Job.events, keeping, Memory.backend, Memory.respond, Job.next, Keyed.get?_put]

end Traffic

end Outlays
