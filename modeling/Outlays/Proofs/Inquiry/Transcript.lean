import Outlays.Memory.Stores

/-!
# Transcripts of inquiries

A run of an inquiry leaves a transcript: the questions that were put, each with the answer it was
given. An inquiry has no other source of knowledge, so its transcript decides how it ends. That
relation mentions no stores at all, and most facts about services are read off it: the answers
in the transcript on one side, the result on the other.

## Main definitions

* `Answered` — a question with its answer
* `Inquiry.transcript` — what the stores are asked and answer in a run, up to the first failure
* `Inquiry.Leads` — these answers lead the inquiry to this end
* `Backend.revise` — stores that answer otherwise

## Main results

* `Inquiry.leads_transcript` — a run that succeeds ends where its transcript leads
* `Inquiry.leads_bind_ok_iff` — the transcript of two inquiries, one after the other
* `Inquiry.Leads.result_eq` — stores that give the answers of a log end where it leads
* `Memory.exists_respond_of_mem` — stores in memory answer out of what they held at first
-/

namespace Outlays

/-- A question with the answer that it was given. -/
abbrev Answered := (q : Question) × q.Answer

namespace Inquiry

variable {σ α β γ : Type} (b : Backend σ)

/-! ## Inquiries as a monad -/

@[simp] theorem pure_eq_done (a : α) : (pure a : Inquiry α) = .done a := rfl

@[simp] theorem bind_eq_bind (x : Inquiry α) (f : α → Inquiry β) : (x >>= f) = x.bind f := rfl

@[simp] theorem done_bind (a : α) (f : α → Inquiry β) : (Inquiry.done a).bind f = f a := rfl

@[simp] theorem refuse_bind (why : Refusal) (f : α → Inquiry β) :
    (Inquiry.refuse why).bind f = .refuse why := rfl

theorem bind_bind (x : Inquiry α) (f : α → Inquiry β) (g : β → Inquiry γ) :
    (x.bind f).bind g = x.bind fun a => (f a).bind g := by
  induction x with
  | done a => rfl
  | refuse why => rfl
  | ask q next ih => simp only [bind, ih]

theorem bind_done (x : Inquiry α) : x.bind .done = x := by
  induction x with
  | done a => rfl
  | refuse why => rfl
  | ask q next ih => simp only [bind, ih]

instance : LawfulMonad Inquiry :=
  LawfulMonad.mk' Inquiry bind_done (fun _ _ => rfl) bind_bind

@[simp] theorem map_eq_bind (f : α → β) (x : Inquiry α) :
    f <$> x = x.bind fun a => .done (f a) := rfl

/-! ## Transcripts -/

/-- The questions of a run with their answers, up to the first failure. -/
def transcript : Inquiry α → σ → List Answered
  | .ask q next, s =>
    match b.answer q s with
    | (.ok answer, s) => ⟨q, answer⟩ :: transcript (next answer) s
    | (.error _, _) => []
  | _, _ => []

/-- The answers of the log, given in this order, lead the inquiry to its end. -/
inductive Leads : Inquiry α → List Answered → Except Refusal α → Prop where
  | done (a : α) : Leads (.done a) [] (.ok a)
  | refuse (why : Refusal) : Leads (.refuse why) [] (.error why)
  | ask {q : Question} {next : q.Answer → Inquiry α} {answer : q.Answer} {log : List Answered}
      {r : Except Refusal α} (rest : Leads (next answer) log r) :
      Leads (.ask q next) (⟨q, answer⟩ :: log) r

variable {b} in
theorem run_ask_of_ok {q : Question} {next : q.Answer → Inquiry α} {s s' : σ} {answer : q.Answer}
    (h : b.answer q s = (.ok answer, s')) :
    run b (.ask q next) s =
      { run b (next answer) s' with asked := q :: (run b (next answer) s').asked } := by
  simp only [run, h]

variable {b} in
theorem transcript_ask_of_ok {q : Question} {next : q.Answer → Inquiry α} {s s' : σ}
    {answer : q.Answer} (h : b.answer q s = (.ok answer, s')) :
    (ask q next).transcript b s = ⟨q, answer⟩ :: (next answer).transcript b s' := by
  simp only [transcript, h]

/-- Where an inquiry succeeds that begins with a question, the question is answered. -/
theorem exists_answer_of_run_ask {q : Question} {next : q.Answer → Inquiry α} {s : σ} {a : α}
    (h : (run b (.ask q next) s).result = .ok a) :
    ∃ answer s', b.answer q s = (.ok answer, s') ∧ (run b (next answer) s').result = .ok a := by
  simp only [run] at h
  split at h
  · next answer s' hs => exact ⟨answer, s', hs, h⟩
  · cases h

/-- A run that succeeds ends where its transcript leads. -/
theorem leads_transcript {x : Inquiry α} {s : σ} {a : α} (h : (run b x s).result = .ok a) :
    Leads x (x.transcript b s) (.ok a) := by
  -- The run and its transcript go down the same branch of the tree, each from the state in which
  -- the last answer left the stores.
  induction x generalizing s with
  | done c =>
    obtain rfl : c = a := by simpa using h
    exact .done c
  | refuse why => simp at h
  | ask q next ih =>
    obtain ⟨answer, s', hs, hr⟩ := exists_answer_of_run_ask b h
    rw [transcript_ask_of_ok hs]
    exact .ask (ih answer hr)

/-- What the stores keep up from answer to answer holds of every answer in a transcript. -/
theorem forall_mem_transcript {P : σ → Prop} {R : Answered → Prop}
    (step : ∀ q s answer s', P s → b.answer q s = (.ok answer, s') → P s' ∧ R ⟨q, answer⟩)
    {x : Inquiry α} {s : σ} (hs : P s) : ∀ a ∈ x.transcript b s, R a := by
  induction x generalizing s with
  | done c => exact fun a ha => absurd ha List.not_mem_nil
  | refuse why => exact fun a ha => absurd ha List.not_mem_nil
  | ask q next ih =>
    intro a ha
    simp only [transcript] at ha
    split at ha
    · next answer s' hanswer =>
      obtain ⟨hs', hR⟩ := step q s answer s' hs hanswer
      rcases List.mem_cons.mp ha with rfl | ha
      · exact hR
      · exact ih answer hs' a ha
    · cases ha

/-- The second of two inquiries starts in the state that the first one leaves. -/
theorem run_bind_of_ok {x : Inquiry α} {s : σ} {a : α} (h : (run b x s).result = .ok a)
    (f : α → Inquiry β) :
    (run b (x.bind f) s).result = (run b (f a) (run b x s).state).result := by
  rw [run_bind, h]

/-- Where two inquiries succeed one after the other, the first one does. -/
theorem exists_ok_of_run_bind {x : Inquiry α} {f : α → Inquiry β} {s : σ} {c : β}
    (h : (run b (x.bind f) s).result = .ok c) : ∃ a, (run b x s).result = .ok a := by
  rw [run_bind] at h
  cases hx : (run b x s).result with
  | ok a => exact ⟨a, rfl⟩
  | error cause => simp [hx] at h

/-- Work on the result asks nothing. -/
theorem asked_bind_done (x : Inquiry α) (f : α → β) (s : σ) :
    ((x.bind fun a => .done (f a)).run b s).asked = (x.run b s).asked := by
  rw [run_bind]
  cases (x.run b s).result with
  | ok a => exact List.append_nil _
  | error cause => rfl

/-- One question is all that is asked, also where it fails. -/
theorem asked_put (q : Question) (s : σ) : ((put q).run b s).asked = [q] := by
  rw [put, run]
  cases b.answer q s with
  | mk answer s' => cases answer <;> rfl

theorem fst_of_mem_transcript_put {q : Question} {s : σ} {a : Answered}
    (h : a ∈ (put q).transcript b s) : a.1 = q := by
  rw [put, transcript] at h
  split at h
  · rw [List.mem_singleton.mp h]
  · cases h

/-- Nor does it get an answer. -/
theorem transcript_bind_done (x : Inquiry α) (f : α → β) (s : σ) :
    (x.bind fun a => .done (f a)).transcript b s = x.transcript b s := by
  induction x generalizing s with
  | done a => rfl
  | refuse why => rfl
  | ask q next ih => simp only [bind, transcript, ih]

/-! ## What leads where -/

@[simp] theorem leads_done_iff {c : α} {log : List Answered} {r : Except Refusal α} :
    Leads (.done c) log r ↔ log = [] ∧ r = .ok c := by
  constructor
  · rintro ⟨⟩
    exact ⟨rfl, rfl⟩
  · rintro ⟨rfl, rfl⟩
    exact .done c

@[simp] theorem not_leads_refuse_ok {why : Refusal} {log : List Answered} {a : α} :
    ¬ Leads (.refuse why) log (.ok a) := by
  rintro ⟨⟩

theorem leads_ask_iff {q : Question} {next : q.Answer → Inquiry α} {log : List Answered}
    {r : Except Refusal α} :
    Leads (.ask q next) log r ↔
      ∃ answer rest, log = ⟨q, answer⟩ :: rest ∧ Leads (next answer) rest r := by
  constructor
  · rintro ⟨⟩
    exact ⟨_, _, rfl, ‹_›⟩
  · rintro ⟨answer, rest, rfl, h⟩
    exact .ask h

/-- An inquiry that begins with a question goes on from its answer. -/
theorem leads_put_bind_iff {q : Question} {f : q.Answer → Inquiry α} {log : List Answered}
    {r : Except Refusal α} :
    Leads ((put q).bind f) log r ↔
      ∃ answer rest, log = ⟨q, answer⟩ :: rest ∧ Leads (f answer) rest r :=
  leads_ask_iff

/-- One question leads to whatever it is answered. -/
theorem leads_put_iff {q : Question} {log : List Answered} {a : q.Answer} :
    Leads (put q) log (.ok a) ↔ log = [⟨q, a⟩] := by
  rw [put, leads_ask_iff]
  constructor
  · rintro ⟨answer, rest, rfl, h⟩
    obtain ⟨rfl, ha⟩ := leads_done_iff.mp h
    rw [Except.ok.inj ha]
  · rintro rfl
    exact ⟨a, [], rfl, .done a⟩

/-- A check asks nothing. -/
theorem leads_ofExcept_bind_iff {e : Except Refusal α} {f : α → Inquiry β} {log : List Answered}
    {c : β} :
    Leads ((ofExcept e).bind f) log (.ok c) ↔ ∃ a, e = .ok a ∧ Leads (f a) log (.ok c) := by
  cases e with
  | ok a => simp [ofExcept]
  | error why => simp [ofExcept]

/-- Two inquiries one after the other succeed on a log that leads the first one to some result
and then the second one on from there. -/
theorem leads_bind_ok_iff {x : Inquiry α} {f : α → Inquiry β} {log : List Answered} {c : β} :
    Leads (x.bind f) log (.ok c) ↔
      ∃ a first rest, log = first ++ rest ∧ Leads x first (.ok a) ∧ Leads (f a) rest (.ok c) := by
  induction x generalizing log with
  | done a =>
    simp only [done_bind, leads_done_iff, Except.ok.injEq]
    constructor
    · exact fun hf => ⟨a, [], log, rfl, ⟨rfl, rfl⟩, hf⟩
    · rintro ⟨_, _, rest, rfl, ⟨rfl, rfl⟩, hf⟩
      exact hf
  | refuse why => simp
  | ask q next ih =>
    simp only [bind, leads_ask_iff, ih]
    -- The question is the first one of both inquiries together and of the first alone.
    constructor
    · rintro ⟨answer, -, rfl, a, first, rest, rfl, hx, hf⟩
      exact ⟨a, ⟨q, answer⟩ :: first, rest, rfl, ⟨answer, first, rfl, hx⟩, hf⟩
    · rintro ⟨a, -, rest, rfl, ⟨answer, first, rfl, hx⟩, hf⟩
      exact ⟨answer, first ++ rest, rfl, a, first, rest, rfl, hx, hf⟩

/-- Work on the result needs no answers. -/
theorem leads_bind_done_iff {x : Inquiry α} {f : α → β} {log : List Answered} {c : β} :
    Leads (x.bind fun a => .done (f a)) log (.ok c) ↔ ∃ a, Leads x log (.ok a) ∧ c = f a := by
  rw [leads_bind_ok_iff]
  constructor
  · rintro ⟨a, first, rest, rfl, hx, hdone⟩
    obtain ⟨rfl, hc⟩ := leads_done_iff.mp hdone
    rw [List.append_nil]
    exact ⟨a, hx, Except.ok.inj hc⟩
  · rintro ⟨a, hx, rfl⟩
    exact ⟨a, log, [], (List.append_nil log).symm, hx, .done _⟩

end Inquiry

/-! ## Stores that answer otherwise -/

/-- The same question, with its answer revised. -/
def Answered.revise (g : (q : Question) → q.Answer → q.Answer) (a : Answered) : Answered :=
  ⟨a.1, g a.1 a.2⟩

namespace Backend

variable {σ : Type} {b : Backend σ}

/-- The stores give the answers of the log, one after the other. -/
inductive Gives (b : Backend σ) : σ → List Answered → Prop where
  | nothing (s : σ) : Gives b s []
  | answer {q : Question} {answer : q.Answer} {s s' : σ} {rest : List Answered}
      (first : b.answer q s = (.ok answer, s')) (later : Gives b s' rest) :
      Gives b s (⟨q, answer⟩ :: rest)

/-- The stores, with every answer revised. -/
def revise (b : Backend σ) (g : (q : Question) → q.Answer → q.Answer) : Backend σ where
  answer q s := ((b.answer q s).1.map (g q), (b.answer q s).2)

theorem Gives.revise {s : σ} {log : List Answered} (h : b.Gives s log)
    (g : (q : Question) → q.Answer → q.Answer) :
    (b.revise g).Gives s (log.map (Answered.revise g)) := by
  induction h with
  | nothing s => exact .nothing s
  | answer first later ih => exact .answer (by simp only [Backend.revise, first]; rfl) ih

end Backend

namespace Inquiry

variable {σ α : Type} (b : Backend σ)

theorem gives_transcript (x : Inquiry α) (s : σ) : b.Gives s (x.transcript b s) := by
  induction x generalizing s with
  | done a => exact .nothing s
  | refuse why => exact .nothing s
  | ask q next ih =>
    simp only [transcript]
    split
    · next answer s' hanswer => exact .answer hanswer (ih answer s')
    · exact .nothing s

/-- Stores that give answers which lead an inquiry to a result answer it with this result. -/
theorem Leads.result_eq {x : Inquiry α} {log : List Answered} {a : α} (h : x.Leads log (.ok a))
    {s : σ} (hs : b.Gives s log) : (x.run b s).result = .ok a := by
  -- The answers that the stores give are those of the log, at each step of the run.
  generalize hr : (Except.ok a : Except Refusal α) = r at h
  induction h generalizing s with
  | done c =>
    cases hr
    rfl
  | refuse why => cases hr
  | ask rest ih =>
    cases hs with
    | answer first later =>
      rw [run_ask_of_ok first]
      exact ih later hr

end Inquiry

/-! ## Stores in memory -/

namespace Memory

variable {use : MemoryUse} {outage : Question → Option Failure}

theorem stores_respond (q : Question) (m : Memory) : (respond use q m).2.stores = m.stores := by
  cases q with
  | countTransactions filters =>
    simp only [respond]
    split <;> rfl
  | recipientTotals filters grouping =>
    simp only [respond]
    split <;> rfl
  | cachePut key body =>
    simp only [respond]
    split <;> rfl
  | _ => rfl

/-- Stores in memory hold what they hold to the end, and every answer is made out of it. -/
theorem exists_respond_of_mem {α : Type} {x : Inquiry α} {m : Memory} {q : Question}
    {answer : q.Answer} (h : ⟨q, answer⟩ ∈ x.transcript (backend use outage) m) :
    ∃ m' : Memory, m'.stores = m.stores ∧ (respond use q m').1 = .ok answer := by
  refine Inquiry.forall_mem_transcript (backend use outage) (P := fun m' => m'.stores = m.stores)
    (R := fun a => ∃ m' : Memory, m'.stores = m.stores ∧ (respond use a.1 m').1 = .ok a.2)
    ?_ rfl ⟨q, answer⟩ h
  intro q m₁ answer m₂ hstores hanswer
  simp only [backend] at hanswer
  split at hanswer
  · cases hanswer
  · have hkept : (respond use q m₁).2.stores = m₁.stores := stores_respond q m₁
    rw [hanswer] at hkept
    exact ⟨hkept.trans hstores, m₁, hstores, by rw [hanswer]⟩

end Memory

end Outlays
