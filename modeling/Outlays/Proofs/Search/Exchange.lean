import Outlays.Proofs.Results
import Outlays.Search.Exchange

/-!
# Exchanges, reply by reply

A reply is read as something, or something is wrong with it. What is wrong decides how the exchange
fails: there was no answer in time, or none at all, or one with another status than success, or one
that cannot be read. Exchanges go on from what has been read, and a failure is the end of them.

## Main definitions

* `Reply.Yields`, `Reply.Blames` — what is read out of a reply, and what is wrong with it

## Main results

* `Exchange.outcome_eq_ok_iff`, `Exchange.blames_of_outcome` — what a reply comes to
* `Exchange.run_bind`, `Exchange.run_send` — exchanges one after the other, and one request
-/

namespace Outlays

/-! ## Replies -/

namespace Reply

variable {α : Type}

/-- The reply is a success, and this is read out of its body. -/
inductive Yields (read : Json.Reader α) : Reply → α → Prop where
  | mk {status : ℕ} {body : List UInt8} {j : Json} {a : α} (success : 200 ≤ status ∧ status < 300)
      (parsed : Json.parseBytes body = some j) (isRead : read j = .ok a) :
      Yields read (.answered status body) a

/-- What is wrong with the reply is told as this failure. -/
inductive Blames (read : Json.Reader α) : Reply → Failure → Prop where
  | unreachable (words : String) : Blames read .unreachable (.unreachable .search words)
  | late (words : String) : Blames read .late (.late words)
  | timeout {status : ℕ} {body : List UInt8} (words : String)
      (status_mem : status = 408 ∨ status = 504) :
      Blames read (.answered status body) (.late words)
  | gateway {status : ℕ} {body : List UInt8} (words : String)
      (status_mem : status = 502 ∨ status = 503) :
      Blames read (.answered status body) (.unreachable .search words)
  | status {status : ℕ} {body : List UInt8} (words : String)
      (noSuccess : ¬ (200 ≤ status ∧ status < 300))
      (other : status ≠ 408 ∧ status ≠ 504 ∧ status ≠ 502 ∧ status ≠ 503) :
      Blames read (.answered status body) (.rejected .search words)
  | body {status : ℕ} {body : List UInt8} (words : String) (success : 200 ≤ status ∧ status < 300)
      (unread : ∀ j a, Json.parseBytes body = some j → read j ≠ .ok a) :
      Blames read (.answered status body) (.garbled words)

end Reply

namespace Exchange

variable {σ α β : Type}

/-! ## Exchanges in general -/

/-- Of two exchanges one after the other, the second one goes on from where the first one succeeds,
and a failure of the first one is the end of both. -/
theorem run_bind (x : Exchange σ α) (f : α → Exchange σ β) (s : σ) :
    (x >>= f).run s =
      match x.run s with
      | (.ok a, s') => (f a).run s'
      | (.error how, s') => (.error how, s') := by
  rw [ExceptT.run_bind]
  simp only [Bind.bind, StateT.bind]
  rcases x.run s with ⟨_ | _, s'⟩ <;> rfl

/-- What is decoded was read from JSON. -/
theorem decode_eq_ok_iff {read : Json.Reader α} {body : List UInt8} {a : α} :
    decode read body = .ok a ↔
      ∃ answer, Json.parseBytes body = some answer ∧ read answer = .ok a := by
  rw [decode, mapError_eq_ok_iff]
  cases Json.parseBytes body <;> simp

theorem exists_garbled_of_decode {read : Json.Reader α} {body : List UInt8} {how : Failure}
    (h : decode read body = .error how) : ∃ words, how = .garbled words := by
  obtain ⟨reason, -, hwords⟩ := exists_of_mapError_eq_error h
  exact ⟨_, hwords.symm⟩

variable {read : Json.Reader α} {reply : Reply} {address : Url}

theorem outcome_eq_ok_iff {a : α} : outcome address read reply = .ok a ↔ reply.Yields read a := by
  constructor
  · intro h
    cases reply with
    | unreachable => cases h
    | late => cases h
    | answered status body =>
      rw [outcome] at h
      split at h
      · next hstatus =>
        rw [Bool.and_eq_true, decide_eq_true_iff, decide_eq_true_iff] at hstatus
        obtain ⟨j, hparsed, hread⟩ := decode_eq_ok_iff.mp h
        exact ⟨hstatus, hparsed, hread⟩
      · cases h
  · rintro ⟨success, parsed, isRead⟩
    rw [outcome, if_pos (by simpa using success)]
    exact decode_eq_ok_iff.mpr ⟨_, parsed, isRead⟩

/-- A status other than success tells what is wrong. -/
theorem blames_statusFailure {status : ℕ} {body : List UInt8}
    (h : ¬ (200 ≤ status ∧ status < 300)) :
    (Reply.answered status body).Blames read (statusFailure status body) := by
  simp only [statusFailure, Bool.or_eq_true, decide_eq_true_iff]
  split
  · next hlate => exact .timeout _ hlate
  · next hlate =>
    split
    · next hgateway => exact .gateway _ hgateway
    · next hgateway => exact .status _ h (by omega)

theorem blames_of_outcome {how : Failure} (h : outcome address read reply = .error how) :
    reply.Blames read how := by
  cases reply with
  | unreachable =>
    obtain rfl := Except.error.inj h
    exact .unreachable _
  | late =>
    obtain rfl := Except.error.inj h
    exact .late _
  | answered status body =>
    rw [outcome] at h
    split at h
    · next hstatus =>
      rw [Bool.and_eq_true, decide_eq_true_iff, decide_eq_true_iff] at hstatus
      obtain ⟨words, rfl⟩ := exists_garbled_of_decode h
      refine .body words hstatus fun j a hparsed hread => ?_
      rw [decode_eq_ok_iff.mpr ⟨j, hparsed, hread⟩] at h
      cases h
    · next hstatus =>
      obtain rfl := Except.error.inj h
      exact blames_statusFailure (by simpa using hstatus)

variable {index : SearchIndex} {request : SearchRequest} {wire : Wire σ}

/-- Without an address for it a request is not sent. -/
theorem run_send_of_error {how : Failure} (haddress : index.address request = .error how) (s : σ) :
    (send wire index request read).run s = (.error how, s) := by
  change send wire index request read s = _
  rw [send, haddress]

/-- A request that is sent comes to what the reply does. -/
theorem run_send (haddress : index.address request = .ok address) (s : σ) :
    (send wire index request read).run s =
      (outcome address read (wire request s).1, (wire request s).2) := by
  change send wire index request read s = _
  rw [send, haddress]

/-- The exchange for totals, request by request. -/
theorem recipientTotals_eq (wire : Wire σ) (index : SearchIndex) (filters : TransactionFilters)
    (grouping : Grouping) :
    recipientTotals wire index filters grouping =
      (send wire index (.groups (Query.ofFilters filters) grouping) Answer.groups >>= fun size =>
        if size.getD 0 = 0 then pure []
        else
          send wire index (.totals (Query.ofFilters filters) grouping (size.getD 0))
              Answer.buckets >>= fun buckets =>
            match buckets.mapM (Bucket.totals grouping) with
            | .ok totals => pure totals
            | .error reason => throw (.garbled reason)) :=
  rfl

end Exchange

end Outlays
