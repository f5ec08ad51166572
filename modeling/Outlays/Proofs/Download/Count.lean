import Outlays.Memory.Stores
import Outlays.Proofs.Inquiry.Flaws
import Outlays.Proofs.Search.Calls
import Outlays.Proofs.Search.Documents
import Outlays.Web.Request

/-!
# Downloads that leave something out

A query without clauses matches every document of the index, so a download without filters would be
one of everything. Whether filters leave anything out is decided in two places: by the service,
before the index is asked, and by the query that is made of them. Both go by the parts that are not
empty. So the index is asked exactly where the query has a clause, and it is asked once.

## Main definitions

* `TransactionFilters.narrows` — which parts are not empty, part by part
* `DownloadCount.IsCount` — what a count comes to, for any stores
* `DownloadCount.IsSent` — what a count sends to the index

## Main results

* `Query.length_clauses` — a query has one clause for each part that is not empty
* `DownloadCount.isCount_run`, `DownloadCount.isSent_run` — the course of a count
* `DownloadCount.never_counts_everything` — all of it together
-/

namespace Outlays

/-! ## Parts and clauses -/

/-- Which of the parts are not empty. -/
def TransactionFilters.narrows (f : TransactionFilters) : List Bool :=
  [decide (f.timePeriods ≠ []), decide (f.agencies ≠ []), decide (f.awardTypeCodes ≠ []),
    decide (f.keywords ≠ []), decide (f.defCodes ≠ []), decide (f.recipientId ≠ none)]

namespace Query

theorem length_clause {α : Type} [DecidableEq α] (part : List α) (query : List α → Query) :
    (clause part query).length = (decide (part ≠ [])).toNat := by
  cases part with
  | nil => rfl
  | cons a part => simp [clause]

/-- A query has one clause for each part that is not empty. -/
theorem length_clauses (f : TransactionFilters) : (clauses f).length = f.narrows.count true := by
  have hid : (f.recipientId.map ofRecipient).toList.length =
      (decide (f.recipientId ≠ none)).toNat := by
    cases f.recipientId <;> rfl
  have hcount (b : Bool) (bs : List Bool) : (b :: bs).count true = b.toNat + bs.count true := by
    cases b <;> simp [Nat.add_comm]
  simp only [clauses, List.length_append, length_clause, hid, TransactionFilters.narrows, hcount,
    List.count_nil]
  omega

/-- Filters that leave everything in are those whose query has no clause. -/
theorem isEmpty_iff_clauses (f : TransactionFilters) : f.isEmpty = true ↔ clauses f = [] := by
  rw [← List.length_eq_zero_iff, length_clauses, TransactionFilters.isEmpty_iff,
    List.count_eq_zero]
  cases f
  simp [TransactionFilters.narrows]

/-- The clauses are all that is written of a query, one after the other. -/
theorem toJson_ofFilters (f : TransactionFilters) :
    (ofFilters f).toJson =
      .obj [("bool", .obj [("filter", .arr ((clauses f).map toJson))])] := by
  simp only [ofFilters, toJson, Document.toJsons_eq_map, List.isEmpty_nil, if_true]

end Query

namespace DownloadCount

/-! ## For any stores -/

variable {σ : Type} {b : Backend σ}

/-- What is answered to a count: it, the limit, and whether it exceeds the limit. -/
def answered (limit n : ℕ) : Json :=
  .obj [("calculated_transaction_count", .nat n), ("maximum_transaction_limit", .nat limit),
    ("transaction_rows_gt_limit", .bool (decide (n > limit)))]

/-- What a count of a download comes to, for stores in the state `s`. -/
structure IsCount (b : Backend σ) (limit : ℕ) (f : TransactionFilters) (s : σ)
    (o : Outcome σ Json) : Prop where
  /-- The index is asked for filters that leave something out, once, and nothing else is asked. -/
  asked_eq : o.asked = if f = {} then [] else [.countTransactions f]
  /-- Filters that leave everything in are refused. -/
  empty : f = {} → o.result = .error (.refused .emptyFilters) ∧ o.state = s
  /-- The answer to others is passed on as it is. -/
  counted : f ≠ {} → ∀ n s', b.answer (.countTransactions f) s = (.ok n, s') →
    o.result = .ok (answered limit n) ∧ o.state = s'
  /-- So is a failure. -/
  failed : f ≠ {} → ∀ how s', b.answer (.countTransactions f) s = (.error how, s') →
    o.result = .error (.failed how) ∧ o.state = s'

variable {c : Circumstances} {f : TransactionFilters}

theorem inquiry_of_empty : (Call.downloadCount {}).inquiry c = .refuse .emptyFilters :=
  rfl

theorem inquiry_of_nonempty (h : f ≠ {}) :
    (Call.downloadCount f).inquiry c =
      .ask (.countTransactions f) fun n => .done (answered c.downloadLimit n) := by
  have hempty : ¬ f.isEmpty = true := fun hempty => h (TransactionFilters.isEmpty_iff.mp hempty)
  rw [Call.inquiry, ask, if_neg hempty]
  rfl

theorem isCount_run (b : Backend σ) (c : Circumstances) (f : TransactionFilters) (s : σ) :
    IsCount b c.downloadLimit f s (((Call.downloadCount f).inquiry c).run b s) := by
  by_cases h : f = {}
  · subst h
    rw [inquiry_of_empty, Inquiry.run_refuse]
    exact ⟨by rw [if_pos rfl], fun _ => ⟨rfl, rfl⟩, fun hne => absurd rfl hne,
      fun hne => absurd rfl hne⟩
  · rw [inquiry_of_nonempty h, Inquiry.run]
    cases hanswer : b.answer (.countTransactions f) s with
    | mk answer s₁ =>
      cases answer with
      | ok n =>
        refine ⟨(if_neg h).symm, fun hempty => absurd hempty h, fun _ n' s' h' => ?_,
          fun _ how s' h' => ?_⟩
        · cases hanswer.symm.trans h'
          exact ⟨rfl, rfl⟩
        · cases hanswer.symm.trans h'
      | error how =>
        refine ⟨(if_neg h).symm, fun hempty => absurd hempty h, fun _ n' s' h' => ?_,
          fun _ how' s' h' => ?_⟩
        · cases hanswer.symm.trans h'
        · cases hanswer.symm.trans h'
          exact ⟨rfl, rfl⟩

/-! ## To the index -/

/-- What a count of a download sends to an index with replies to come, and what it comes to. -/
structure IsSent (limit : ℕ) (f : TransactionFilters) (m : Memory) (o : Outcome Memory Json) :
    Prop where
  /-- One request is sent for filters that leave something out, for the query made of them. -/
  sent_eq : o.state.script.sent =
    m.script.sent ++ if f = {} then [] else [.count (Query.ofFilters f)]
  /-- What is posted thereby is the query, and nothing else. -/
  posted : ∀ request ∈ o.state.script.sent, request ∈ m.script.sent ∨
    request.body = .obj [("query", (Query.ofFilters f).toJson)]
  /-- What is counted in the reply is passed on as it is. -/
  counted : f ≠ {} → ∀ n, (Script.nextReply m.script.replies).Yields Answer.count n →
    o.result = .ok (answered limit n)

theorem isSent_run {index : SearchIndex} {address : Url}
    (haddress : index.address (.count (Query.ofFilters f)) = .ok address) (c : Circumstances)
    (m : Memory) :
    IsSent c.downloadLimit f m (((Call.downloadCount f).inquiry c).run
      (Memory.backend { search := some (index, Script.wire) } fun _ => none) m) := by
  have hcount := isCount_run
    (Memory.backend { search := some (index, Script.wire) } fun _ => none) c f m
  by_cases h : f = {}
  · obtain ⟨hresult, hstate⟩ := hcount.empty h
    refine ⟨?_, fun request hrequest => .inl (hstate ▸ hrequest), fun hne => absurd h hne⟩
    rw [hstate, if_pos h, List.append_nil]
  · -- The question becomes one request, which takes the next reply.
    have hanswer : (Memory.backend { search := some (index, Script.wire) } fun _ => none).answer
        (.countTransactions f) m =
        (Exchange.outcome address Answer.count (Script.nextReply m.script.replies),
          { m with script := ⟨m.script.replies.drop 1,
              m.script.sent ++ [.count (Query.ofFilters f)]⟩ }) := by
      simp only [Memory.backend, Memory.respond, Memory.exchange, Exchange.countTransactions,
        Exchange.run_send_script haddress]
    have hsent :
        (((Call.downloadCount f).inquiry c).run
          (Memory.backend { search := some (index, Script.wire) } fun _ => none)
            m).state.script.sent = m.script.sent ++ [.count (Query.ofFilters f)] := by
      cases houtcome : Exchange.outcome address Answer.count
          (Script.nextReply m.script.replies) with
      | ok n => rw [(hcount.counted h _ _ (houtcome ▸ hanswer)).2]
      | error how => rw [(hcount.failed h _ _ (houtcome ▸ hanswer)).2]
    refine ⟨by rw [if_neg h, hsent], fun request hrequest => ?_, fun _ n hreply => ?_⟩
    · rw [hsent, List.mem_append, List.mem_singleton] at hrequest
      obtain hrequest | rfl := hrequest
      · exact .inl hrequest
      · exact .inr rfl
    · rw [Exchange.outcome_eq_ok_iff.mpr hreply] at hanswer
      exact (hcount.counted h _ _ hanswer).1

/-! ## Both together -/

/-- No download is counted by a query that leaves nothing out. A query has as many clauses as there
are parts that are not empty, and none exactly for filters that leave everything in. Whatever body
the filters are read from, the index is asked exactly for the others, once, and for a query with a
clause; what it counts is passed on, beside the limit, with whether it is more than that. -/
theorem never_counts_everything :
    (∀ f : TransactionFilters,
      (f.isEmpty = true ↔ Query.clauses f = []) ∧
        (Query.clauses f).length = f.narrows.count true ∧
        (Query.ofFilters f).toJson =
          .obj [("bool", .obj [("filter", .arr ((Query.clauses f).map Query.toJson))])]) ∧
    ∀ (body : List UInt8) (f : TransactionFilters), Body.downloadFilters body = .ok f →
      ∀ query : String,
        Endpoint.downloadCount.call [] query body = .ok (some (.downloadCount f)) ∧
        (f ≠ {} → Query.clauses f ≠ []) ∧
        ∀ c : Circumstances,
          (∀ (σ : Type) (b : Backend σ) (s : σ),
            IsCount b c.downloadLimit f s (((Call.downloadCount f).inquiry c).run b s)) ∧
          ∀ (index : SearchIndex) (address : Url),
            index.address (.count (Query.ofFilters f)) = .ok address → ∀ m : Memory,
              IsSent c.downloadLimit f m (((Call.downloadCount f).inquiry c).run
                (Memory.backend { search := some (index, Script.wire) } fun _ => none) m) := by
  refine ⟨fun f => ⟨Query.isEmpty_iff_clauses f, Query.length_clauses f,
    Query.toJson_ofFilters f⟩, fun body f hbody query => ⟨?_, fun hne hnil => ?_, fun c =>
      ⟨fun σ b s => isCount_run b c f s, fun index address haddress m =>
        isSent_run haddress c m⟩⟩⟩
  · simp only [Endpoint.call, hbody]
    rfl
  · exact hne (TransactionFilters.isEmpty_iff.mp ((Query.isEmpty_iff_clauses f).mpr hnil))

end DownloadCount

end Outlays
