import Outlays.Proofs.Results
import Outlays.Proofs.Search.Exchange
import Outlays.Search.Script

/-!
# Calls that share the replies of an index

Any number of calls are made of an index, one after the other, and the index replies as it likes. A
call takes one reply for each request that it sends, and knows nothing of the calls before it: so it
comes to what it would come to alone, with the replies that are left. What that is depends on the
kind of the call. A count sends one request. Totals send a second one if there are groups, for the
same query and as many groups. Whatever is wrong with a reply is the end of the call, which then
says what it was and makes nothing of the replies so far.

## Main definitions

* `SearchCall`, `SearchTurn` — a call, with what it sends and what it comes to
* `Script.turn`, `Script.turns` — one call alone, and calls in a row
* `CountTurn`, `TotalsTurn`, `SearchTurn.Fits` — what a call comes to, by the replies

## Main results

* `Exchange.Steady.bind`, `SearchCall.steady_perform` — a call takes a reply for each request
* `Script.turns_cons`, `Script.eq_turn_of_turns_eq` — a call among others is as it is alone
* `Script.turns_fit` — all calls of a run
-/

namespace Outlays

/-- The reply to the next request. -/
def Script.nextReply (replies : List Reply) : Reply := replies.head?.getD spent

namespace Exchange

variable {α β : Type}

/-! ## Exchanges on a script -/

/-- From the same replies the exchange does the same, whatever has been sent before, and it takes
one reply for each request that it sends. -/
def Steady (x : Exchange Script α) : Prop :=
  ∀ replies, ∃ sent result, ∀ log,
    x.run ⟨replies, log⟩ = (result, ⟨replies.drop sent.length, log ++ sent⟩)

theorem steady_pure (a : α) : Steady (pure a) := by
  intro replies
  refine ⟨[], .ok a, fun log => ?_⟩
  rw [List.append_nil]
  rfl

theorem steady_throw (how : Failure) : Steady (throw how : Exchange Script α) := by
  intro replies
  refine ⟨[], .error how, fun log => ?_⟩
  rw [List.append_nil]
  rfl

theorem Steady.bind {x : Exchange Script α} {f : α → Exchange Script β} (hx : Steady x)
    (hf : ∀ a, Steady (f a)) : Steady (x >>= f) := by
  intro replies
  obtain ⟨sent, result, hrun⟩ := hx replies
  cases result with
  | error how =>
    refine ⟨sent, .error how, fun log => ?_⟩
    rw [run_bind, hrun]
  | ok a =>
    -- The second exchange starts where the first one has left the script.
    obtain ⟨sent', result', hrun'⟩ := hf a (replies.drop sent.length)
    refine ⟨sent ++ sent', result', fun log => ?_⟩
    rw [run_bind, hrun]
    dsimp only
    rw [hrun', List.drop_drop, List.length_append, List.append_assoc]

variable {index : SearchIndex} {request : SearchRequest} {read : Json.Reader α} {address : Url}

/-- A request takes the next reply. -/
theorem run_send_script (haddress : index.address request = .ok address) (replies : List Reply)
    (log : List SearchRequest) :
    (send Script.wire index request read).run ⟨replies, log⟩ =
      (outcome address read (Script.nextReply replies), ⟨replies.drop 1, log ++ [request]⟩) :=
  run_send haddress _

theorem steady_send (index : SearchIndex) (request : SearchRequest) (read : Json.Reader α) :
    Steady (send Script.wire index request read) := by
  intro replies
  cases haddress : index.address request with
  | error how =>
    refine ⟨[], .error how, fun log => ?_⟩
    rw [run_send_of_error haddress, List.append_nil]
    rfl
  | ok address => exact ⟨[request], _, fun log => run_send_script haddress replies log⟩

end Exchange

/-! ## Calls -/

/-- What an index is asked for. -/
inductive SearchCall where
  | count (filters : TransactionFilters)
  | totals (filters : TransactionFilters) (grouping : Grouping)

namespace SearchCall

/-- What a call comes to. -/
def Answer : SearchCall → Type
  | .count _ => Nat
  | .totals _ _ => List Totals

/-- The first request of a call. -/
def first : SearchCall → SearchRequest
  | .count filters => .count (Query.ofFilters filters)
  | .totals filters grouping => .groups (Query.ofFilters filters) grouping

/-- The exchange that a call is. -/
def perform {σ : Type} (wire : Wire σ) (index : SearchIndex) :
    (c : SearchCall) → Exchange σ c.Answer
  | .count filters => Exchange.countTransactions wire index filters
  | .totals filters grouping => Exchange.recipientTotals wire index filters grouping

/-- A call takes one reply for each request. -/
theorem steady_perform (index : SearchIndex) (c : SearchCall) :
    Exchange.Steady (c.perform Script.wire index) := by
  cases c with
  | count filters => exact Exchange.steady_send _ _ _
  | totals filters grouping =>
    simp only [perform, Exchange.recipientTotals_eq]
    refine (Exchange.steady_send _ _ _).bind fun size => ?_
    split
    · exact Exchange.steady_pure []
    · refine (Exchange.steady_send _ _ _).bind fun buckets => ?_
      split
      · exact Exchange.steady_pure _
      · exact Exchange.steady_throw _

/-- Without an address for its first request a call sends nothing. -/
theorem run_perform_of_error {σ : Type} {wire : Wire σ} {index : SearchIndex} (c : SearchCall)
    {how : Failure} (haddress : index.address c.first = .error how) (s : σ) :
    (c.perform wire index).run s = (.error how, s) := by
  cases c with
  | count filters => exact Exchange.run_send_of_error haddress s
  | totals filters grouping =>
    rw [first] at haddress
    have hrun : (Exchange.recipientTotals wire index filters grouping).run s = (.error how, s) := by
      rw [Exchange.recipientTotals_eq, Exchange.run_bind, Exchange.run_send_of_error haddress]
    exact hrun

end SearchCall

/-- A call that has been made: what it has sent, and what it has come to. -/
structure SearchTurn where
  call : SearchCall
  sent : List SearchRequest
  result : Except Failure call.Answer

namespace Script

/-- A call alone, with these replies to come. -/
def turn (index : SearchIndex) (c : SearchCall) (replies : List Reply) : SearchTurn :=
  let ended := (c.perform wire index).run { replies }
  ⟨c, ended.2.sent, ended.1⟩

/-- Calls one after the other, on one script. -/
def turns (index : SearchIndex) : List SearchCall → Script → List SearchTurn
  | [], _ => []
  | c :: rest, s =>
    let ended := (c.perform wire index).run s
    ⟨c, ended.2.sent.drop s.sent.length, ended.1⟩ :: turns index rest ended.2

theorem map_call_turns (index : SearchIndex) (calls : List SearchCall) (s : Script) :
    (turns index calls s).map (·.call) = calls := by
  induction calls generalizing s with
  | nil => rfl
  | cons c calls ih => exact congrArg (c :: ·) (ih _)

/-- The first of some calls is as it is alone, and takes as many replies from the others as it sends
requests. -/
theorem turns_cons (index : SearchIndex) (c : SearchCall) (calls : List SearchCall)
    (replies : List Reply) (log : List SearchRequest) :
    turns index (c :: calls) ⟨replies, log⟩ = turn index c replies ::
      turns index calls
        ⟨replies.drop (turn index c replies).sent.length, log ++ (turn index c replies).sent⟩ := by
  obtain ⟨sent, result, hrun⟩ := c.steady_perform index replies
  -- The same run with an empty log is the call alone.
  have halone : turn index c replies = ⟨c, sent, result⟩ := by
    simp only [turn, hrun, List.nil_append]
  rw [halone]
  simp only [turns, hrun, List.drop_left]

/-- Each of some calls is as it is alone, with the replies that the calls before it have left. -/
theorem eq_turn_of_turns_eq {index : SearchIndex} {calls : List SearchCall} {replies : List Reply}
    {log : List SearchRequest} {before after : List SearchTurn} {t : SearchTurn}
    (h : turns index calls ⟨replies, log⟩ = before ++ t :: after) :
    t = turn index t.call (replies.drop (before.flatMap (·.sent)).length) := by
  -- By induction on the calls before it, each of which takes its replies from those that follow.
  induction before generalizing calls replies log with
  | nil =>
    cases calls with
    | nil => cases h
    | cons c calls =>
      rw [turns_cons] at h
      obtain ⟨rfl, -⟩ := List.cons.inj h
      rfl
  | cons first before ih =>
    cases calls with
    | nil => cases h
    | cons c calls =>
      rw [turns_cons] at h
      obtain ⟨hfirst, hrest⟩ := List.cons.inj h
      have ht := ih hrest
      rw [hfirst] at ht
      rwa [List.drop_drop, ← List.length_append, ← List.flatMap_cons] at ht

end Script

/-! ## What a call comes to -/

/-- The query of a request. -/
def SearchRequest.query : SearchRequest → Query
  | .count query | .groups query _ | .totals query _ _ => query

/-- It stands in the body under its name. -/
theorem SearchRequest.field?_query_body (r : SearchRequest) :
    r.body.field? "query" = some r.query.toJson := by
  cases r <;> rfl

/-- The number of groups that a written request for totals asks for. -/
def SearchRequest.termsSize? (r : SearchRequest) : Option Json :=
  (((r.body.field? "aggs").bind (·.field? "group_by_recipient")).bind (·.field? "terms")).bind
    (·.field? "size")

/-- A count by the reply to its one request. -/
structure CountTurn (filters : TransactionFilters) (reply : Reply) (sent : List SearchRequest)
    (result : Except Failure ℕ) : Prop where
  sent_eq : sent = [.count (Query.ofFilters filters)]
  counted : ∀ n, reply.Yields Answer.count n → result = .ok n
  failed : (∀ n, ¬ reply.Yields Answer.count n) →
    ∃ how, result = .error how ∧ reply.Blames Answer.count how

/-- Totals of groups by the reply to the second request. -/
structure GroupedTurn (grouping : Grouping) (reply : Reply)
    (result : Except Failure (List Totals)) : Prop where
  /-- The reply has a bucket for each group, and all keys can be read. -/
  totalled : ∀ buckets, reply.Yields Answer.buckets buckets →
    (grouping = .child → ∀ b ∈ buckets, ∃ child, Bucket.childOf b.key = .ok child) →
      ∃ totals, result = .ok totals ∧
        List.Forall₂ (fun b t => b.totals grouping = .ok t) buckets totals
  /-- The key of one bucket cannot be read. -/
  badKey : ∀ buckets, reply.Yields Answer.buckets buckets → grouping = .child →
    (∃ b ∈ buckets, ∀ child, Bucket.childOf b.key ≠ .ok child) →
      ∃ words, result = .error (.garbled words)
  failed : (∀ buckets, ¬ reply.Yields Answer.buckets buckets) →
    ∃ how, result = .error how ∧ reply.Blames Answer.buckets how

/-- Totals by the reply to the first request, and to the second one if that is sent. -/
structure TotalsTurn (filters : TransactionFilters) (grouping : Grouping) (first second : Reply)
    (sent : List SearchRequest) (result : Except Failure (List Totals)) : Prop where
  query : ∀ request ∈ sent, request.body.field? "query" = some (Query.ofFilters filters).toJson
  second_iff : sent.length = 2 ↔ ∃ size, 0 < size ∧ first.Yields Answer.groups (some size)
  failed : (∀ size, ¬ first.Yields Answer.groups size) →
    sent = [.groups (Query.ofFilters filters) grouping] ∧
      ∃ how, result = .error how ∧ first.Blames Answer.groups how
  noGroups : ∀ size, first.Yields Answer.groups size → size = none ∨ size = some 0 →
    sent = [.groups (Query.ofFilters filters) grouping] ∧ result = .ok []
  grouped : ∀ size, first.Yields Answer.groups (some size) → 0 < size →
    sent = [.groups (Query.ofFilters filters) grouping,
        .totals (Query.ofFilters filters) grouping size] ∧
      (SearchRequest.totals (Query.ofFilters filters) grouping size).termsSize? =
        some (.nat size) ∧
      GroupedTurn grouping second result

/-- The call has come to what the replies to its requests make of it. Without an address for its
requests nothing is sent, and no reply is taken. -/
inductive SearchTurn.Fits (index : SearchIndex) (first second : Reply) : SearchTurn → Prop where
  | unsent {c : SearchCall} {how : Failure} (haddress : index.address c.first = .error how) :
      Fits index first second ⟨c, [], .error how⟩
  | count {filters : TransactionFilters} {address : Url} {sent : List SearchRequest}
      {result : Except Failure ℕ}
      (haddress : index.address (SearchCall.count filters).first = .ok address)
      (h : CountTurn filters first sent result) :
      Fits index first second ⟨.count filters, sent, result⟩
  | totals {filters : TransactionFilters} {grouping : Grouping} {address : Url}
      {sent : List SearchRequest} {result : Except Failure (List Totals)}
      (haddress : index.address (SearchCall.totals filters grouping).first = .ok address)
      (h : TotalsTurn filters grouping first second sent result) :
      Fits index first second ⟨.totals filters grouping, sent, result⟩

/-! ### Buckets -/

namespace Bucket

variable {grouping : Grouping} {b : Bucket} {buckets : List Bucket}

/-- Nothing is wrong with a bucket but the key of a child. -/
theorem exists_of_totals_eq_error {reason : String} (h : b.totals grouping = .error reason) :
    grouping = .child ∧ ∀ child, childOf b.key ≠ .ok child := by
  rw [totals] at h
  by_cases hchild : grouping = .child
  · refine ⟨hchild, fun child hkey => ?_⟩
    rw [if_pos hchild, hkey] at h
    cases h
  · rw [if_neg hchild] at h
    cases h

theorem exists_of_totals_eq_ok {t : Totals} (h : b.totals .child = .ok t) :
    ∃ child, childOf b.key = .ok child := by
  rw [totals, if_pos rfl] at h
  cases hkey : childOf b.key with
  | ok child => exact ⟨child, rfl⟩
  | error reason =>
    rw [hkey] at h
    cases h

/-- The totals of all buckets, unless one of them has none. -/
def allTotals (grouping : Grouping) (buckets : List Bucket) : Except Failure (List Totals) :=
  (buckets.mapM (totals grouping)).mapError .garbled

theorem exists_allTotals_eq_ok
    (h : grouping = .child → ∀ b ∈ buckets, ∃ child, childOf b.key = .ok child) :
    ∃ ts, allTotals grouping buckets = .ok ts ∧
      List.Forall₂ (fun b t => b.totals grouping = .ok t) buckets ts := by
  rw [allTotals]
  cases htotals : buckets.mapM (totals grouping) with
  | ok ts => exact ⟨ts, rfl, forall₂_of_mapM_eq_ok htotals⟩
  | error reason =>
    obtain ⟨b, hb, herror⟩ := exists_of_mapM_eq_error htotals
    obtain ⟨hchild, hbad⟩ := exists_of_totals_eq_error herror
    obtain ⟨child, hkey⟩ := h hchild b hb
    exact absurd hkey (hbad child)

theorem exists_allTotals_eq_error (hmem : b ∈ buckets)
    (hbad : ∀ child, childOf b.key ≠ .ok child) :
    ∃ reason, allTotals .child buckets = .error (.garbled reason) := by
  rw [allTotals]
  cases htotals : buckets.mapM (totals .child) with
  | error reason => exact ⟨reason, rfl⟩
  | ok ts =>
    obtain ⟨t, -, ht⟩ := exists_right_of_forall₂ (forall₂_of_mapM_eq_ok htotals) hmem
    obtain ⟨child, hkey⟩ := exists_of_totals_eq_ok ht
    exact absurd hkey (hbad child)

end Bucket

/-! ### Calls -/

namespace Exchange

variable {index : SearchIndex} {address : Url} {filters : TransactionFilters} {grouping : Grouping}
  {replies : List Reply} {log : List SearchRequest}

/-- A count ends with what the reply to its request comes to. -/
theorem countTurn (haddress : index.address (.count (Query.ofFilters filters)) = .ok address) :
    let ended := (countTransactions Script.wire index filters).run ⟨replies, []⟩
    CountTurn filters (Script.nextReply replies) ended.2.sent ended.1 := by
  have hrun : (countTransactions Script.wire index filters).run ⟨replies, []⟩ = _ :=
    run_send_script haddress replies []
  rw [hrun]
  refine ⟨rfl, fun n hn => outcome_eq_ok_iff.mpr hn, fun hnone => ?_⟩
  cases houtcome : outcome address Answer.count (Script.nextReply replies) with
  | ok n => exact absurd (outcome_eq_ok_iff.mp houtcome) (hnone n)
  | error how => exact ⟨how, rfl, blames_of_outcome houtcome⟩

/-- The second reply comes to totals, one for each bucket, or to a failure. -/
theorem groupedTurn (address : Url) (grouping : Grouping) (reply : Reply) :
    GroupedTurn grouping reply
      (outcome address Answer.buckets reply >>= Bucket.allTotals grouping) where
  totalled buckets hyields hkeys := by
    rw [outcome_eq_ok_iff.mpr hyields]
    exact Bucket.exists_allTotals_eq_ok hkeys
  badKey buckets hyields hchild hbad := by
    obtain ⟨b, hmem, hbad⟩ := hbad
    rw [outcome_eq_ok_iff.mpr hyields, hchild]
    exact Bucket.exists_allTotals_eq_error hmem hbad
  failed hnone := by
    cases houtcome : outcome address Answer.buckets reply with
    | ok buckets => exact absurd (outcome_eq_ok_iff.mp houtcome) (hnone buckets)
    | error how => exact ⟨how, rfl, blames_of_outcome houtcome⟩

/-- The second request takes the next reply, and ends the exchange. -/
theorem run_totals {size : ℕ}
    (haddress : index.address (.totals (Query.ofFilters filters) grouping size) = .ok address) :
    (send Script.wire index (.totals (Query.ofFilters filters) grouping size) Answer.buckets >>=
        fun buckets =>
          (match buckets.mapM (Bucket.totals grouping) with
            | .ok totals => pure totals
            | .error reason => throw (.garbled reason) : Exchange Script (List Totals))).run
        ⟨replies, log⟩ =
      (outcome address Answer.buckets (Script.nextReply replies) >>= Bucket.allTotals grouping,
        ⟨replies.drop 1, log ++ [.totals (Query.ofFilters filters) grouping size]⟩) := by
  rw [run_bind, run_send_script haddress]
  cases outcome address Answer.buckets (Script.nextReply replies) with
  | error how => rfl
  | ok buckets =>
    dsimp only
    have hall : (Except.ok buckets >>= Bucket.allTotals grouping) =
        Bucket.allTotals grouping buckets := rfl
    rw [hall, Bucket.allTotals]
    cases buckets.mapM (Bucket.totals grouping) with
    | ok totals => rfl
    | error reason => rfl

/-- The groups are counted, and there are none: that is all. -/
theorem run_recipientTotals_of_none
    (haddress : index.address (.groups (Query.ofFilters filters) grouping) = .ok address)
    {size : Option ℕ}
    (hsize : outcome address Answer.groups (Script.nextReply replies) = .ok size)
    (hnone : size = none ∨ size = some 0) :
    (recipientTotals Script.wire index filters grouping).run ⟨replies, log⟩ =
      (.ok [], ⟨replies.drop 1, log ++ [.groups (Query.ofFilters filters) grouping]⟩) := by
  rw [recipientTotals_eq, run_bind, run_send_script haddress, hsize]
  dsimp only
  rw [if_pos (by rcases hnone with rfl | rfl <;> rfl)]
  rfl

/-- There are groups: their totals are asked for at the same address. -/
theorem run_recipientTotals_of_some
    (haddress : index.address (.groups (Query.ofFilters filters) grouping) = .ok address)
    {size : ℕ} (hsize : outcome address Answer.groups (Script.nextReply replies) = .ok (some size))
    (hpos : 0 < size) :
    (recipientTotals Script.wire index filters grouping).run ⟨replies, log⟩ =
      (outcome address Answer.buckets (Script.nextReply (replies.drop 1)) >>=
          Bucket.allTotals grouping,
        ⟨(replies.drop 1).drop 1, log ++ [.groups (Query.ofFilters filters) grouping] ++
          [.totals (Query.ofFilters filters) grouping size]⟩) := by
  rw [recipientTotals_eq, run_bind, run_send_script haddress, hsize]
  dsimp only [Option.getD_some]
  rw [if_neg (Nat.ne_of_gt hpos)]
  exact run_totals haddress

/-- The groups cannot be counted: that is all. -/
theorem run_recipientTotals_of_error
    (haddress : index.address (.groups (Query.ofFilters filters) grouping) = .ok address)
    {how : Failure}
    (hhow : outcome address Answer.groups (Script.nextReply replies) = .error how) :
    (recipientTotals Script.wire index filters grouping).run ⟨replies, log⟩ =
      (.error how, ⟨replies.drop 1, log ++ [.groups (Query.ofFilters filters) grouping]⟩) := by
  rw [recipientTotals_eq, run_bind, run_send_script haddress, hhow]

/-- An exchange for totals ends with what the replies to its requests come to. -/
theorem totalsTurn
    (haddress : index.address (.groups (Query.ofFilters filters) grouping) = .ok address) :
    let ended := (recipientTotals Script.wire index filters grouping).run ⟨replies, []⟩
    TotalsTurn filters grouping (Script.nextReply replies) (Script.nextReply (replies.drop 1))
      ended.2.sent ended.1 := by
  have hyields (size : Option ℕ) : (Script.nextReply replies).Yields Answer.groups size ↔
      outcome address Answer.groups (Script.nextReply replies) = .ok size :=
    outcome_eq_ok_iff.symm
  -- The first reply decides which of the three ways the exchange goes.
  cases houtcome : outcome address Answer.groups (Script.nextReply replies) with
  | error how =>
    rw [run_recipientTotals_of_error haddress houtcome]
    simp only [houtcome, reduceCtorEq, iff_false] at hyields
    exact {
      query := by simp [SearchRequest.field?_query_body, SearchRequest.query]
      second_iff := by simp [hyields]
      failed := fun _ => ⟨rfl, how, rfl, blames_of_outcome houtcome⟩
      noGroups := fun size h => absurd h (hyields size)
      grouped := fun size h => absurd h (hyields _) }
  | ok size =>
    simp only [houtcome, Except.ok.injEq] at hyields
    have hcases : (size = none ∨ size = some 0) ∨ ∃ n, 0 < n ∧ size = some n := by
      match size with
      | none => exact .inl (.inl rfl)
      | some 0 => exact .inl (.inr rfl)
      | some (n + 1) => exact .inr ⟨n + 1, n.succ_pos, rfl⟩
    obtain hnone | ⟨n, hpos, rfl⟩ := hcases
    · rw [run_recipientTotals_of_none haddress houtcome hnone]
      have hno : ∀ m, 0 < m → size ≠ some m := by
        rintro m hm rfl
        simp at hnone
        omega
      exact {
        query := by simp [SearchRequest.field?_query_body, SearchRequest.query]
        second_iff := by simpa [hyields] using hno
        failed := fun h => absurd ((hyields size).mpr rfl) (h size)
        noGroups := fun _ _ _ => ⟨rfl, rfl⟩
        grouped := fun m h hm => absurd ((hyields _).mp h) (hno m hm) }
    · rw [run_recipientTotals_of_some haddress houtcome hpos]
      exact {
        query := by simp [SearchRequest.field?_query_body, SearchRequest.query]
        second_iff := by simpa [hyields] using hpos
        failed := fun h => absurd ((hyields _).mpr rfl) (h _)
        noGroups := by
          intro m h hm
          obtain rfl := (hyields m).mp h
          simp at hm
          omega
        grouped := by
          intro m h _
          obtain rfl : n = m := Option.some.inj ((hyields _).mp h)
          exact ⟨rfl, rfl, groupedTurn address grouping _⟩ }

end Exchange

namespace Script

/-- A call alone comes to what the replies to its requests make of it. -/
theorem fits_turn (index : SearchIndex) (c : SearchCall) (replies : List Reply) :
    (turn index c replies).Fits index (nextReply replies) (nextReply (replies.drop 1)) := by
  cases haddress : index.address c.first with
  | error how =>
    have hrun : (c.perform wire index).run { replies } = (.error how, { replies }) :=
      c.run_perform_of_error haddress _
    have hturn : turn index c replies = ⟨c, [], .error how⟩ := by
      rw [turn, hrun]
    rw [hturn]
    exact .unsent haddress
  | ok address =>
    cases c with
    | count filters => exact .count haddress (Exchange.countTurn haddress)
    | totals filters grouping => exact .totals haddress (Exchange.totalsTurn haddress)

/-- Calls of an index one after the other, whatever the calls and whatever the replies. Each call
is made as if it were alone, with the replies that the requests of the calls before it have left,
and comes to what these make of it: a count by the reply to its one request, and totals by the
replies to one request or two. -/
theorem turns_fit (index : SearchIndex) (calls : List SearchCall) (replies : List Reply) :
    (turns index calls { replies }).map (·.call) = calls ∧
      ∀ before t after, turns index calls { replies } = before ++ t :: after →
        let left := replies.drop (before.flatMap (·.sent)).length
        t = turn index t.call left ∧ t.Fits index (nextReply left) (nextReply (left.drop 1)) := by
  constructor
  · exact map_call_turns index calls _
  · intro before t after h left
    have ht : t = turn index t.call left := eq_turn_of_turns_eq h
    refine ⟨ht, ?_⟩
    rw [ht]
    exact fits_turn index _ left

end Script

/-- Three calls take four replies, the last two of which are failures. -/
example :
    let index : SearchIndex :=
      ⟨['h', 't', 't', 'p'], some ⟨none, ['s'], none⟩, .rooted ['/'], none, none⟩
    let groups := "\x7b\"aggregations\":\x7b\"unique_terms\":\x7b\"value\":2\x7d\x7d\x7d"
    (Script.turns index [.count {}, .totals {} .recipient, .count {}]
      { replies := [.answered 200 (Text.encode "\x7b\"count\":7\x7d"),
          .answered 200 (Text.encode groups), .late, .unreachable] }).map (·.sent.length) =
      [1, 2, 1] := by
  decide +kernel

end Outlays
