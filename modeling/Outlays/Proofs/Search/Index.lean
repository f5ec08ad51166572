import Mathlib.Algebra.BigOperators.Group.List.Basic
import Outlays.Proofs.Json.Records
import Outlays.Proofs.Number.Value
import Outlays.Proofs.Search.Documents
import Outlays.Proofs.Search.Exchange

/-!
# What an exact index answers

A request asks the index for figures of the documents that its query matches. An exact index finds
those documents one by one and computes each figure from them: a number of documents, a number of
different values, a sum of scaled amounts, and the same for the groups of a field. This file says
what the written requests mean, construct by construct, and without a look at how they were made.

Only the first group is looked at where all matching documents have one and the same value in the
field they are grouped by. The groups come with the largest one first, and that one holds all of
the documents, so its figures are those of a fold over the matching documents.

## Main definitions

* `scaledTotal` — the sum over documents of an amount, scaled by 100
* `Aggregates` — an exact answer to a written aggregation
* `Answers`, `Exact` — an exact answer to a request, and an index that gives no other
* `Totals.ofDocuments` — the totals of documents, by a fold over them

## Main results

* `Bucket.totals_of_aggregates` — the totals that are read out of a bucket
* `Exchange.head_recipientTotals` — the first totals of an exchange, where the field they are
  grouped by has one value
-/

namespace Outlays

/-! ## Figures of documents -/

/-- The amounts in a field. -/
def Document.amounts (d : Document) (field : String) : List ℚ :=
  (d.values field).filterMap fun
    | .amount q => some q
    | _ => none

/-- The sum over documents of the amounts in a field, each scaled by 100. -/
def scaledTotal (docs : List Document) (field : String) : ℚ :=
  ((docs.flatMap fun d => d.amounts field).map (· * 100)).sum

/-- The document is about a loan. -/
def Document.IsLoan (d : Document) : Prop :=
  d.Has "type" (.text "07") ∨ d.Has "type" (.text "08")

instance (d : Document) : Decidable d.IsLoan := inferInstanceAs (Decidable (_ ∨ _))

/-- A JSON number that is read as a double is the number. -/
def Json.StandsFor (v : Json) (q : ℚ) : Prop :=
  ∃ x, Json.Reader.double v = .ok x ∧ Double.value? x = some q

/-- The texts in a field of documents, each once, those in most documents first. -/
structure Ranks (docs : List Document) (field : String) (keys : List String) : Prop where
  nodup : keys.Nodup
  mem_iff (key : String) : key ∈ keys ↔ ∃ d ∈ docs, d.Has field (.text key)
  sorted : keys.Pairwise fun key next =>
    docs.countP (fun d => d.Has field (.text next)) ≤ docs.countP fun d => d.Has field (.text key)

/-! ## Written aggregations -/

mutual

/-- The result is exact for an aggregation, as it is written, over the documents: for a number of
different values, a sum of values times 100, the documents that meet a condition, and the groups of
documents with the same text in a field. Both of the latter come with aggregations of their own. -/
def Aggregates : Json → List Document → Json → Prop
  | .obj [("cardinality", .obj [("field", .str field), ("precision_threshold", .num _)])],
      docs, result =>
    result.field? "value" = some (.nat (docs.flatMap fun d => d.values field).eraseDups.length)
  | .obj [("sum", .obj [("field", .str field),
      ("script", .obj [("source", .str "_value * 100")])])], docs, result =>
    ∃ v, result.field? "value" = some v ∧ v.StandsFor (scaledTotal docs field)
  | .obj [("filter", condition), ("aggs", .obj parts)], docs, result =>
    result.field? "doc_count" = some (.nat (docs.countP fun d => d.meets condition)) ∧
      AggregatesAll parts (docs.filter fun d => d.meets condition) result
  | .obj [("terms", .obj [("field", .str field), ("size", .num (.whole size))]),
      ("aggs", .obj parts)], docs, result =>
    ∃ keys buckets, Ranks docs field keys ∧ result.field? "buckets" = some (.arr buckets) ∧
      List.Forall₂ (fun key bucket =>
        bucket.field? "key" = some (.str key) ∧
          bucket.field? "doc_count" =
            some (.nat (docs.countP fun d => d.Has field (.text key))) ∧
          AggregatesAll parts (docs.filter fun d => d.Has field (.text key)) bucket)
        (keys.take size.toNat) buckets
  | _, _, _ => False

/-- The result has an exact part for each of the named aggregations. -/
def AggregatesAll : List (String × Json) → List Document → Json → Prop
  | [], _, _ => True
  | (name, aggregation) :: rest, docs, result =>
    (∃ v, result.field? name = some v ∧ Aggregates aggregation docs v) ∧
      AggregatesAll rest docs result

end

/-- The answer is exact for the body of a request to an index with these documents. -/
def Answers (corpus : List Document) (body answer : Json) : Prop :=
  match body with
  | .obj [("query", condition)] =>
    answer.field? "count" = some (.nat (corpus.countP fun d => d.meets condition))
  | .obj [("size", .num _), ("query", condition), ("aggs", .obj parts)] =>
    ∃ v, answer.field? "aggregations" = some v ∧
      AggregatesAll parts (corpus.filter fun d => d.meets condition) v
  | _ => False

/-- The index has these documents, and answers exactly where it answers. Each field that documents
are grouped by comes with the hashes of its values. -/
structure Exact {σ : Type} (wire : Wire σ) (corpus : List Document) : Prop where
  hashed : ∃ hash : FieldValue → FieldValue, ∀ d ∈ corpus, ∀ grouping : Grouping,
    d.values (grouping.field ++ ".hash") = (d.values grouping.field).map hash
  answers {request : SearchRequest} {s : σ} {status : Nat} {body : List UInt8} {answer : Json} :
    (wire request s).1 = .answered status body → 200 ≤ status → status < 300 →
      Json.parseBytes body = some answer → Answers corpus request.body answer

/-- The totals of documents. -/
def Totals.ofDocuments (docs : List Document) : Totals where
  obligations := ⟨clampToInt64 (wholePart (scaledTotal docs "generated_pragmatic_obligation"))⟩
  transactions := docs.length
  loans := ⟨clampToInt64 (wholePart (scaledTotal (docs.filter fun d => d.IsLoan)
    "face_value_loan_guarantee"))⟩
  loanTransactions := docs.countP fun d => d.IsLoan

/-- No documents have no totals. -/
theorem Totals.ofDocuments_nil : Totals.ofDocuments [] = {} := by
  decide +kernel

/-! ## Reading exact answers -/

theorem readCount_nat {n m : Nat} (h : Bucket.readCount (.nat n) = .ok m) : m = n := by
  obtain ⟨i, hi, rfl⟩ := exists_of_map_eq_ok h
  simp only [Json.Reader.within, Json.nat] at hi
  split at hi
  · obtain rfl := Except.ok.inj hi
    exact Int.toNat_natCast n
  · cases hi

/-- A value that is not null. -/
theorem readValue_of_field? {α : Type} {read : Json.Reader α} {j v : Json} {given : Option α}
    (h : Bucket.readValue read j = .ok given) (hvalue : j.field? "value" = some v)
    (hnull : v ≠ .null) : ∃ a, read v = .ok a ∧ given = some a := by
  obtain ⟨r, hr, hmay⟩ := exists_of_bind_eq_ok h
  exact Json.Record.may_of_read (Json.Record.value?_of_read (List.pairwise_singleton _ _) hr
    List.mem_cons_self rfl hvalue) hnull hmay

/-- A sum that is exact, in cents. -/
theorem cents_of_standsFor {j v : Json} {q : ℚ} {sum : Option Float}
    (h : Bucket.readValue Json.Reader.double j = .ok sum) (hvalue : j.field? "value" = some v)
    (hexact : v.StandsFor q) : Bucket.cents sum = ⟨clampToInt64 (wholePart q)⟩ := by
  obtain ⟨x, hx, hq⟩ := hexact
  -- A value that is null would count as zero, but it stands for no number.
  have hnull : v ≠ .null := by
    rintro rfl
    cases hx
  obtain ⟨y, hy, rfl⟩ := readValue_of_field? h hvalue hnull
  obtain rfl : x = y := Except.ok.inj (hx.symm.trans hy)
  rw [Bucket.cents, Option.map_some, Option.getD_some, Cents.ofScaledSum,
    Double.truncate_of_value? hq]

variable {docs : List Document}

/-- The sums of a group are written as exact sums. -/
theorem standsFor_of_scaledSum {field : String} {result : Json}
    (h : Aggregates (SearchRequest.scaledSum field) docs result) :
    ∃ v, result.field? "value" = some v ∧ v.StandsFor (scaledTotal docs field) := by
  simpa only [SearchRequest.scaledSum, Aggregates] using h

/-- Loans are told by their type. -/
theorem meets_loanTypes (d : Document) :
    d.meets (.obj [("terms", .obj [("type", .texts loanTypes)])]) = decide d.IsLoan := by
  have h : d.meets (Query.oneOf "type" loanTypes).toJson = true ↔ d.IsLoan := by
    rw [Document.meets_oneOf_iff, Document.IsLoan]
    simp [loanTypes]
  rw [Query.toJson] at h
  rw [Bool.eq_iff_iff, h, decide_eq_true_iff]

/-- The aggregations that are made of every group. -/
def groupParts : List (String × Json) :=
  [("sum_obligation", SearchRequest.scaledSum "generated_pragmatic_obligation"),
    ("filter_loans", .obj [
      ("filter", .obj [("terms", .obj [("type", .texts loanTypes)])]),
      ("aggs", .obj [("sum_face_value_loan",
        SearchRequest.scaledSum "face_value_loan_guarantee")])])]

theorem totalsOfGroup_eq : SearchRequest.totalsOfGroup = .obj groupParts := rfl

/-- The figures of a group, where they are exact. -/
theorem figures_of_aggregates {bucket : Json} (h : AggregatesAll groupParts docs bucket) :
    ∃ obligations v loans face w, bucket.field? "sum_obligation" = some obligations ∧
      obligations.field? "value" = some v ∧
      v.StandsFor (scaledTotal docs "generated_pragmatic_obligation") ∧
      bucket.field? "filter_loans" = some loans ∧
      loans.field? "doc_count" = some (.nat (docs.countP fun d => d.IsLoan)) ∧
      loans.field? "sum_face_value_loan" = some face ∧ face.field? "value" = some w ∧
      w.StandsFor (scaledTotal (docs.filter fun d => d.IsLoan) "face_value_loan_guarantee") := by
  simp only [groupParts, AggregatesAll, and_true] at h
  obtain ⟨⟨obligations, hobligations, hsum⟩, loans, hloans, hfilter⟩ := h
  obtain ⟨v, hv, hexact⟩ := standsFor_of_scaledSum hsum
  simp only [Aggregates, AggregatesAll, and_true, meets_loanTypes] at hfilter
  obtain ⟨hcount, face, hface, hloanSum⟩ := hfilter
  obtain ⟨w, hw, hloanExact⟩ := standsFor_of_scaledSum hloanSum
  exact ⟨obligations, v, loans, face, w, hobligations, hv, hexact, hloans, hcount, hface, hw,
    hloanExact⟩

/-- The part about loans, where its figures are exact. -/
theorem readLoans_of_field? {j face w : Json} {n : Nat} {q : ℚ} {loans : Nat × Option Float}
    (h : Bucket.readLoans j = .ok loans) (hcount : j.field? "doc_count" = some (.nat n))
    (hface : j.field? "sum_face_value_loan" = some face) (hw : face.field? "value" = some w)
    (hexact : w.StandsFor q) :
    loans.1 = n ∧ Bucket.cents loans.2 = ⟨clampToInt64 (wholePart q)⟩ := by
  obtain ⟨r, hr, h⟩ := exists_of_bind_eq_ok h
  obtain ⟨documents, hdocuments, h⟩ := exists_of_bind_eq_ok h
  obtain ⟨sum, hsum, heq⟩ := exists_of_bind_eq_ok h
  obtain rfl := Except.ok.inj heq
  have hgivenCount := Json.Record.value?_of_read (by decide) hr List.mem_cons_self rfl hcount
  have hgivenSum := Json.Record.value?_of_read (by decide) hr
    (List.mem_cons_of_mem _ List.mem_cons_self) rfl hface
  exact ⟨readCount_nat (Json.Record.need_of_read hgivenCount hdocuments),
    cents_of_standsFor (Json.Record.need_of_read hgivenSum hsum) hw hexact⟩

/-- The totals that are read out of a bucket are those of its documents. -/
theorem Bucket.totals_of_aggregates {grouping : Grouping} {bucket : Json} {b : Bucket} {t : Totals}
    (hgrouping : grouping ≠ .child) (hread : Bucket.read bucket = .ok b)
    (hcount : bucket.field? "doc_count" = some (.nat docs.length))
    (hparts : AggregatesAll groupParts docs bucket) (htotals : b.totals grouping = .ok t) :
    t = .ofDocuments docs := by
  obtain ⟨obligations, v, loans, face, w, hobligations, hv, hexact, hloans, hloanCount, hface, hw,
    hloanExact⟩ := figures_of_aggregates hparts
  obtain ⟨r, hr, hread⟩ := exists_of_bind_eq_ok hread
  obtain ⟨key, -, hread⟩ := exists_of_bind_eq_ok hread
  obtain ⟨documents, hdocuments, hread⟩ := exists_of_bind_eq_ok hread
  obtain ⟨sum, hsum, hread⟩ := exists_of_bind_eq_ok hread
  obtain ⟨loanPart, hloanPart, heq⟩ := exists_of_bind_eq_ok hread
  obtain rfl := Except.ok.inj heq
  -- What stands in the record is what the bucket has under the same names.
  have hgivenCount := Json.Record.value?_of_read (by decide) hr
    (List.mem_cons_of_mem _ List.mem_cons_self) rfl hcount
  have hgivenSum := Json.Record.value?_of_read (by decide) hr
    (List.mem_cons_of_mem _ (List.mem_cons_of_mem _ List.mem_cons_self)) rfl hobligations
  have hgivenLoans := Json.Record.value?_of_read (by decide) hr
    (List.mem_cons_of_mem _ (List.mem_cons_of_mem _ (List.mem_cons_of_mem _ List.mem_cons_self)))
    rfl hloans
  obtain rfl := readCount_nat (Json.Record.need_of_read hgivenCount hdocuments)
  have hcents := cents_of_standsFor (Json.Record.need_of_read hgivenSum hsum) hv hexact
  obtain ⟨hloanDocuments, hloanCents⟩ := readLoans_of_field?
    (Json.Record.need_of_read hgivenLoans hloanPart) hloanCount hface hw hloanExact
  rw [Bucket.totals, if_neg hgrouping] at htotals
  obtain rfl := Except.ok.inj htotals
  rw [Totals.ofDocuments, hcents, hloanCents, hloanDocuments]

/-! ## The first group -/

/-- Where all documents have one text in a field, the text that ranks first is in all of them. -/
theorem Ranks.forall_has_head {field key first : String} {keys : List String}
    (h : Ranks docs field (first :: keys)) (hkey : ∀ d ∈ docs, d.Has field (.text key)) :
    ∀ d ∈ docs, d.Has field (.text first) := by
  by_cases hnil : docs = []
  · subst hnil
    nofun
  -- The common text is in as many documents as there are, and the first one in no fewer.
  · obtain ⟨d, hd⟩ := List.exists_mem_of_ne_nil docs hnil
    have hmem : key ∈ first :: keys := (h.mem_iff key).mpr ⟨d, hd, hkey d hd⟩
    obtain rfl | hmem := List.mem_cons.mp hmem
    · exact hkey
    · have hle := (List.pairwise_cons.mp h.sorted).1 key hmem
      have hall : docs.countP (fun d => d.Has field (.text key)) = docs.length :=
        List.countP_eq_length.mpr fun d hd => decide_eq_true (hkey d hd)
      have hfirst : docs.countP (fun d => d.Has field (.text first)) = docs.length :=
        le_antisymm List.countP_le_length (hall ▸ hle)
      exact fun d hd => of_decide_eq_true (List.countP_eq_length.mp hfirst d hd)

/-! ## Exchanges -/

namespace Exchange

variable {σ α β : Type} {wire : Wire σ} {index : SearchIndex} {corpus : List Document}

/-- Where two exchanges succeed one after the other, the first one does, and the second one from the
state that it leaves. -/
theorem exists_of_run_bind {x : Exchange σ α} {f : α → Exchange σ β} {s : σ} {b : β}
    (h : ((x >>= f).run s).1 = .ok b) :
    ∃ a s', x.run s = (.ok a, s') ∧ ((f a).run s').1 = .ok b := by
  rw [run_bind] at h
  split at h
  · next a s' hx => exact ⟨a, s', hx, h⟩
  · cases h

/-- A request that succeeds is answered, and what is read is an exact answer. -/
theorem exists_answer_of_send (exact : Exact wire corpus) {request : SearchRequest}
    {read : Json.Reader α} {s : σ} {a : α}
    (h : ((send wire index request read).run s).1 = .ok a) :
    ∃ answer, Answers corpus request.body answer ∧ read answer = .ok a := by
  cases haddress : index.address request with
  | error how =>
    rw [run_send_of_error haddress] at h
    cases h
  | ok address =>
    rw [run_send haddress] at h
    generalize hreply : (wire request s).1 = reply at h
    obtain ⟨success, parsed, isRead⟩ := outcome_eq_ok_iff.mp h
    exact ⟨_, exact.answers hreply success.1 success.2 parsed, isRead⟩

/-- What is read of one aggregation of an answer. -/
theorem read_of_aggregation {name : String} {read : Json.Reader α} {answer v w : Json} {a : α}
    (h : Answer.aggregation name read answer = .ok a)
    (haggregations : answer.field? "aggregations" = some v) (hname : v.field? name = some w) :
    read w = .ok a := by
  obtain ⟨r, hr, h⟩ := exists_of_bind_eq_ok h
  have hgiven := Json.Record.value?_of_read (List.pairwise_singleton _ _) hr List.mem_cons_self rfl
    haggregations
  obtain ⟨inner, hinner, h⟩ := exists_of_bind_eq_ok (Json.Record.need_of_read hgiven h)
  have hslot : Json.Slot.mk name [] .refused ∈ [Json.Slot.mk name [] .refused] :=
    List.mem_cons_self
  exact Json.Record.need_of_read
    (Json.Record.value?_of_read (List.pairwise_singleton _ _) hinner hslot rfl hname) h

variable {query : Query} {grouping : Grouping}

/-- The number of groups that is read out of an exact answer. -/
theorem groups_of_answers {answer : Json} {size : Option Nat}
    (h : Answers corpus (SearchRequest.groups query grouping).body answer)
    (hread : Answer.groups answer = .ok size) :
    size = some ((corpus.filter fun d => d.meets query.toJson).flatMap fun d =>
      d.values (grouping.field ++ ".hash")).eraseDups.length := by
  have hfield : s!"{grouping.field}.hash" = grouping.field ++ ".hash" := rfl
  simp only [SearchRequest.body, hfield, Json.nat, Answers, AggregatesAll, Aggregates,
    and_true] at h
  obtain ⟨v, hv, w, hw, hvalue⟩ := h
  obtain ⟨n, hn, rfl⟩ := readValue_of_field? (read_of_aggregation hread hv hw) hvalue
    (by rintro ⟨⟩)
  rw [readCount_nat hn]

/-- The buckets that are read out of an exact answer. -/
theorem buckets_of_answers {answer : Json} {size : Nat} {buckets : List Bucket}
    (h : Answers corpus (SearchRequest.totals query grouping size).body answer)
    (hread : Answer.buckets answer = .ok buckets) :
    ∃ keys items, Ranks (corpus.filter fun d => d.meets query.toJson) grouping.field keys ∧
      items.mapM Bucket.read = .ok buckets ∧
      List.Forall₂ (fun key item =>
        item.field? "doc_count" = some (.nat ((corpus.filter fun d => d.meets query.toJson).countP
            fun d => d.Has grouping.field (.text key))) ∧
          AggregatesAll groupParts ((corpus.filter fun d => d.meets query.toJson).filter fun d =>
            d.Has grouping.field (.text key)) item)
        (keys.take size) items := by
  simp only [SearchRequest.body, Json.nat, totalsOfGroup_eq, Answers, AggregatesAll, Aggregates,
    and_true, Int.toNat_natCast] at h
  obtain ⟨v, hv, w, hw, keys, items, hranks, hitems, hgroups⟩ := h
  obtain ⟨r, hr, hread⟩ := exists_of_bind_eq_ok (read_of_aggregation hread hv hw)
  have hgiven := Json.Record.value?_of_read (List.pairwise_singleton _ _) hr List.mem_cons_self rfl
    hitems
  exact ⟨keys, items, hranks, Json.Record.orElse_of_read hgiven hread,
    hgroups.imp fun key item hgroup => hgroup.2⟩

/-- What an exchange for totals with an exact index comes to. Without groups that is all; else the
groups come as buckets, those of most documents first. -/
theorem eq_nil_or_exists_buckets (exact : Exact wire corpus) {filters : TransactionFilters}
    {docs : List Document} {s : σ} {totals : List Totals}
    (hdocs : corpus.filter (fun d => d.meets (Query.ofFilters filters).toJson) = docs)
    (h : ((recipientTotals wire index filters grouping).run s).1 = .ok totals) :
    ((docs.flatMap fun d => d.values (grouping.field ++ ".hash")) = [] ∧ totals = []) ∨
      ∃ size keys items buckets, 0 < size ∧ Ranks docs grouping.field keys ∧
        List.Forall₂ (fun key item =>
          item.field? "doc_count" =
              some (.nat (docs.countP fun d => d.Has grouping.field (.text key))) ∧
            AggregatesAll groupParts (docs.filter fun d => d.Has grouping.field (.text key)) item)
          (keys.take size) items ∧
        items.mapM Bucket.read = .ok buckets ∧
        buckets.mapM (Bucket.totals grouping) = .ok totals := by
  -- The first request counts the groups.
  obtain ⟨counted, s₁, hcounted, h⟩ := exists_of_run_bind h
  have hsent := congrArg Prod.fst hcounted
  obtain ⟨answer, hanswer, hread⟩ := exists_answer_of_send exact hsent
  have hsize := groups_of_answers hanswer hread
  rw [hdocs] at hsize
  subst hsize
  dsimp only [Option.getD_some] at h
  by_cases hzero : (docs.flatMap fun d => d.values (grouping.field ++ ".hash")).eraseDups.length = 0
  · rw [if_pos hzero] at h
    obtain rfl : [] = totals := Except.ok.inj h
    refine .inl ⟨?_, rfl⟩
    cases hvalues : docs.flatMap fun d => d.values (grouping.field ++ ".hash") with
    | nil => rfl
    | cons v values =>
      rw [hvalues, List.eraseDups_cons, List.length_cons] at hzero
      cases hzero
  · rw [if_neg hzero] at h
    -- The second one asks for as many buckets as there are groups.
    obtain ⟨buckets, s₂, hbuckets, h⟩ := exists_of_run_bind h
    have hsent := congrArg Prod.fst hbuckets
    obtain ⟨answer, hanswer, hread⟩ := exists_answer_of_send exact hsent
    obtain ⟨keys, items, hranks, hitems, hgroups⟩ := buckets_of_answers hanswer hread
    rw [hdocs] at hranks hgroups
    refine .inr ⟨_, keys, items, buckets, Nat.pos_of_ne_zero hzero, hranks, hgroups, hitems, ?_⟩
    cases htotals : buckets.mapM (Bucket.totals grouping) with
    | ok all =>
      rw [htotals] at h
      exact congrArg Except.ok (Except.ok.inj h)
    | error reason =>
      rw [htotals] at h
      cases h

/-- A document with a value to be grouped by has a hash to be counted. -/
theorem eq_nil_of_hashes_eq_nil {docs : List Document} {key : String} (exact : Exact wire corpus)
    (hcorpus : ∀ d ∈ docs, d ∈ corpus) (hkey : ∀ d ∈ docs, d.Has grouping.field (.text key))
    (hnone : (docs.flatMap fun d => d.values (grouping.field ++ ".hash")) = []) : docs = [] := by
  obtain ⟨hash, hhashed⟩ := exact.hashed
  rw [List.eq_nil_iff_forall_not_mem]
  intro d hd
  have hempty := List.flatMap_eq_nil_iff.mp hnone d hd
  rw [hhashed d (hcorpus d hd) grouping, List.map_eq_nil_iff] at hempty
  have hhas := hkey d hd
  rw [Document.Has, hempty] at hhas
  cases hhas

/-- Where all matching documents have one text in the field that they are grouped by, the totals
that come first are those of all of them, and there are none only where there are no documents. -/
theorem head_recipientTotals (exact : Exact wire corpus) {filters : TransactionFilters}
    {docs : List Document} {key : String} {s : σ} {totals : List Totals}
    (hgrouping : grouping ≠ .child)
    (hdocs : corpus.filter (fun d => d.meets (Query.ofFilters filters).toJson) = docs)
    (hkey : ∀ d ∈ docs, d.Has grouping.field (.text key))
    (h : ((recipientTotals wire index filters grouping).run s).1 = .ok totals) :
    totals.head?.getD {} = .ofDocuments docs := by
  obtain ⟨hnone, rfl⟩ | ⟨size, keys, items, buckets, hsize, hranks, hgroups, hitems, htotals⟩ :=
    eq_nil_or_exists_buckets exact hdocs h
  · have hnil : docs = [] :=
      eq_nil_of_hashes_eq_nil exact (fun d hd => List.mem_of_mem_filter (hdocs ▸ hd)) hkey hnone
    rw [hnil, Totals.ofDocuments_nil]
    rfl
  · cases keys with
    -- A document would have its text among the keys.
    | nil =>
      have hnil : docs = [] := by
        rw [List.eq_nil_iff_forall_not_mem]
        intro d hd
        exact absurd ((hranks.mem_iff key).mpr ⟨d, hd, hkey d hd⟩) List.not_mem_nil
      rw [List.take_nil, List.forall₂_nil_left_iff] at hgroups
      subst hgroups
      obtain rfl : [] = buckets := Except.ok.inj hitems
      obtain rfl : [] = totals := Except.ok.inj htotals
      rw [hnil, Totals.ofDocuments_nil]
      rfl
    | cons first keys =>
      obtain ⟨n, rfl⟩ := Nat.exists_eq_succ_of_ne_zero hsize.ne'
      rw [List.take_succ_cons, List.forall₂_cons_left_iff] at hgroups
      obtain ⟨item, items, ⟨hcount, hparts⟩, -, rfl⟩ := hgroups
      -- The first group is made of all the documents, so its figures are theirs.
      have hall := hranks.forall_has_head hkey
      have hfilter : docs.filter (fun d => d.Has grouping.field (.text first)) = docs :=
        List.filter_eq_self.mpr fun d hd => decide_eq_true (hall d hd)
      rw [List.countP_eq_length_filter, hfilter] at hcount
      rw [hfilter] at hparts
      obtain ⟨b, _, hb, -, rfl⟩ := exists_of_mapM_cons_eq_ok hitems
      obtain ⟨t, _, ht, -, rfl⟩ := exists_of_mapM_cons_eq_ok htotals
      exact Bucket.totals_of_aggregates hgrouping hb hcount hparts ht

end Exchange

end Outlays
