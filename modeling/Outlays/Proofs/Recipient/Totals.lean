import Outlays.Memory.Sample
import Outlays.Proofs.Recipient.Join
import Outlays.Proofs.Recipient.Overview
import Outlays.Proofs.Search.Index

/-!
# The totals of a recipient

An overview shows figures that come a long way: the id and the year are read, a window of days and
a query are made of them, the index is asked twice, and of the groups that it answers the first is
taken. Over an exact index all of that is a fold over documents. It counts and sums those that
belong to the recipient at its level and fall in the window of the year.

No group is lost on the way. What documents are grouped by depends on the level, and so does the
query; at every level the query fixes the field that is grouped by.

## Main definitions

* `Backend.Searches` — the stores answer totals by way of the index
* `Overview.Totalled` — the figures of an overview are those of documents

## Main results

* `Overview.has_groupingOf` — the query of a recipient fixes the field that is grouped by
* `Overview.leads_ask` — where the totals of an overview come from
* `Overview.exists_totalled` — the figures of an overview are a fold over the documents
-/

namespace Outlays

variable {σ τ : Type}

/-- The totals that the stores answer come out of exchanges with the index. -/
def Backend.Searches (b : Backend σ) (index : SearchIndex) (wire : Wire τ) : Prop :=
  ∀ filters grouping s totals, (b.answer (.recipientTotals filters grouping) s).1 = .ok totals →
    ∃ t, ((Exchange.recipientTotals wire index filters grouping).run t).1 = .ok totals

/-- Stores in memory ask the index that they are given. -/
theorem Memory.searches_backend {use : MemoryUse} {outage : Question → Option Failure}
    {index : SearchIndex} {wire : Wire Script} (huse : use.search = some (index, wire)) :
    (backend use outage).Searches index wire := by
  intro filters grouping m totals h
  simp only [backend] at h
  split at h
  · cases h
  · simp only [respond, huse] at h
    exact ⟨m.script, h⟩

/-! ## The documents of a recipient -/

instance (d : Document) : (id : RecipientId) → Decidable (d.BelongsTo id)
  | ⟨_, .parent⟩ => inferInstanceAs (Decidable (d.Has _ _))
  | ⟨_, .child⟩ => inferInstanceAs (Decidable (_ ∧ _))
  | ⟨_, .recipient⟩ => inferInstanceAs (Decidable (_ ∧ _))

theorem Document.hasDay_contains_iff {d : Document} {p : TimePeriod} :
    d.hasDay "action_date" (fun a => decide (p.Contains a)) = true ↔ d.FallsIn p := by
  simp only [hasDay_iff, decide_eq_true_eq, FallsIn]

instance (d : Document) (p : TimePeriod) : Decidable (d.FallsIn p) :=
  decidable_of_iff _ Document.hasDay_contains_iff

namespace Overview

/-- The documents that belong to a recipient and fall in a window of days. -/
def found (corpus : List Document) (id : RecipientId) (window : TimePeriod) : List Document :=
  corpus.filter fun d => d.BelongsTo id ∧ d.FallsIn window

/-- They are what the query of the recipient and the window asks for. -/
theorem filter_meets_eq_found (corpus : List Document) (id : RecipientId) (window : TimePeriod) :
    corpus.filter (fun d => d.meets
      (Query.ofFilters { timePeriods := [window], recipientId := some id }).toJson) =
      found corpus id window := by
  refine List.filter_congr fun d _ => ?_
  rw [Bool.eq_iff_iff, Document.meets_ofFilters_iff, decide_eq_true_iff]
  -- Of the six parts of the filters, four are empty.
  constructor
  · intro h
    obtain ⟨p, hp, hfalls⟩ := h.period (List.cons_ne_nil _ _)
    obtain rfl := List.mem_singleton.mp hp
    exact ⟨h.recipient id rfl, hfalls⟩
  · rintro ⟨hbelongs, hfalls⟩
    refine ⟨fun _ => ⟨window, List.mem_singleton_self _, hfalls⟩, nofun, nofun, nofun, nofun, ?_⟩
    rintro _ ⟨⟩
    exact hbelongs

/-- The query of a recipient fixes the field that its documents are grouped by. -/
theorem has_groupingOf {d : Document} {id : RecipientId} (h : d.BelongsTo id) :
    d.Has (groupingOf id.level).field (.text id.hash.render) := by
  obtain ⟨hash, level⟩ := id
  cases level with
  | parent => exact h
  | child => exact h.1
  | recipient => exact h.1

theorem groupingOf_ne_child (level : Level) : groupingOf level ≠ .child := by
  cases level <;> nofun

/-- The totals of an overview are the first that were answered for the recipient in its window. -/
theorem leads_ask {now : Instant} {raw : String} {year : Option String} {log : List Answered}
    {overview : Overview} (h : (ask now raw year).Leads log (.ok overview)) :
    ∃ id chosen window totals, RecipientId.parse raw = .ok id ∧ YearFilter.parse year = .ok chosen ∧
      chosen.window now.date = .ok window ∧
      ⟨.recipientTotals { timePeriods := [window], recipientId := some id } (groupingOf id.level),
        totals⟩ ∈ log ∧
      overview.totals = totals.head?.getD {} := by
  obtain ⟨course⟩ := leads_ask_iff.mp h
  refine ⟨course.id, course.chosen, course.window, course.totals, course.id_eq, course.year_eq,
    course.window_eq, ?_, congrArg Overview.totals course.overview_eq⟩
  simp [course.log_eq]

/-! ## Figures -/

/-- The figures of an overview are those of documents: how many there are, how many are about
loans, and the sums of their amounts, whole cents over a hundred. -/
structure Totalled (docs : List Document) (answer : Json) : Prop where
  transactions : answer.field? "total_transactions" = some (.nat docs.length)
  obligations : answer.field? "total_transaction_amount" = some (.double
    (Float.ofInt (wholeCents (scaledTotal docs "generated_pragmatic_obligation")) / 100.0))
  loanTransactions : answer.field? "total_face_value_loan_transactions" =
    some (.nat (docs.countP fun d => d.IsLoan))
  loans : answer.field? "total_face_value_loan_amount" = some (.double
    (Float.ofInt (wholeCents
      (scaledTotal (docs.filter fun d => d.IsLoan) "face_value_loan_guarantee")) / 100.0))
  /-- Without documents all figures are zero. -/
  zeros : docs = [] →
    answer.field? "total_transactions" = some (.nat 0) ∧
      answer.field? "total_transaction_amount" = some (.double 0.0) ∧
      answer.field? "total_face_value_loan_transactions" = some (.nat 0) ∧
      answer.field? "total_face_value_loan_amount" = some (.double 0.0)

/-- The figures in the JSON of an overview are those of its totals. -/
theorem totalled_toJson {overview : Overview} {docs : List Document}
    (h : overview.totals = .ofDocuments docs) : Totalled docs overview.toJson := by
  have hzero : Cents.toDollars ⟨0⟩ = 0.0 := by decide +kernel
  constructor
  case zeros =>
    rintro rfl
    rw [Totals.ofDocuments_nil] at h
    simp only [toJson, h, Cents.zero, hzero]
    exact ⟨rfl, rfl, rfl, rfl⟩
  all_goals
    simp only [toJson, h]
    rfl

/-- The figures of an overview over an exact index are a fold over the documents that belong to the
recipient at its level and fall in the window of the year. All of them have one value in the field
that is grouped by. -/
theorem exists_totalled {b : Backend σ} {index : SearchIndex} {wire : Wire τ}
    {corpus : List Document} (searches : b.Searches index wire) (exact : Exact wire corpus)
    {c : Circumstances} {raw : String} {year : Option String} {s : σ} {answer : Json}
    (h : (((Call.overview raw year).inquiry c).run b s).result = .ok answer) :
    ∃ id chosen window, RecipientId.parse raw = .ok id ∧ YearFilter.parse year = .ok chosen ∧
      chosen.window c.now.date = .ok window ∧ Totalled (found corpus id window) answer ∧
      ∀ d ∈ found corpus id window,
        d.Has (groupingOf id.level).field (.text id.hash.render) := by
  -- Whatever is in the transcript, the stores have answered in some state.
  have hanswered : ∀ a ∈ ((Call.overview raw year).inquiry c).transcript b s,
      ∃ s', (b.answer a.1 s').1 = .ok a.2 := by
    refine Inquiry.forall_mem_transcript b (P := fun _ => True) ?_ trivial
    intro q s' answer s'' _ hq
    exact ⟨trivial, s', by rw [hq]⟩
  have hleads := Inquiry.leads_transcript b h
  obtain ⟨overview, first, last, hlog, hask, hlast⟩ := Inquiry.leads_bind_ok_iff.mp hleads
  obtain ⟨-, heq⟩ := Inquiry.leads_done_iff.mp hlast
  obtain rfl := Except.ok.inj heq
  obtain ⟨id, chosen, window, totals, hid, hchosen, hwindow, hmem, htotals⟩ := leads_ask hask
  have hpinned : ∀ d ∈ found corpus id window,
      d.Has (groupingOf id.level).field (.text id.hash.render) := by
    intro d hd
    exact has_groupingOf (of_decide_eq_true (List.mem_filter.mp hd).2).1
  obtain ⟨s', hs'⟩ := hanswered _ (hlog ▸ List.mem_append_left last hmem)
  obtain ⟨t, ht⟩ := searches _ _ s' totals hs'
  have hhead := Exchange.head_recipientTotals exact (groupingOf_ne_child id.level)
    (filter_meets_eq_found corpus id window) hpinned ht
  exact ⟨id, chosen, window, hid, hchosen, hwindow, totalled_toJson (htotals.trans hhead), hpinned⟩

/-! ## A parent with two transactions -/

open Children (parentHash sampleFamily)

/-- A day by its numbers, or the first day of the index where the calendar has none. -/
def sampleDay (year : Int) (month day : Nat) : Date :=
  (Date.ofParts? year month day).getD searchStart

/-- A document about a child of the parent. -/
def sampleDocument (type : String) (obligation face : List ℚ) : Document where
  values
    | "parent_recipient_hash" => [.text parentHash.render]
    | "parent_recipient_hash.hash" => [.text parentHash.render]
    | "action_date" => [.day (sampleDay 2024 1 15)]
    | "type" => [.text type]
    | "generated_pragmatic_obligation" => obligation.map .amount
    | "face_value_loan_guarantee" => face.map .amount
    | _ => []
  answersWords _ := false

/-- A contract and a loan. -/
def sampleCorpus : List Document :=
  [sampleDocument "A" [21 / 2] [], sampleDocument "07" [17 / 8] [-101 / 200]]

/-- The answer to how many parents there are. -/
def groupsAnswer : Json :=
  .obj [("aggregations", .obj [("unique_terms", .obj [("value", .nat 1)])])]

/-- The answer to the totals of the one parent. -/
def totalsAnswer : Json :=
  .obj [("aggregations", .obj [("group_by_recipient", .obj [("buckets", .arr [
    .obj [("key", .str parentHash.render), ("doc_count", .nat 2),
      ("sum_obligation", .obj [("value", .num (.double 1262.5))]),
      ("filter_loans", .obj [("doc_count", .nat 1),
        ("sum_face_value_loan", .obj [("value", .num (.double (-50.5)))])])]])])])]

/-- The way to an index with the two documents, which answers queries that both of them match. -/
def sampleWire : Wire Script := fun request script =>
  match request with
  | .groups query .parent =>
    if sampleCorpus.all fun d => d.meets query.toJson then
      (.answered 200 groupsAnswer.renderBytes, script)
    else (.unreachable, script)
  | .totals query .parent (_ + 1) =>
    if sampleCorpus.all fun d => d.meets query.toJson then
      (.answered 200 totalsAnswer.renderBytes, script)
    else (.unreachable, script)
  | _ => (.unreachable, script)

theorem answers_groups {query : Query} (hmeets : ∀ d ∈ sampleCorpus, d.meets query.toJson = true) :
    Answers sampleCorpus (SearchRequest.groups query .parent).body groupsAnswer := by
  have hfilter : sampleCorpus.filter (fun d => d.meets query.toJson) = sampleCorpus :=
    List.filter_eq_self.mpr hmeets
  have hfield : s!"{Grouping.parent.field}.hash" = "parent_recipient_hash.hash" := rfl
  simp only [SearchRequest.body, hfield, Json.nat, Answers, AggregatesAll, Aggregates, and_true,
    hfilter]
  refine ⟨_, rfl, _, rfl, ?_⟩
  decide +kernel

/-- All documents are of one parent. -/
theorem ranks_sampleCorpus :
    Ranks sampleCorpus "parent_recipient_hash" [parentHash.render] where
  nodup := by simp
  mem_iff := by
    intro key
    simp [sampleCorpus, sampleDocument, Document.Has]
  sorted := List.pairwise_singleton _ _

theorem answers_totals {query : Query} {n : Nat}
    (hmeets : ∀ d ∈ sampleCorpus, d.meets query.toJson = true) :
    Answers sampleCorpus (SearchRequest.totals query .parent (n + 1)).body totalsAnswer := by
  have hfilter : sampleCorpus.filter (fun d => d.meets query.toJson) = sampleCorpus :=
    List.filter_eq_self.mpr hmeets
  have hgroup : sampleCorpus.filter (fun d =>
      d.Has "parent_recipient_hash" (.text parentHash.render)) = sampleCorpus := by
    refine List.filter_eq_self.mpr ?_
    decide +kernel
  simp only [SearchRequest.body, Json.nat, totalsOfGroup_eq, groupParts, SearchRequest.scaledSum,
    Grouping.field, Answers, AggregatesAll, Aggregates, and_true, hfilter, Int.toNat_natCast]
  refine ⟨_, rfl, _, rfl, _, _, ranks_sampleCorpus, rfl, ?_⟩
  rw [List.take_succ_cons, List.take_nil]
  refine .cons ⟨rfl, by decide +kernel, ?_⟩ .nil
  rw [hgroup]
  refine ⟨⟨_, rfl, _, rfl, 1262.5, rfl, by decide +kernel⟩, _, rfl, by decide +kernel, _, rfl, _,
    rfl, -50.5, rfl, by decide +kernel⟩

theorem exact_sampleWire : Exact sampleWire sampleCorpus where
  hashed := by
    refine ⟨id, ?_⟩
    intro d hd grouping
    simp only [sampleCorpus, List.mem_cons, List.not_mem_nil, or_false] at hd
    obtain rfl | rfl := hd <;> cases grouping <;> rfl
  answers := by
    intro request script status body answer hreply _ _ hparse
    have hgroups : Json.parseBytes groupsAnswer.renderBytes = some groupsAnswer := by
      decide +kernel
    have htotals : Json.parseBytes totalsAnswer.renderBytes = some totalsAnswer := by
      decide +kernel
    -- It answers two kinds of requests, and only where both documents match.
    unfold sampleWire at hreply
    split at hreply
    · split at hreply
      · next hall =>
        obtain ⟨rfl, rfl⟩ := Reply.answered.inj hreply
        obtain rfl := Option.some.inj (hparse.symm.trans hgroups)
        exact answers_groups (List.all_eq_true.mp hall)
      · cases hreply
    · split at hreply
      · next hall =>
        obtain ⟨rfl, rfl⟩ := Reply.answered.inj hreply
        obtain rfl := Option.some.inj (hparse.symm.trans htotals)
        exact answers_totals (List.all_eq_true.mp hall)
      · cases hreply
    · cases hreply

/-- An index on some server. -/
def sampleIndex : SearchIndex :=
  ⟨⟨['h', 't', 't', 'p'], some ⟨none, ['e'], none⟩, .rooted ['/', 't', '/'], none, none⟩⟩

/-- The stores of a family, in front of the index. -/
def sampleBackend : Backend Memory :=
  Memory.backend { search := some (sampleIndex, sampleWire) } fun _ => none

/-- The overview of the parent counts both documents and the loan among them. Half a cent is dropped
from either sum, so that 1262.5 cents are 12.62 dollars and -50.5 cents are -0.5 dollars. -/
theorem exists_totalled_sampleCorpus :
    ∃ answer, (((Call.overview "11111111-1111-1111-1111-111111111111-P" none).inquiry .sample).run
        sampleBackend sampleFamily).result = .ok answer ∧
      (answer.field? "total_transactions" = some (.nat 2) ∧
        answer.field? "total_transaction_amount" = some (.double 12.62) ∧
        answer.field? "total_face_value_loan_amount" = some (.double (-0.5))) ∧
      ∃ id chosen window, RecipientId.parse "11111111-1111-1111-1111-111111111111-P" = .ok id ∧
        YearFilter.parse none = .ok chosen ∧
        chosen.window Circumstances.sample.now.date = .ok window ∧
        Totalled (found sampleCorpus id window) answer ∧
        ∀ d ∈ found sampleCorpus id window,
          d.Has (groupingOf id.level).field (.text id.hash.render) := by
  have hfigures : (((Call.overview "11111111-1111-1111-1111-111111111111-P" none).inquiry
      .sample).run sampleBackend sampleFamily).result.toOption.any (fun answer =>
        answer.field? "total_transactions" = some (.nat 2) ∧
          answer.field? "total_transaction_amount" = some (.double 12.62) ∧
          answer.field? "total_face_value_loan_amount" = some (.double (-0.5))) = true := by
    decide +kernel
  cases hresult : (((Call.overview "11111111-1111-1111-1111-111111111111-P" none).inquiry
      .sample).run sampleBackend sampleFamily).result with
  | error cause =>
    rw [hresult] at hfigures
    cases hfigures
  | ok answer =>
    rw [hresult] at hfigures
    exact ⟨answer, rfl, of_decide_eq_true hfigures,
      exists_totalled (Memory.searches_backend rfl) exact_sampleWire hresult⟩

end Overview

end Outlays
