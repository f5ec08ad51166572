import Mathlib.Algebra.BigOperators.Group.Finset.Basic
import Mathlib.Data.List.Sublists
import Outlays.Proofs.Fiscal.Windows
import Outlays.Proofs.Recipient.Totals

/-!
# The totals of all years

An overview of everything and the overviews of the single fiscal years are asked for separately,
each with a query of its own. Over an exact index their counts agree: every document that is counted
in the overview of everything has its day in one fiscal year, and is counted in the overview of that
year and in no other.

## Main definitions

* `Document.DatedBy` — the document has one day, and not one of the future

## Main results

* `Overview.existsUnique_year` — the fiscal year of a document
* `Overview.total_eq_sum_of_years` — the overview of everything counts what those of the years count
-/

namespace Outlays

open scoped BigOperators

/-- The document has one action day, if any, and it is not after today. -/
structure Document.DatedBy (d : Document) (today : Date) : Prop where
  single : (d.values "action_date").length ≤ 1
  past {a : Date} : d.Has "action_date" (.day a) → a ≤ today

/-- The two days of a document that is dated are the same. -/
theorem Document.DatedBy.eq {d : Document} {today a b : Date} (h : d.DatedBy today)
    (ha : d.Has "action_date" (.day a)) (hb : d.Has "action_date" (.day b)) : a = b := by
  obtain ⟨v, hv⟩ : ∃ v, d.values "action_date" = [v] := by
    refine List.length_eq_one_iff.mp (le_antisymm h.single ?_)
    exact List.length_pos_of_mem ha
  rw [Document.Has, hv, List.mem_singleton] at ha hb
  exact FieldValue.day.inj (ha.trans hb.symm)

/-- What falls into a whole and into exactly one of its parts is counted part by part. -/
theorem countP_eq_sum_countP {α ι : Type} (xs : List α) (parts : Finset ι) (p : α → Bool)
    (q : ι → α → Bool)
    (hwhole : ∀ x ∈ xs, p x = true → ∃! i, i ∈ parts ∧ q i x = true)
    (hpart : ∀ x ∈ xs, ∀ i ∈ parts, q i x = true → p x = true) :
    xs.countP p = ∑ i ∈ parts, xs.countP (q i) := by
  induction xs with
  | nil => simp
  | cons x xs ih =>
    have hrest := ih (fun y hy => hwhole y (List.mem_cons_of_mem x hy))
      (fun y hy => hpart y (List.mem_cons_of_mem x hy))
    -- One element adds one to the whole and one to its part, or nothing to any.
    have hfirst : (if p x = true then 1 else 0) = ∑ i ∈ parts, if q i x = true then 1 else 0 := by
      by_cases hx : p x = true
      · obtain ⟨i, ⟨hi, hqi⟩, hunique⟩ := hwhole x List.mem_cons_self hx
        have hothers : ∀ j ∈ parts, j ≠ i → (if q j x = true then 1 else 0) = 0 := by
          intro j hj hne
          rw [if_neg]
          intro hqj
          exact hne (hunique j ⟨hj, hqj⟩)
        rw [if_pos hx, Finset.sum_eq_single_of_mem i hi hothers, if_pos hqi]
      · have hnone : ∀ j ∈ parts, (if q j x = true then 1 else 0) = 0 := by
          intro j hj
          rw [if_neg]
          intro hqj
          exact hx (hpart x List.mem_cons_self j hj hqj)
        rw [if_neg hx, Finset.sum_eq_zero hnone]
    simp only [List.countP_cons, Finset.sum_add_distrib, hrest, hfirst]

namespace Overview

variable {σ τ : Type}

/-! ## Documents by years -/

section Years

variable {today : Date} {window : ℕ → TimePeriod}

/-- A document that falls in the window of everything falls in that of one fiscal year, and one
that falls in the window of a year falls in that of everything. -/
theorem fallsIn_all_iff (hwindow : ∀ year ∈ fiscalYearsTo today,
      YearFilter.fiscalWindow? (year : ℕ) = some (window year)) {d : Document}
    (hd : d.DatedBy today) :
    d.FallsIn ⟨searchStart, today⟩ ↔ ∃ year ∈ fiscalYearsTo today, d.FallsIn (window year) := by
  constructor
  · rintro ⟨a, ha, hcontains⟩
    obtain ⟨year, hyear, heq⟩ := (YearFilter.contains_all_iff (hd.past ha)).mp hcontains
    have hin := (YearFilter.contains_fiscalWindow_iff (hwindow year hyear) a).mpr heq
    exact ⟨year, hyear, a, ha, hin⟩
  · rintro ⟨year, hyear, a, ha, hcontains⟩
    have heq := (YearFilter.contains_fiscalWindow_iff (hwindow year hyear) a).mp hcontains
    exact ⟨a, ha, (YearFilter.contains_all_iff (hd.past ha)).mpr ⟨year, hyear, heq⟩⟩

/-- A document falls in the window of one year at most. -/
theorem year_eq_of_fallsIn (hwindow : ∀ year ∈ fiscalYearsTo today,
      YearFilter.fiscalWindow? (year : ℕ) = some (window year)) {d : Document}
    (hd : d.DatedBy today) {year other : ℕ} (hyear : year ∈ fiscalYearsTo today)
    (hother : other ∈ fiscalYearsTo today) (h : d.FallsIn (window year))
    (h' : d.FallsIn (window other)) : year = other := by
  obtain ⟨a, ha, hcontains⟩ := h
  obtain ⟨b, hb, hcontains'⟩ := h'
  obtain rfl := hd.eq ha hb
  have heq := (YearFilter.contains_fiscalWindow_iff (hwindow year hyear) a).mp hcontains
  have heq' := (YearFilter.contains_fiscalWindow_iff (hwindow other hother) a).mp hcontains'
  exact Int.ofNat_inj.mp (heq.symm.trans heq')

/-- Each document of the window of everything has one fiscal year. -/
theorem existsUnique_year (hwindow : ∀ year ∈ fiscalYearsTo today,
      YearFilter.fiscalWindow? (year : ℕ) = some (window year)) {d : Document}
    (hd : d.DatedBy today) (h : d.FallsIn ⟨searchStart, today⟩) :
    ∃! year, year ∈ fiscalYearsTo today ∧ d.FallsIn (window year) := by
  obtain ⟨year, hyear, hfalls⟩ := (fallsIn_all_iff hwindow hd).mp h
  refine ⟨year, ⟨hyear, hfalls⟩, ?_⟩
  rintro other ⟨hother, hfalls'⟩
  exact year_eq_of_fallsIn hwindow hd hother hyear hfalls' hfalls

/-- The documents of a recipient in the window of everything are counted year by year, those of any
kind by themselves. -/
theorem countP_found_all (hwindow : ∀ year ∈ fiscalYearsTo today,
      YearFilter.fiscalWindow? (year : ℕ) = some (window year)) {corpus : List Document}
    (hdated : ∀ d ∈ corpus, d.DatedBy today) (id : RecipientId) (kind : Document → Bool) :
    (found corpus id ⟨searchStart, today⟩).countP kind =
      ∑ year ∈ fiscalYearsTo today, (found corpus id (window year)).countP kind := by
  simp only [found, List.countP_filter]
  refine countP_eq_sum_countP corpus (fiscalYearsTo today) _ _ ?_ ?_
  · intro d hd hcounted
    simp only [Bool.and_eq_true, decide_eq_true_eq] at hcounted ⊢
    obtain ⟨hkind, hbelongs, hfalls⟩ := hcounted
    obtain ⟨year, ⟨hyear, hin⟩, hunique⟩ := existsUnique_year hwindow (hdated d hd) hfalls
    refine ⟨year, ⟨hyear, hkind, hbelongs, hin⟩, ?_⟩
    rintro other ⟨hother, -, -, hin'⟩
    exact hunique other ⟨hother, hin'⟩
  · intro d hd year hyear hcounted
    simp only [Bool.and_eq_true, decide_eq_true_eq] at hcounted ⊢
    obtain ⟨hkind, hbelongs, hin⟩ := hcounted
    exact ⟨hkind, hbelongs, (fallsIn_all_iff hwindow (hdated d hd)).mpr ⟨year, hyear, hin⟩⟩

end Years

/-! ## Overviews by years -/

section Runs

variable {b : Backend σ} {index : SearchIndex} {wire : Wire τ} {corpus : List Document}
  {c : Circumstances} {raw : String}

/-- The counts of an overview over an exact index are those of the documents of the recipient in the
window of the year. -/
theorem exists_counts_of_run (searches : b.Searches index wire) (exact : Exact wire corpus)
    {year : Option String} {s : σ} {answer : Json}
    (h : (((Call.overview raw year).inquiry c).run b s).result = .ok answer) :
    ∃ id chosen window, RecipientId.parse raw = .ok id ∧ YearFilter.parse year = .ok chosen ∧
      chosen.window c.now.date = .ok window ∧
      answer.field? "total_transactions" = some (.nat (found corpus id window).length) ∧
      answer.field? "total_face_value_loan_transactions" =
        some (.nat ((found corpus id window).countP fun d => d.IsLoan)) := by
  have hanswered : ∀ a ∈ ((Call.overview raw year).inquiry c).transcript b s,
      ∃ s', (b.answer a.1 s').1 = .ok a.2 := by
    refine Inquiry.forall_mem_transcript b (P := fun _ => True) ?_ trivial
    intro q s' answer s'' _ hq
    exact ⟨trivial, s', by rw [hq]⟩
  obtain ⟨overview, first, last, hlog, hask, hlast⟩ :=
    Inquiry.leads_bind_ok_iff.mp (Inquiry.leads_transcript b h)
  obtain ⟨-, heq⟩ := Inquiry.leads_done_iff.mp hlast
  obtain rfl := Except.ok.inj heq
  obtain ⟨id, chosen, window, totals, hid, hchosen, hwindow, hmem, htotals⟩ := leads_ask hask
  obtain ⟨s', hs'⟩ := hanswered _ (hlog ▸ List.mem_append_left last hmem)
  obtain ⟨t, ht⟩ := searches _ _ s' totals hs'
  have hpinned : ∀ d ∈ found corpus id window,
      d.Has (groupingOf id.level).field (.text id.hash.render) := by
    intro d hd
    exact has_groupingOf (of_decide_eq_true (List.mem_filter.mp hd).2).1
  have hhead := Exchange.head_recipientTotals exact (groupingOf_ne_child id.level)
    (filter_meets_eq_found corpus id window) hpinned ht
  have hfigures := totalled_toJson (htotals.trans hhead)
  exact ⟨id, chosen, window, hid, hchosen, hwindow, hfigures.transactions,
    hfigures.loanTransactions⟩

/-- A count of one answer is the sum of the counts of others, one for each year. -/
def AddsUp (name : String) (years : Finset ℕ) (whole : Json) (part : ℕ → Json) : Prop :=
  ∃ (count : ℕ) (counts : ℕ → ℕ), whole.field? name = some (.nat count) ∧
    (∀ year ∈ years, (part year).field? name = some (.nat (counts year))) ∧
    count = ∑ year ∈ years, counts year

/-- Where the overview of everything and those of the fiscal years up to the current one are
answered, the first one counts as many transactions, and as many of them about loans, as the others
do together: each document of the first one is counted in the overview of one year, and in no other.
On the last days of the calendar there is no overview of the current fiscal year, which has no last
day. -/
theorem total_eq_sum_of_years (searches : b.Searches index wire) (exact : Exact wire corpus)
    (hdated : ∀ d ∈ corpus, d.DatedBy c.now.date) {s : σ} {states : ℕ → σ} {whole : Json}
    {part : ℕ → Json}
    (hwhole : (((Call.overview raw (some "all")).inquiry c).run b s).result = .ok whole)
    (hpart : ∀ year ∈ fiscalYearsTo c.now.date,
      (((Call.overview raw (some (toString year))).inquiry c).run b (states year)).result =
        .ok (part year)) :
    AddsUp "total_transactions" (fiscalYearsTo c.now.date) whole part ∧
      AddsUp "total_face_value_loan_transactions" (fiscalYearsTo c.now.date) whole part ∧
      ∃ id, RecipientId.parse raw = .ok id ∧
        ∀ d ∈ found corpus id ⟨searchStart, c.now.date⟩,
          ∃! year, year ∈ fiscalYearsTo c.now.date ∧
            ∃ p, (YearFilter.fiscalYear year).window c.now.date = .ok p ∧
              d ∈ found corpus id p := by
  obtain ⟨id, chosen, everything, hid, hchosen, heverything, htransactions, hloans⟩ :=
    exists_counts_of_run searches exact hwhole
  obtain rfl : YearFilter.all = chosen := Except.ok.inj hchosen
  obtain rfl : TimePeriod.mk searchStart c.now.date = everything := Except.ok.inj heverything
  -- The windows of the years are there, since their overviews are.
  let window (year : ℕ) : TimePeriod :=
    (YearFilter.fiscalWindow? year).getD ⟨searchStart, c.now.date⟩
  have hyears (year : ℕ) (hyear : year ∈ fiscalYearsTo c.now.date) :
      YearFilter.fiscalWindow? year = some (window year) ∧
        (part year).field? "total_transactions" =
          some (.nat (found corpus id (window year)).length) ∧
        (part year).field? "total_face_value_loan_transactions" =
          some (.nat ((found corpus id (window year)).countP fun d => d.IsLoan)) := by
    obtain ⟨id', chosen', p, hid', hchosen', hp, hcounts⟩ :=
      exists_counts_of_run searches exact (hpart year hyear)
    obtain rfl : id = id' := Except.ok.inj (hid.symm.trans hid')
    have hlast := (mem_fiscalYearsTo_iff.mp hyear).2.trans (fiscalYearOf_mem c.now.date).2
    obtain rfl : YearFilter.fiscalYear year = chosen' :=
      Except.ok.inj ((YearFilter.parse_toString hlast).symm.trans hchosen')
    have hwindow := YearFilter.window_fiscalYear_eq_ok_iff.mp hp
    have hsame : window year = p := by
      simp only [window, hwindow, Option.getD_some]
    rw [hsame]
    exact ⟨hwindow, hcounts⟩
  have hwindow (year : ℕ) (hyear : year ∈ fiscalYearsTo c.now.date) := (hyears year hyear).1
  refine ⟨⟨_, fun year => (found corpus id (window year)).length, htransactions,
    fun year hyear => (hyears year hyear).2.1, ?_⟩,
    ⟨_, fun year => (found corpus id (window year)).countP fun d => d.IsLoan, hloans,
    fun year hyear => (hyears year hyear).2.2, ?_⟩, id, hid, ?_⟩
  · have hcount := countP_found_all hwindow hdated id fun _ => true
    simpa only [List.countP_true] using hcount
  · exact countP_found_all hwindow hdated id fun d => d.IsLoan
  · intro d hd
    obtain ⟨hmem, hfound⟩ := List.mem_filter.mp hd
    obtain ⟨hbelongs, hfalls⟩ := of_decide_eq_true hfound
    obtain ⟨year, ⟨hyear, hin⟩, hunique⟩ := existsUnique_year hwindow (hdated d hmem) hfalls
    refine ⟨year, ⟨hyear, window year, YearFilter.window_fiscalYear_eq_ok_iff.mpr
      (hwindow year hyear), List.mem_filter.mpr ⟨hmem, decide_eq_true ⟨hbelongs, hin⟩⟩⟩, ?_⟩
    rintro other ⟨hother, p, hp, hd'⟩
    obtain rfl : window other = p := Option.some.inj
      ((hwindow other hother).symm.trans (YearFilter.window_fiscalYear_eq_ok_iff.mp hp))
    exact hunique other ⟨hother, (of_decide_eq_true (List.mem_filter.mp hd').2).2⟩

end Runs

/-! ## Two transactions on neighbouring days -/

open Children (parentHash sampleFamily)

/-- The document with another action day. -/
def onDay (day : Date) (d : Document) : Document :=
  { d with values := fun field => if field = "action_date" then [.day day] else d.values field }

/-- A contract of the last day of a fiscal year and a loan of the first day of the next, both under
one parent. -/
def neighbours : List Document :=
  [onDay (sampleDay 2008 9 30) (sampleDocument "A" [10] []),
    onDay (sampleDay 2008 10 1) (sampleDocument "07" [] [5])]

/-- The neighbours that match a query. -/
def matching (query : Query) : List Document := neighbours.filter fun d => d.meets query.toJson

/-- The number of parents of matching neighbours. -/
def groupsOf (docs : List Document) : Json :=
  .obj [("aggregations", .obj [("unique_terms", .obj [
    ("value", .nat (if docs.isEmpty then 0 else 1))])])]

/-- The number of loans among matching neighbours. -/
def loansOf (docs : List Document) : ℕ := docs.countP fun d => d.IsLoan

/-- The totals of the parent of matching neighbours: ten dollars for the contract, and a loan of
five. -/
def totalsOfParent (docs : List Document) : Json :=
  .obj [("aggregations", .obj [("group_by_recipient", .obj [("buckets", .arr [
    .obj [("key", .str parentHash.render), ("doc_count", .nat docs.length),
      ("sum_obligation", .obj [("value", .nat (1000 * (docs.length - loansOf docs)))]),
      ("filter_loans", .obj [("doc_count", .nat (loansOf docs)),
        ("sum_face_value_loan", .obj [("value", .nat (500 * loansOf docs))])])]])])])]

/-- The way to an index with the neighbours. -/
def neighboursWire : Wire Script := fun request script =>
  match request with
  | .groups query .parent => (.answered 200 (groupsOf (matching query)).renderBytes, script)
  | .totals query .parent (_ + 1) =>
    if (matching query).isEmpty then (.unreachable, script)
    else (.answered 200 (totalsOfParent (matching query)).renderBytes, script)
  | _ => (.unreachable, script)

/-- The matching neighbours are none, one of the two, or both. -/
theorem matching_mem (query : Query) : matching query ∈ neighbours.sublists :=
  List.mem_sublists.mpr List.filter_sublist

theorem mem_of_mem_matching {query : Query} {d : Document} (hd : d ∈ matching query) :
    d ∈ neighbours :=
  List.mem_of_mem_filter hd

theorem answers_groupsOf (query : Query) :
    Answers neighbours (SearchRequest.groups query .parent).body (groupsOf (matching query)) := by
  have hfield : s!"{Grouping.parent.field}.hash" = "parent_recipient_hash.hash" := rfl
  have hcount : ∀ docs ∈ neighbours.sublists,
      (docs.flatMap fun d => d.values "parent_recipient_hash.hash").eraseDups.length =
        if docs.isEmpty then 0 else 1 := by
    decide +kernel
  simp only [SearchRequest.body, hfield, Json.nat, Answers, AggregatesAll, Aggregates, and_true]
  refine ⟨_, rfl, _, rfl, ?_⟩
  rw [← matching, hcount _ (matching_mem query)]
  rfl

/-- Documents with the same text in a field make one group. -/
theorem ranks_singleton {docs : List Document} {field key : String} (hne : docs ≠ [])
    (hkey : ∀ d ∈ docs, d.values field = [.text key]) : Ranks docs field [key] where
  nodup := List.nodup_singleton key
  mem_iff := by
    intro other
    rw [List.mem_singleton]
    constructor
    · rintro rfl
      obtain ⟨d, hd⟩ := List.exists_mem_of_ne_nil docs hne
      exact ⟨d, hd, by rw [Document.Has, hkey d hd]; exact List.mem_singleton_self _⟩
    · rintro ⟨d, hd, hhas⟩
      rw [Document.Has, hkey d hd, List.mem_singleton] at hhas
      exact FieldValue.text.inj hhas
  sorted := List.pairwise_singleton _ _

theorem standsFor_of_bind {v : Json} {q : ℚ}
    (h : (Json.Reader.double v).toOption.bind Double.value? = some q) : v.StandsFor q := by
  obtain ⟨x, hx, hq⟩ := Option.bind_eq_some_iff.mp h
  cases hread : Json.Reader.double v with
  | error why =>
    rw [hread] at hx
    cases hx
  | ok y =>
    rw [hread] at hx
    obtain rfl := Option.some.inj hx
    exact ⟨y, hread, hq⟩

theorem answers_totalsOfParent {query : Query} {n : ℕ} (hne : matching query ≠ []) :
    Answers neighbours (SearchRequest.totals query .parent (n + 1)).body
      (totalsOfParent (matching query)) := by
  have hkeys : ∀ d ∈ neighbours,
      d.values "parent_recipient_hash" = [.text parentHash.render] := by
    decide +kernel
  have hkey : ∀ d ∈ matching query,
      d.values "parent_recipient_hash" = [.text parentHash.render] :=
    fun d hd => hkeys d (mem_of_mem_matching hd)
  have hgroup : (matching query).filter (fun d =>
      d.Has "parent_recipient_hash" (.text parentHash.render)) = matching query := by
    refine List.filter_eq_self.mpr ?_
    intro d hd
    rw [decide_eq_true_eq, Document.Has, hkey d hd]
    exact List.mem_singleton_self _
  have hsums : ∀ docs ∈ neighbours.sublists,
      ((Json.Reader.double (.nat (1000 * (docs.length - loansOf docs)))).toOption.bind
          Double.value? = some (scaledTotal docs "generated_pragmatic_obligation")) ∧
        ((Json.Reader.double (.nat (500 * loansOf docs))).toOption.bind Double.value? =
          some (scaledTotal (docs.filter fun d => d.IsLoan) "face_value_loan_guarantee")) := by
    decide +kernel
  obtain ⟨hobligations, hface⟩ := hsums _ (matching_mem query)
  simp only [SearchRequest.body, Json.nat, totalsOfGroup_eq, groupParts, SearchRequest.scaledSum,
    Grouping.field, Answers, AggregatesAll, Aggregates, and_true, Int.toNat_natCast,
    meets_loanTypes]
  rw [← matching]
  refine ⟨_, rfl, _, rfl, _, _, ranks_singleton hne hkey, rfl, ?_⟩
  rw [List.take_succ_cons, List.take_nil]
  refine .cons ⟨rfl, ?_, ?_⟩ .nil
  · rw [List.countP_eq_length.mpr (List.filter_eq_self.mp hgroup)]
    rfl
  · rw [hgroup]
    exact ⟨⟨_, rfl, _, rfl, standsFor_of_bind hobligations⟩, _, rfl, rfl, _, rfl, _, rfl,
      standsFor_of_bind hface⟩

theorem exact_neighboursWire : Exact neighboursWire neighbours where
  hashed := by
    refine ⟨id, ?_⟩
    intro d hd grouping
    simp only [neighbours, List.mem_cons, List.not_mem_nil, or_false] at hd
    obtain rfl | rfl := hd <;> cases grouping <;> rfl
  answers := by
    intro request script status body answer hreply _ _ hparse
    have hgroups : ∀ docs ∈ neighbours.sublists,
        Json.parseBytes (groupsOf docs).renderBytes = some (groupsOf docs) := by
      decide +kernel
    have htotals : ∀ docs ∈ neighbours.sublists,
        Json.parseBytes (totalsOfParent docs).renderBytes = some (totalsOfParent docs) := by
      decide +kernel
    -- It answers two kinds of requests, for any of the documents that match.
    unfold neighboursWire at hreply
    split at hreply
    · obtain ⟨rfl, rfl⟩ := Reply.answered.inj hreply
      obtain rfl := Option.some.inj (hparse.symm.trans (hgroups _ (matching_mem _)))
      exact answers_groupsOf _
    · split at hreply
      · cases hreply
      · next hsome =>
        obtain ⟨rfl, rfl⟩ := Reply.answered.inj hreply
        obtain rfl := Option.some.inj (hparse.symm.trans (htotals _ (matching_mem _)))
        exact answers_totalsOfParent fun hnil => hsome (by rw [hnil]; rfl)
    · cases hreply

/-- The last day of the year in which the second fiscal year began. -/
def endOf2008 : Circumstances :=
  { Circumstances.sample with
    now := { Circumstances.sample.now with date := sampleDay 2008 12 31 } }

/-- The stores of a family, in front of the index with the neighbours. -/
def neighboursBackend : Backend Memory :=
  Memory.backend { search := some (sampleIndex, neighboursWire) } fun _ => none

/-- The overview of the parent in a year. -/
def neighboursOverview (year : String) : Except Cause Json :=
  (((Call.overview "11111111-1111-1111-1111-111111111111-P" (some year)).inquiry endOf2008).run
    neighboursBackend sampleFamily).result

/-- An answer with a field is no error. -/
theorem eq_ok_getD {result : Except Cause Json} {name : String} {v : Json}
    (h : result.toOption.bind (·.field? name) = some v) :
    result = .ok (result.toOption.getD .null) := by
  cases result with
  | error cause => cases h
  | ok answer => rfl

/-- Either fiscal year counts one of the two transactions. -/
theorem total_eq_sum_of_years_neighbours :
    (neighboursOverview "all").toOption.bind (·.field? "total_transactions") = some (.nat 2) ∧
      (∀ year ∈ fiscalYearsTo endOf2008.now.date,
        (neighboursOverview (toString year)).toOption.bind (·.field? "total_transactions") =
          some (.nat 1)) ∧
      ∃ whole part, neighboursOverview "all" = .ok whole ∧
        (∀ year ∈ fiscalYearsTo endOf2008.now.date,
          neighboursOverview (toString year) = .ok (part year)) ∧
        AddsUp "total_transactions" (fiscalYearsTo endOf2008.now.date) whole part ∧
        AddsUp "total_face_value_loan_transactions" (fiscalYearsTo endOf2008.now.date) whole
          part ∧
        ∃ id, RecipientId.parse "11111111-1111-1111-1111-111111111111-P" = .ok id ∧
          ∀ d ∈ found neighbours id ⟨searchStart, endOf2008.now.date⟩,
            ∃! year, year ∈ fiscalYearsTo endOf2008.now.date ∧
              ∃ p, (YearFilter.fiscalYear year).window endOf2008.now.date = .ok p ∧
                d ∈ found neighbours id p := by
  have hdated : ∀ d ∈ neighbours, d.DatedBy endOf2008.now.date := by
    intro d hd
    simp only [neighbours, List.mem_cons, List.not_mem_nil, or_false] at hd
    obtain rfl | rfl := hd
    all_goals
      refine ⟨by decide, ?_⟩
      intro a ha
      obtain rfl := FieldValue.day.inj (List.mem_singleton.mp ha)
      decide
  have hwhole : (neighboursOverview "all").toOption.bind (·.field? "total_transactions") =
      some (.nat 2) := by
    decide +kernel
  have hpart : ∀ year ∈ fiscalYearsTo endOf2008.now.date,
      (neighboursOverview (toString year)).toOption.bind (·.field? "total_transactions") =
        some (.nat 1) := by
    decide +kernel
  refine ⟨hwhole, hpart, _, fun year => (neighboursOverview (toString year)).toOption.getD .null,
    eq_ok_getD hwhole, fun year hyear => eq_ok_getD (hpart year hyear), ?_⟩
  exact total_eq_sum_of_years (Memory.searches_backend rfl) exact_neighboursWire hdated
    (eq_ok_getD hwhole) fun year hyear => eq_ok_getD (hpart year hyear)

end Overview

end Outlays
