import Outlays.Proofs.Agency.Listings
import Outlays.Proofs.Text.Lowering

/-!
# Filtering agencies by name

The listing of all agencies takes a text and keeps the agencies that have it in their name or in
their abbreviation, whatever the case of either. What it compares is one text in lower case with
the other in lower case, so it misses an agency if the text is lower-cased otherwise within the
name than by itself. Only capital sigmas are: an agency with the name `ΚΟΣΜΟΣ` is not found by
`ΚΟΣ`, although its name begins that way.

Therefore a text finds all names that have it in them if and only if its sigmas keep their form
wherever the text stands. The case of ASCII letters makes no difference, neither in the text nor in
a name.

## Main definitions

* `PeriodRecord.Mentions` — the agency has the text in its name or in its abbreviation
* `PeriodRecord.NamedAlike` — names and abbreviations that differ in the case of ASCII letters only
* `Subject.Narrows` — of the records that the stores find, the listing keeps these

## Main results

* `Subject.narrows_iff` — a run of the listing keeps the records that match
* `Subject.narrows_mentioned_iff` — the texts that find every name with them in it
-/

namespace Outlays

variable {needle needle' text text' : String} {r r' : PeriodRecord}

/-! ## Texts within texts -/

namespace Reporting

theorem occursIn_iff {cs ds : List Char} : occursIn cs ds = true ↔ cs <:+: ds := by
  induction ds with
  | nil => rw [occursIn, List.isEmpty_iff, List.infix_nil]
  | cons d ds ih =>
    rw [occursIn, Bool.or_eq_true, List.isPrefixOf_iff_prefix, ih, List.infix_cons_iff]

theorem containsAnyCase_iff : containsAnyCase text needle = true ↔
    Text.lowerAfter [] needle.toList <:+: Text.lowerAfter [] text.toList := by
  rw [containsAnyCase, occursIn_iff, Text.lowercase, Text.lowercase, String.toList_ofList,
    String.toList_ofList]

/-- A text is found in a text that it stands in, where its sigmas keep their form. -/
theorem containsAnyCase_of_found (h : Text.Settled needle.toList)
    (hin : needle.toList <:+: text.toList) : containsAnyCase text needle = true := by
  obtain ⟨a, b, htext⟩ := hin
  rw [containsAnyCase_iff, ← htext]
  exact (h a b).lowerAfter_found

theorem containsAnyCase_congr (htext : Text.Alike text text')
    (hneedle : Text.Alike needle needle') :
    containsAnyCase text' needle' = containsAnyCase text needle := by
  rw [containsAnyCase, containsAnyCase, Text.lowercase_eq_of_alike htext,
    Text.lowercase_eq_of_alike hneedle]

end Reporting

/-! ## Records -/

/-- The agency has the text in its name or in its abbreviation, as it stands. -/
def PeriodRecord.Mentions (r : PeriodRecord) (needle : String) : Prop :=
  needle.toList <:+: r.agencyName.toList ∨
    ∃ short ∈ r.abbreviation, needle.toList <:+: short.toList

/-- The agencies have the same names and abbreviations but for the case of ASCII letters. -/
structure PeriodRecord.NamedAlike (r r' : PeriodRecord) : Prop where
  name : Text.Alike r.agencyName r'.agencyName
  abbreviation : Option.Rel Text.Alike r.abbreviation r'.abbreviation

theorem PeriodRecord.NamedAlike.refl (r : PeriodRecord) : r.NamedAlike r := by
  refine ⟨rfl, ?_⟩
  cases r.abbreviation with
  | none => exact .none
  | some short => exact .some rfl

namespace Reporting

theorem matchesName_of_mentions (h : Text.Settled needle.toList) (hr : r.Mentions needle) :
    matchesName r needle = true := by
  rw [matchesName, Bool.or_eq_true]
  rcases hr with hname | ⟨short, hshort, hin⟩
  · exact .inl (containsAnyCase_of_found h hname)
  · exact .inr ((Option.any_eq_true _ _).mpr ⟨short, hshort, containsAnyCase_of_found h hin⟩)

theorem matchesName_iff_of_unabbreviated (h : r.abbreviation = none) :
    matchesName r needle = true ↔
      Text.lowerAfter [] needle.toList <:+: Text.lowerAfter [] r.agencyName.toList := by
  rw [matchesName, h, Option.any_none, Bool.or_false, containsAnyCase_iff]

theorem any_containsAnyCase_congr {short short' : Option String}
    (h : Option.Rel Text.Alike short short') (hneedle : Text.Alike needle needle') :
    short'.any (containsAnyCase · needle') = short.any (containsAnyCase · needle) := by
  cases h with
  | some h => rw [Option.any_some, Option.any_some, containsAnyCase_congr h hneedle]
  | none => rw [Option.any_none, Option.any_none]

theorem matchesName_congr (h : r.NamedAlike r') (hneedle : Text.Alike needle needle') :
    matchesName r' needle' = matchesName r needle := by
  rw [matchesName, matchesName, containsAnyCase_congr h.name hneedle,
    any_containsAnyCase_congr h.abbreviation hneedle]

end Reporting

/-! ## The listing -/

namespace Subject

/-- The rows of the listing of all agencies, by what the stores find. -/
theorem rows_of_leads_agencies {year : Option Int} {period : Option Nat} {filter : Option String}
    {c : Circumstances} {log : List Answered} {all : List ReportRow}
    (h : ((agencies year period filter).rows c).Leads log (.ok all)) {p : FiscalPeriod}
    {found : List PeriodRecord} (hfound : ⟨.agenciesForPeriod p, found⟩ ∈ log) :
    all = (found.filter fun r => filter.all (Reporting.matchesName r)).map
      (ReportRow.ofRecord c.files) := by
  obtain ⟨asked, first, rest, rfl, hperiod, hrest⟩ := Inquiry.leads_bind_ok_iff.mp h
  have hfirst : ⟨.agenciesForPeriod p, found⟩ ∉ first := by
    obtain ⟨-, -, -, -, rfl⟩ | ⟨-, -, closed, rfl, -⟩ := leads_overviewPeriod hperiod
    · exact List.not_mem_nil
    · simp
  have hlast := (List.mem_append.mp hfound).resolve_left hfirst
  cases asked with
  | none =>
    obtain ⟨rfl, -⟩ := Inquiry.leads_done_iff.mp hrest
    exact absurd hlast List.not_mem_nil
  | some p' =>
    obtain ⟨answer, last, rfl, hdone⟩ := Inquiry.leads_put_bind_iff.mp hrest
    obtain ⟨rfl, hall⟩ := Inquiry.leads_done_iff.mp hdone
    cases List.mem_singleton.mp hlast
    exact Except.ok.inj hall

theorem map_record_rows (files : Url) (records : List PeriodRecord) :
    (records.map (ReportRow.ofRecord files)).map (·.record) = records := by
  rw [List.map_map]
  exact List.map_id _

/-- In some run of the listing of all agencies with this filter, the stores find the records `found`
and the rows are those of the records `kept`. -/
def Narrows (needle : String) (found kept : List PeriodRecord) : Prop :=
  ∃ (year : Option Int) (period : Option Nat) (c : Circumstances) (σ : Type) (b : Backend σ) (s : σ)
    (p : FiscalPeriod) (all : List ReportRow),
    (((agencies year period (some needle)).rows c).run b s).result = .ok all ∧
      ⟨.agenciesForPeriod p, found⟩ ∈ ((agencies year period (some needle)).rows c).transcript b s ∧
      kept = all.map (·.record)

/-- Stores that know nothing but the records of a period, the same ones in every period. -/
def reporting (found : List PeriodRecord) : Backend Unit where
  answer
    | .agenciesForPeriod _, s => (.ok found, s)
    | _, s => (.error (.cache "nothing is known"), s)

/-- Whatever else a run depends on, it keeps the records that match. -/
theorem narrows_iff {found kept : List PeriodRecord} :
    Narrows needle found kept ↔ kept = found.filter (Reporting.matchesName · needle) := by
  constructor
  · rintro ⟨year, period, c, σ, b, s, p, all, hall, hfound, rfl⟩
    rw [rows_of_leads_agencies (Inquiry.leads_transcript b hall) hfound, map_record_rows]
    simp only [Option.all_some]
  · rintro rfl
    refine ⟨some 2021, some 6, .sample, Unit, reporting found, (), ⟨2021, 6⟩, _, rfl, ?_, ?_⟩
    · exact List.mem_singleton_self _
    · simp only [map_record_rows, Option.all_some]

/-- The listing keeps every record that has the filter's text in its name or abbreviation if and
only if the capital sigmas of the text have the same form by themselves as wherever it may stand.
The case of the ASCII letters in the text has no effect on what is asked and shown, and that of the
ASCII letters in the records none on which of them are kept. -/
theorem narrows_mentioned_iff (needle : String) :
    ((∀ found kept, Narrows needle found kept → ∀ r ∈ found, r.Mentions needle → r ∈ kept) ↔
      Text.Settled needle.toList) ∧
    (∀ needle', Text.Alike needle needle' → ∀ year period asked c,
      ((agencies year period (some needle')).call asked).inquiry c =
        ((agencies year period (some needle)).call asked).inquiry c) ∧
    ∀ recase : PeriodRecord → PeriodRecord, (∀ r : PeriodRecord, r.NamedAlike (recase r)) →
      ∀ found kept kept', Narrows needle found kept → Narrows needle (found.map recase) kept' →
        kept' = kept.map recase := by
  refine ⟨⟨?found, ?settled⟩, ?filter, ?records⟩
  case found =>
    intro h
    rw [Text.settled_iff]
    intro a b
    -- An agency with the text in the middle of its name, and without an abbreviation.
    let r := sampleRecord (String.ofList (a ++ needle.toList ++ b)) "089" none 0
    have hr : r.Mentions needle := .inl ⟨a, b, String.toList_ofList.symm⟩
    have hkept := h [r] _ (narrows_iff.mpr rfl) r (List.mem_singleton_self r) hr
    have hmatch := (Reporting.matchesName_iff_of_unabbreviated rfl).mp (List.mem_filter.mp hkept).2
    rwa [show r.agencyName.toList = a ++ needle.toList ++ b from String.toList_ofList] at hmatch
  case settled =>
    intro h found kept hkept r hr hmentions
    rw [narrows_iff.mp hkept]
    exact List.mem_filter.mpr ⟨hr, Reporting.matchesName_of_mentions h hmentions⟩
  case filter =>
    intro needle' h year period asked c
    have hmatch :
        (fun r => Reporting.matchesName r needle') = (Reporting.matchesName · needle) := by
      funext r
      exact Reporting.matchesName_congr (.refl r) h
    simp only [inquiry_call_eq, rows, Option.all_some, hmatch]
    rfl
  case records =>
    intro recase hrecase found kept kept' hkept hkept'
    have hmatch : (Reporting.matchesName · needle) ∘ recase = (Reporting.matchesName · needle) := by
      funext r
      rw [Function.comp_apply, Reporting.matchesName_congr (hrecase r) rfl]
    rw [narrows_iff.mp hkept', narrows_iff.mp hkept, List.filter_map, hmatch]

/-- Stores with the report of one agency, whose name has a sigma in the middle. -/
def sigmaReports : Memory where
  stores := { Stores.sample with records := [sampleRecord "ΚΟΣΜΟΣ" "089" none 0] }

/-- The name of the agency begins with the filter's text, and the listing is empty: the sigma at the
end of the text is a final one, and that in the middle of the name is not. -/
theorem not_kept_sigma :
    (sampleRecord "ΚΟΣΜΟΣ" "089" none 0).Mentions "ΚΟΣ" ∧
    ⟨.agenciesForPeriod ⟨2021, 6⟩, [sampleRecord "ΚΟΣΜΟΣ" "089" none 0]⟩ ∈
      ((agencies (some 2021) (some 6) (some "ΚΟΣ")).rows .sample).transcript
        (Memory.backend {} fun _ => none) sigmaReports ∧
    (((agencies (some 2021) (some 6) (some "ΚΟΣ")).rows .sample).run
      (Memory.backend {} fun _ => none) sigmaReports).result = .ok [] := by
  have hneedle : "ΚΟΣ".toList = ['Κ', 'Ο', 'Σ'] := by simp
  have hname : "ΚΟΣΜΟΣ".toList = ['Κ', 'Ο', 'Σ', 'Μ', 'Ο', 'Σ'] := by simp
  have hmatch : ¬ Reporting.matchesName (sampleRecord "ΚΟΣΜΟΣ" "089" none 0) "ΚΟΣ" := by
    rw [Reporting.matchesName_iff_of_unabbreviated rfl, sampleRecord, hneedle, hname]
    decide +kernel
  refine ⟨.inl ⟨[], ['Μ', 'Ο', 'Σ'], ?_⟩, List.mem_singleton_self _, ?_⟩
  · rw [sampleRecord, hneedle, hname]
    rfl
  · change Except.ok (List.map _ (List.filter _ [_])) = _
    rw [List.filter_singleton, Option.all_some, eq_false_of_ne_true hmatch]
    rfl

end Subject

end Outlays
