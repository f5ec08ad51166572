import Outlays.Proofs.Download.Schema
import Outlays.Proofs.Search.Calls

/-!
# The schema of answers

Which JSON values are answers of the search index, and what each of them answers: a number of
documents, a number of groups, or a bucket for each group. As everywhere, a record is an object
whose other fields say nothing, or an array of its fields in order. Sums are doubles or whole
numbers, and may be null; what the key of a bucket is does not matter here, as long as it denotes
something and does not nest too deep. The readers of answers accept the values that fit, and no
others.

## Main definitions

* `Answer.Counts`, `Answer.NumbersGroups`, `Answer.ListsBuckets` — answers of the schema
* `Bucket.Fits` — a bucket of the schema

## Main results

* `Answer.count_eq_ok_iff`, `Answer.groups_eq_ok_iff`, `Answer.buckets_eq_ok_iff` — what is read
  fits the schema, and the other way round
* `Reply.yields_iff`, `CountTurn.result_eq_ok_iff` — the replies out of which an answer is read
-/

namespace Outlays

open Json (HasShape)
open Json.Record (bind_read_eq_ok_iff need_eq_ok_iff)

/-! ## The schema -/

/-- The value is this count of 64 bits, written as a whole number. -/
def CountFits (j : Json) (n : ℕ) : Prop := j = .num (.whole n) ∧ n < 2 ^ 64

/-- The value is a number, and this is the nearest double. -/
inductive NumberFits : Json → Float → Prop where
  | double (x : Float) : NumberFits (.num (.double x)) x
  | whole (n : Int) : NumberFits (.num (.whole n)) (Float.ofInt n)

/-- The value is a record of a value, which may be null or missing. -/
def ValueFits {α : Type} (fits : Json → α → Prop) (j : Json) (found : Option α) : Prop :=
  ∃ v, HasShape [{ name := "value", absence := .null }] j [v] ∧
    ((v = none ∨ v = some .null) ∧ found = none ∨
      ∃ w a, v = some w ∧ w ≠ .null ∧ fits w a ∧ found = some a)

/-- The value is a record with one part, and the part is a record with the aggregation. -/
def AggregationFits {α : Type} (name : String) (fits : Json → α → Prop) (j : Json) (a : α) :
    Prop :=
  ∃ part v, HasShape [{ name := "aggregations" }] j [some part] ∧
    HasShape [{ name }] part [some v] ∧ fits v a

namespace Bucket

/-- The value is a record of how many documents are about loans, and of the sum of their amounts. -/
def LoansFit (j : Json) (documents : ℕ) (sum : Option Float) : Prop :=
  ∃ v w, HasShape [{ name := "doc_count" }, { name := "sum_face_value_loan" }] j [some v, some w] ∧
    CountFits v documents ∧ ValueFits NumberFits w sum

/-- The value is a record of the parts of the bucket. -/
def Fits (j : Json) (b : Bucket) : Prop :=
  ∃ key documents sum loans,
    HasShape [{ name := "key" }, { name := "doc_count" }, { name := "sum_obligation" },
      { name := "filter_loans" }] j [some key, some documents, some sum, some loans] ∧
    (key.isReadable = true ∧ key.depth < 123) ∧ key.settled = b.key ∧
    CountFits documents b.documents ∧ ValueFits NumberFits sum b.obligations ∧
    LoansFit loans b.loanDocuments b.loans

end Bucket

namespace Answer

/-- The answer is that so many documents match. -/
def Counts (j : Json) (n : ℕ) : Prop :=
  ∃ v, HasShape [{ name := "count" }] j [some v] ∧ CountFits v n

/-- The answer is that there are so many groups, if it tells how many there are. -/
def NumbersGroups (j : Json) (size : Option ℕ) : Prop :=
  AggregationFits "unique_terms" (ValueFits CountFits) j size

/-- The answer has these buckets; a list that is missing is empty. -/
def ListsBuckets (j : Json) (buckets : List Bucket) : Prop :=
  AggregationFits "group_by_recipient"
    (fun v buckets => ∃ part, HasShape [{ name := "buckets", absence := .filled }] v [part] ∧
      ListFits Bucket.Fits part buckets) j buckets

end Answer

/-! ## Reading by the schema -/

variable {j : Json} {α : Type}

/-- The one field of a record that has to be given. -/
theorem bind_need_eq_ok_iff {name : String} {reader : Json.Reader α} {a : α} :
    (Json.Record.read [{ name }] j >>= fun r => r.need name reader) = .ok a ↔
      ∃ v, HasShape [{ name }] j [some v] ∧ reader v = .ok a := by
  have hread : (Json.Record.read [{ name }] j >>= fun r => r.need name reader) = .ok a ↔
      ∃ vs, HasShape [{ name }] j vs ∧ ∃ v, vs = [some v] ∧ reader v = .ok a := by
    refine bind_read_eq_ok_iff (List.pairwise_singleton _ _) fun r vs hvalues => ?_
    obtain _ | ⟨rfl, ⟨⟩⟩ := hvalues
    simp [need_eq_ok_iff]
  rw [hread]
  grind

theorem Bucket.readCount_eq_ok_iff {n : ℕ} : readCount j = .ok n ↔ CountFits j n := by
  have hmost : (uint64Max : Int) + 1 = 2 ^ 64 := rfl
  constructor
  · intro h
    obtain ⟨m, hm, rfl⟩ := exists_of_map_eq_ok h
    unfold Json.Reader.within at hm
    split at hm
    · next m' =>
      split at hm
      · next hbounds =>
        obtain rfl := Except.ok.inj hm
        rw [Bool.and_eq_true, decide_eq_true_eq, decide_eq_true_eq] at hbounds
        exact ⟨by rw [Int.toNat_of_nonneg hbounds.1], by omega⟩
      · cases hm
    · cases hm
  · rintro ⟨rfl, hn⟩
    have hbounds : (0 ≤ (n : Int) && (n : Int) ≤ uint64Max) = true := by
      rw [Bool.and_eq_true, decide_eq_true_eq, decide_eq_true_eq]
      omega
    rw [readCount, Json.Reader.natUpTo, Json.Reader.within, if_pos hbounds]
    rfl

theorem Json.Reader.double_eq_ok_iff {x : Float} : double j = .ok x ↔ NumberFits j x := by
  constructor
  · intro h
    unfold double at h
    split at h
    · cases h
      exact .double x
    · cases h
      exact .whole _
    · cases h
  · rintro ⟨⟩
    · rfl
    · rfl

theorem Bucket.readValue_eq_ok_iff {reader : Json.Reader α} {fits : Json → α → Prop}
    (hread : ∀ {j a}, reader j = .ok a ↔ fits j a) {found : Option α} :
    readValue reader j = .ok found ↔ ValueFits fits j found := by
  simp only [ValueFits, ← hread]
  exact Body.only_eq_ok_iff

namespace Answer

theorem count_eq_ok_iff {n : ℕ} : count j = .ok n ↔ Counts j n := by
  simp only [Counts, ← Bucket.readCount_eq_ok_iff]
  exact bind_need_eq_ok_iff

theorem aggregation_eq_ok_iff {name : String} {reader : Json.Reader α} {fits : Json → α → Prop}
    (hread : ∀ {j a}, reader j = .ok a ↔ fits j a) {a : α} :
    aggregation name reader j = .ok a ↔ AggregationFits name fits j a := by
  rw [aggregation, bind_need_eq_ok_iff]
  simp only [bind_need_eq_ok_iff, AggregationFits, hread]
  grind

/-- A number of groups is read out of the answers that tell one. -/
theorem groups_eq_ok_iff {size : Option ℕ} : groups j = .ok size ↔ NumbersGroups j size :=
  aggregation_eq_ok_iff (Bucket.readValue_eq_ok_iff Bucket.readCount_eq_ok_iff)

end Answer

theorem Bucket.readLoans_eq_ok_iff {documents : ℕ} {sum : Option Float} :
    readLoans j = .ok (documents, sum) ↔ LoansFit j documents sum := by
  have hread : readLoans j = .ok (documents, sum) ↔
      ∃ vs, HasShape [{ name := "doc_count" }, { name := "sum_face_value_loan" }] j vs ∧
        ∃ v w, vs = [some v, some w] ∧ CountFits v documents ∧ ValueFits NumberFits w sum := by
    refine bind_read_eq_ok_iff (by simp) fun r vs hvalues => ?_
    -- The values are what the record has under the two names.
    obtain _ | ⟨rfl, _ | ⟨rfl, ⟨⟩⟩⟩ := hvalues
    simp only [bind_eq_ok_iff, need_eq_ok_iff, readCount_eq_ok_iff,
      readValue_eq_ok_iff Json.Reader.double_eq_ok_iff]
    constructor
    · rintro ⟨_, ⟨v, hv, hcount⟩, _, ⟨w, hw, hsum⟩, ⟨⟩⟩
      exact ⟨v, w, by rw [hv, hw], hcount, hsum⟩
    · rintro ⟨v, w, heq, hcount, hsum⟩
      obtain ⟨hv, hw⟩ : _ ∧ _ := by simpa using heq
      exact ⟨_, ⟨v, hv, hcount⟩, _, ⟨w, hw, hsum⟩, rfl⟩
  rw [hread, LoansFit]
  grind

theorem Bucket.read_eq_ok_iff {b : Bucket} : read j = .ok b ↔ Fits j b := by
  have hread : read j = .ok b ↔
      ∃ vs, HasShape [{ name := "key" }, { name := "doc_count" }, { name := "sum_obligation" },
          { name := "filter_loans" }] j vs ∧
        ∃ key documents sum loans, vs = [some key, some documents, some sum, some loans] ∧
          (key.isReadable = true ∧ key.depth < 123) ∧ key.settled = b.key ∧
          CountFits documents b.documents ∧ ValueFits NumberFits sum b.obligations ∧
          LoansFit loans b.loanDocuments b.loans := by
    refine bind_read_eq_ok_iff (by simp) fun r vs hvalues => ?_
    -- The four values stand in the order of the names, and each part is read from its own.
    obtain _ | ⟨rfl, _ | ⟨rfl, _ | ⟨rfl, _ | ⟨rfl, ⟨⟩⟩⟩⟩⟩ := hvalues
    simp only [bind_eq_ok_iff, need_eq_ok_iff, readCount_eq_ok_iff, Json.Reader.any_eq_ok_iff,
      readValue_eq_ok_iff Json.Reader.double_eq_ok_iff]
    constructor
    · rintro ⟨_, ⟨key, hkey, hreadable, rfl⟩, _, ⟨documents, hdocuments, hcount⟩, _,
        ⟨sum, hsum, hvalue⟩, ⟨n, x⟩, ⟨loans, hloans, hread⟩, ⟨⟩⟩
      exact ⟨key, documents, sum, loans, by rw [hkey, hdocuments, hsum, hloans], hreadable, rfl,
        hcount, hvalue, readLoans_eq_ok_iff.mp hread⟩
    · rintro ⟨key, documents, sum, loans, heq, hreadable, hsettled, hcount, hvalue, hread⟩
      obtain ⟨hkey, hdocuments, hsum, hloans⟩ : _ ∧ _ ∧ _ ∧ _ := by simpa using heq
      exact ⟨_, ⟨key, hkey, hreadable, hsettled⟩, _, ⟨documents, hdocuments, hcount⟩, _,
        ⟨sum, hsum, hvalue⟩, _, ⟨loans, hloans, readLoans_eq_ok_iff.mpr hread⟩, rfl⟩
  rw [hread, Fits]
  grind

namespace Answer

/-- Buckets are read out of the answers that list them. -/
theorem buckets_eq_ok_iff {found : List Bucket} : buckets j = .ok found ↔ ListsBuckets j found := by
  refine aggregation_eq_ok_iff fun {v as} => ?_
  have hread : (Json.Record.read [{ name := "buckets", absence := .filled }] v >>= fun r =>
      r.orElse "buckets" [] (Json.Reader.list Bucket.read)) = .ok as ↔
      ∃ vs, HasShape [{ name := "buckets", absence := .filled }] v vs ∧
        ∃ part, vs = [part] ∧ ListFits Bucket.Fits part as := by
    refine bind_read_eq_ok_iff (List.pairwise_singleton _ _) fun r vs hvalues => ?_
    obtain _ | ⟨rfl, ⟨⟩⟩ := hvalues
    simp [orElse_list_eq_ok_iff Bucket.read_eq_ok_iff]
  rw [hread]
  grind

end Answer

/-! ## Replies -/

/-- An answer is read out of the replies that are a success, and whose body is a JSON text of a
value that fits. -/
theorem Reply.yields_iff {reader : Json.Reader α} {fits : Json → α → Prop}
    (hread : ∀ {j a}, reader j = .ok a ↔ fits j a) {reply : Reply} {a : α} :
    reply.Yields reader a ↔ ∃ status body j, reply = .answered status body ∧
      (200 ≤ status ∧ status < 300) ∧ Json.IsText (Json.symbols body) j ∧ fits j a := by
  constructor
  · rintro ⟨success, parsed, isRead⟩
    exact ⟨_, _, _, rfl, success, Json.parse_eq_some_iff.mp parsed, hread.mp isRead⟩
  · rintro ⟨status, body, j, rfl, success, text, hfits⟩
    exact ⟨success, Json.parse_eq_some_iff.mpr text, hread.mpr hfits⟩

/-- A call for a count comes to what the reply counts, and to nothing else. -/
theorem CountTurn.result_eq_ok_iff {filters : TransactionFilters} {reply : Reply}
    {sent : List SearchRequest} {result : Except Failure ℕ}
    (h : CountTurn filters reply sent result) {n : ℕ} :
    result = .ok n ↔ ∃ status body j, reply = .answered status body ∧
      (200 ≤ status ∧ status < 300) ∧ Json.IsText (Json.symbols body) j ∧ Answer.Counts j n := by
  rw [← Reply.yields_iff Answer.count_eq_ok_iff]
  constructor
  · rintro rfl
    by_cases hyields : ∃ m, reply.Yields Answer.count m
    · obtain ⟨m, hm⟩ := hyields
      obtain rfl := Except.ok.inj (h.counted m hm)
      exact hm
    · obtain ⟨how, hresult, -⟩ := h.failed (not_exists.mp hyields)
      cases hresult
  · exact h.counted n

end Outlays
