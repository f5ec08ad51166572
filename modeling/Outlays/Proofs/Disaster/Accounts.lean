import Mathlib.Data.List.Sort
import Outlays.Memory.Sample
import Outlays.Proofs.Inquiry.Failures
import Outlays.Proofs.Text.Quoting
import Outlays.Proofs.Text.Sorted

/-!
# Codes of disaster spending as a set

Whoever asks how many accounts have disaster spending names codes, and names them as a set: neither
their order nor a repetition makes any difference, to the answer or to the stores. The register of
accounts is asked only for codes that are all known, once some window has closed, and it is asked
for them in one order. What stands in the way otherwise is told in these terms as well: the codes
that are known are listed as a set, too.

The stores are taken here to answer whatever they are asked, in any state. How a question that fails
ends a count is no different from any other call.

## Main definitions

* `Backend.Reliable` — stores that answer every question
* `Disaster.Names` — what a request has to name
* `Disaster.IsCount` — what a count comes to, by what the stores know

## Main results

* `Disaster.countAccounts_congr` — requests that name the same set are the same inquiry
* `Disaster.message_unknownDefCodes_injective` — the known codes can be read off the refusal
* `Disaster.isCount_run` — the course of a count
* `Disaster.counts_set_of_codes` — both together
-/

namespace Outlays

/-- Stores that answer every question. -/
def Backend.Reliable {σ : Type} (b : Backend σ) : Prop :=
  ∀ q s, ∃ answer s', b.answer q s = (.ok answer, s')

/-- Stores in memory answer every question as long as nothing is made to fail, and transactions are
not looked for elsewhere. -/
theorem Memory.reliable_backend {use : MemoryUse} (h : use.search = none) :
    (Memory.backend use fun _ => none).Reliable := by
  intro q m
  cases q with
  | countTransactions filters =>
    simp only [backend, respond, h]
    exact ⟨_, _, rfl⟩
  | recipientTotals filters grouping =>
    simp only [backend, respond, h]
    exact ⟨_, _, rfl⟩
  | _ => exact ⟨_, _, rfl⟩

/-- A window has closed, of a quarter or of a month. -/
def ClosedPeriods.HasClosed (p : ClosedPeriods) : Prop :=
  (∃ window, p.quarterly = some window) ∨ ∃ window, p.monthly = some window

theorem ClosedPeriods.hasClosed_iff {p : ClosedPeriods} :
    p.HasClosed ↔ (p.quarterly.isNone && p.monthly.isNone) = false := by
  rw [HasClosed, ← Option.isSome_iff_exists, ← Option.isSome_iff_exists, Bool.and_eq_false_iff,
    Option.isNone_eq_false_iff, Option.isNone_eq_false_iff]

namespace Disaster

open Inquiry

/-- The request names these codes: one at least, and known ones only. -/
structure Names (known : List String) (given : Option (List String)) (codes : List String) :
    Prop where
  given : given = some codes
  nonempty : codes ≠ []
  known : ∀ t ∈ codes, t ∈ known

/-- What a client is told whose codes are of no use. -/
def told (scope : Scope) (words : String) : Fault :=
  ⟨.unprocessableEntity, words, scope, some (.obj [("field", .str "filter|def_codes")])⟩

/-! ## Checked codes -/

variable {codes others known : List String}

theorem checkedCodes_eq (h : codes ≠ []) :
    checkedCodes (some codes) = (put .defCodes).bind fun known =>
      if codes.all known.contains then .done (Text.sortedSet codes)
      else .refuse (.unknownDefCodes (Text.sortedSet known)) := by
  cases codes with
  | nil => exact absurd rfl h
  | cons t codes => rfl

theorem all_contains_iff : codes.all known.contains = true ↔ ∀ t ∈ codes, t ∈ known := by
  simp only [List.all_eq_true, List.contains_iff_mem]

/-- The check looks at members only. -/
theorem checkedCodes_congr (h : ∀ t, t ∈ codes ↔ t ∈ others) :
    checkedCodes (some codes) = checkedCodes (some others) := by
  by_cases hnil : codes = []
  · obtain rfl : others = [] := List.eq_nil_iff_forall_not_mem.mpr fun t ht => by
      simpa [hnil] using (h t).mpr ht
    rw [hnil]
  · have hothers : others ≠ [] := by
      rintro rfl
      exact hnil (List.eq_nil_iff_forall_not_mem.mpr fun t ht => by simpa using (h t).mp ht)
    have hall (known : List String) : codes.all known.contains = others.all known.contains := by
      rw [Bool.eq_iff_iff, all_contains_iff, all_contains_iff]
      exact forall_congr' fun t => imp_congr_left (h t)
    rw [checkedCodes_eq hnil, checkedCodes_eq hothers, Text.sortedSet_eq_iff.mpr h]
    simp only [hall]

/-- Requests that name the same set are the same inquiry, so nothing at all can tell them apart. -/
theorem countAccounts_congr (now : Instant) (h : ∀ t, t ∈ codes ↔ t ∈ others) :
    countAccounts now (some codes) = countAccounts now (some others) := by
  rw [countAccounts, checkedCodes_congr h, ← countAccounts]

/-! ## Refusals -/

/-- The words of a refusal reach the client as they are, unless they are blank. -/
theorem fault_refused {why : Refusal} {words : String} (hcode : why.code = .unprocessableEntity)
    (hfield : why.field? = some Refusal.defCodesField) (hwords : why.message = words)
    (hblank : Text.isBlankText words = false) (scope : Scope) :
    (Cause.refused why).fault scope = told scope words := by
  simp only [Cause.fault, Cause.code, Cause.message, Cause.details?, Refusal.details?, hcode,
    hfield, hwords, Fault.make, Fault.make?, hblank, Option.map_some, Bool.false_eq_true, if_false]
  rfl

theorem render_reportingStart : reportingStart.render = "2020-04-01" := by
  decide

theorem fault_missing (scope : Scope) :
    (Cause.refused .missingDefCodes).fault scope =
      told scope "Missing value: 'filter|def_codes' is a required field" :=
  fault_refused rfl rfl rfl (by decide) scope

theorem fault_empty (scope : Scope) :
    (Cause.refused .emptyDefCodes).fault scope =
      told scope "Field 'filter|def_codes' value '[]' is below min '1' items" :=
  fault_refused rfl rfl rfl (by decide) scope

/-- The message lists the codes, each as a literal. -/
theorem message_unknownDefCodes (listed : List String) :
    ∃ literals, List.Forall₂ Text.IsLiteral listed literals ∧
      (Refusal.unknownDefCodes listed).message =
        "Field 'filter|def_codes' is outside valid values " ++
          ("[" ++ String.intercalate ", " literals ++ "]") := by
  obtain ⟨literals, hliterals, hlist⟩ := Text.quotedList_eq listed
  have hfront : "Field '" ++ Refusal.defCodesField ++ "' is outside valid values " =
      "Field 'filter|def_codes' is outside valid values " := by decide
  refine ⟨literals, hliterals, ?_⟩
  rw [← hfront, ← hlist]
  rfl

/-- So the codes can be read off the message. -/
theorem message_unknownDefCodes_injective {listed others : List String}
    (h : (Refusal.unknownDefCodes listed).message = (Refusal.unknownDefCodes others).message) :
    listed = others := by
  obtain ⟨literals, hliterals, hmessage⟩ := message_unknownDefCodes listed
  obtain ⟨literals', hliterals', hmessage'⟩ := message_unknownDefCodes others
  rw [hmessage, hmessage', String.append_right_inj] at h
  exact Text.eq_of_intercalate_eq hliterals hliterals' h

theorem fault_unknown (listed : List String) :
    ∃ literals, List.Forall₂ Text.IsLiteral listed literals ∧
      ∀ scope, (Cause.refused (.unknownDefCodes listed)).fault scope =
        told scope ("Field 'filter|def_codes' is outside valid values " ++
          ("[" ++ String.intercalate ", " literals ++ "]")) := by
  obtain ⟨literals, hliterals, hmessage⟩ := message_unknownDefCodes listed
  refine ⟨literals, hliterals, fault_refused rfl rfl hmessage ?_⟩
  rw [Text.isBlankText_append, Bool.and_eq_false_iff]
  exact .inl (by decide)

/-! ## The course of a count -/

variable {σ : Type} {b : Backend σ}

/-- What a count comes to, for stores that know these codes, then report these windows, and are left
in the states `s₁` and `s₂` thereby. -/
structure IsCount (b : Backend σ) (now : Instant) (known : List String) (s₁ : σ)
    (closed : ClosedPeriods) (s₂ : σ) (given : Option (List String)) (o : Outcome σ Nat) :
    Prop where
  /-- The register of accounts is asked for known codes, once a window has closed. -/
  asks_iff : (∃ f, .countAccounts f ∈ o.asked) ↔
    (∃ codes, Names known given codes) ∧ closed.HasClosed
  /-- It is asked once, last, and for the codes in one order; the answer is the count. -/
  counted : ∀ codes, Names known given codes → closed.HasClosed →
    ∃ f n s₃, b.answer (.countAccounts f) s₂ = (.ok n, s₃) ∧
      o = ⟨.ok n, s₃, [.defCodes, .closedPeriods now, .countAccounts f]⟩ ∧
      f.defCodes.Pairwise (· < ·) ∧ (∀ t, t ∈ f.defCodes ↔ t ∈ codes) ∧
      f.since.render = "2020-04-01" ∧ f.closed = closed
  /-- Before a window has closed, nothing counts. -/
  nothing : ∀ codes, Names known given codes → ¬ closed.HasClosed →
    o = ⟨.ok 0, s₂, [.defCodes, .closedPeriods now]⟩
  /-- Codes that are of no use are refused, and the client is told which field they stand in. -/
  refused : (∀ codes, ¬ Names known given codes) →
    ∃ why, o.result = .error (.refused why) ∧
      ∀ scope, ∃ words, (Cause.refused why).fault scope = told scope words
  /-- Without a code, no store is asked. -/
  unasked : given = none ∨ given = some [] → o.asked = []
  /-- Where a code is unknown, the client is told the known ones, each once and in order: between
  brackets and quotes, with commas between them. -/
  unknown : ∀ codes, given = some codes → (∃ t ∈ codes, t ∉ known) →
    ∃ why listed literals, o = ⟨.error (.refused why), s₁, [.defCodes]⟩ ∧
      listed.Pairwise (· < ·) ∧ (∀ t, t ∈ listed ↔ t ∈ known) ∧
      List.Forall₂ Text.IsLiteral listed literals ∧
      ∀ scope, (Cause.refused why).fault scope =
        told scope ("Field 'filter|def_codes' is outside valid values " ++
          ("[" ++ String.intercalate ", " literals ++ "]"))

section Run

variable {now : Instant} {s s₁ s₂ : σ} {closed : ClosedPeriods}

theorem isCount_refuse {given : Option (List String)} {why : Refusal} {s : σ}
    (hgiven : given = none ∨ given = some [])
    (hwhy : ∀ scope, ∃ words, (Cause.refused why).fault scope = told scope words) :
    IsCount b now known s₁ closed s₂ given ⟨.error (.refused why), s, []⟩ := by
  have hnone (codes : List String) : ¬ Names known given codes := by
    rintro ⟨rfl, hnonempty, -⟩
    rcases hgiven with h | h
    · cases h
    · exact hnonempty (Option.some.inj h)
  refine ⟨?_, fun codes h => absurd h (hnone codes), fun codes h => absurd h (hnone codes),
    fun _ => ⟨why, rfl, hwhy⟩, fun _ => rfl, ?_⟩
  · exact iff_of_false (by simp) fun h => hnone _ h.1.choose_spec
  · rintro codes rfl ⟨t, ht, -⟩
    rcases hgiven with h | h
    · cases h
    · rw [Option.some.inj h] at ht
      cases ht

theorem run_checkedCodes (h : codes ≠ []) (hknown : b.answer .defCodes s = (.ok known, s₁)) :
    (checkedCodes (some codes)).run b s =
      if codes.all known.contains then ⟨.ok (Text.sortedSet codes), s₁, [.defCodes]⟩
      else ⟨.error (.refused (.unknownDefCodes (Text.sortedSet known))), s₁, [.defCodes]⟩ := by
  rw [checkedCodes_eq h, put, Inquiry.bind, run_ask_of_ok hknown, done_bind]
  split <;> rfl

/-- Codes that are all known are counted once a window has closed. -/
theorem run_countAccounts (h : codes ≠ []) (hall : codes.all known.contains = true)
    (hknown : b.answer .defCodes s = (.ok known, s₁))
    (hclosed : b.answer (.closedPeriods now) s₁ = (.ok closed, s₂)) :
    (countAccounts now (some codes)).run b s =
      let o := run b (if closed.quarterly.isNone && closed.monthly.isNone then .done 0
        else put (.countAccounts ⟨Text.sortedSet codes, reportingStart, closed⟩)) s₂
      { o with asked := .defCodes :: .closedPeriods now :: o.asked } := by
  rw [countAccounts, bind_eq_bind, run_bind, run_checkedCodes h hknown, if_pos hall]
  simp only [bind_eq_bind, put, Inquiry.bind, run_ask_of_ok hclosed]
  rfl

theorem run_countAccounts_of_unknown (h : codes ≠ []) (hall : codes.all known.contains = false)
    (hknown : b.answer .defCodes s = (.ok known, s₁)) :
    (countAccounts now (some codes)).run b s =
      ⟨.error (.refused (.unknownDefCodes (Text.sortedSet known))), s₁, [.defCodes]⟩ := by
  rw [countAccounts, bind_eq_bind, run_bind, run_checkedCodes h hknown, if_neg (by simp [hall])]

theorem isCount_of_unknown (h : codes ≠ []) (hall : codes.all known.contains = false)
    (hknown : b.answer .defCodes s = (.ok known, s₁)) :
    IsCount b now known s₁ closed s₂ (some codes) ((countAccounts now (some codes)).run b s) := by
  have hnone (others : List String) : ¬ Names known (some codes) others := by
    intro hnames
    obtain rfl : codes = others := Option.some.inj hnames.given
    rw [all_contains_iff.mpr hnames.known] at hall
    cases hall
  obtain ⟨literals, hliterals, hfault⟩ := fault_unknown (Text.sortedSet known)
  rw [run_countAccounts_of_unknown h hall hknown]
  exact {
    asks_iff := iff_of_false (by simp) fun hnames => hnone _ hnames.1.choose_spec
    counted := fun others hnames => absurd hnames (hnone others)
    nothing := fun others hnames => absurd hnames (hnone others)
    refused := fun _ => ⟨_, rfl, fun scope => ⟨_, hfault scope⟩⟩
    unasked := by simp [h]
    unknown := fun _ _ _ =>
      ⟨_, _, literals, rfl, Text.sortedSet_pairwise known, fun _ => Text.mem_sortedSet, hliterals,
        hfault⟩ }

theorem isCount_of_known (hb : b.Reliable) (h : codes ≠ [])
    (hall : codes.all known.contains = true) (hknown : b.answer .defCodes s = (.ok known, s₁))
    (hclosed : b.answer (.closedPeriods now) s₁ = (.ok closed, s₂)) :
    IsCount b now known s₁ closed s₂ (some codes) ((countAccounts now (some codes)).run b s) := by
  have hnames : Names known (some codes) codes := ⟨rfl, h, all_contains_iff.mp hall⟩
  have heq {others : List String} (hothers : some codes = some others) : codes = others :=
    Option.some.inj hothers
  have hrefused : ¬ ∀ others, ¬ Names known (some codes) others := fun hnone => hnone codes hnames
  have hunknown (others : List String) (hothers : some codes = some others) :
      ¬ ∃ t ∈ others, t ∉ known := by
    obtain rfl := heq hothers
    rintro ⟨t, ht, hnot⟩
    exact hnot (hnames.known t ht)
  rw [run_countAccounts h hall hknown hclosed]
  cases hsome : closed.quarterly.isNone && closed.monthly.isNone with
  | true =>
    have hnone : ¬ closed.HasClosed := by
      rw [ClosedPeriods.hasClosed_iff, hsome]
      decide
    exact {
      asks_iff := iff_of_false (by simp) fun hboth => hnone hboth.2
      counted := fun _ _ hhas => absurd hhas hnone
      nothing := fun _ _ _ => rfl
      refused := fun hnot => absurd hnot hrefused
      unasked := by simp [h]
      unknown := fun others hothers hnot => absurd hnot (hunknown others hothers) }
  | false =>
    have hhas : closed.HasClosed := ClosedPeriods.hasClosed_iff.mpr hsome
    obtain ⟨n, s₃, hn⟩ := hb (.countAccounts ⟨Text.sortedSet codes, reportingStart, closed⟩) s₂
    simp only [Bool.false_eq_true, if_false, put, run_ask_of_ok hn, run_done]
    exact {
      asks_iff := iff_of_true ⟨⟨Text.sortedSet codes, reportingStart, closed⟩, by simp⟩
        ⟨⟨codes, hnames⟩, hhas⟩
      counted := by
        intro others hothers _
        obtain rfl := heq hothers.given
        exact ⟨_, n, s₃, hn, rfl, Text.sortedSet_pairwise codes, fun _ => Text.mem_sortedSet,
          render_reportingStart, rfl⟩
      nothing := fun _ _ hnone => absurd hhas hnone
      refused := fun hnot => absurd hnot hrefused
      unasked := by simp [h]
      unknown := fun others hothers hnot => absurd hnot (hunknown others hothers) }

/-- The course of a count, whatever the request names. -/
theorem isCount_run (hb : b.Reliable) (hknown : b.answer .defCodes s = (.ok known, s₁))
    (hclosed : b.answer (.closedPeriods now) s₁ = (.ok closed, s₂)) (given : Option (List String)) :
    IsCount b now known s₁ closed s₂ given ((countAccounts now given).run b s) := by
  rcases given with _ | codes
  · exact isCount_refuse (.inl rfl) fun scope => ⟨_, fault_missing scope⟩
  by_cases hnil : codes = []
  · subst hnil
    exact isCount_refuse (.inr rfl) fun scope => ⟨_, fault_empty scope⟩
  cases hall : codes.all known.contains with
  | false => exact isCount_of_unknown hnil hall hknown
  | true => exact isCount_of_known hb hnil hall hknown hclosed

end Run

/-- Stores that answer whatever they are asked count accounts by the set of the codes: requests that
name the same set, in any order and however often, come to the same result by the same questions.
The register of accounts is asked exactly for known codes and windows that have closed, and all else
is told in terms of the codes. -/
theorem counts_set_of_codes (hb : b.Reliable) (now : Instant) (s : σ) :
    (∀ codes others : List String, (∀ t, t ∈ codes ↔ t ∈ others) →
      (countAccounts now (some codes)).run b s = (countAccounts now (some others)).run b s) ∧
    ∃ known s₁ closed s₂, b.answer .defCodes s = (.ok known, s₁) ∧
      b.answer (.closedPeriods now) s₁ = (.ok closed, s₂) ∧
      ∀ given, IsCount b now known s₁ closed s₂ given ((countAccounts now given).run b s) := by
  constructor
  · intro codes others h
    rw [countAccounts_congr now h]
  · obtain ⟨known, s₁, hknown⟩ := hb .defCodes s
    obtain ⟨closed, s₂, hclosed⟩ := hb (.closedPeriods now) s₁
    exact ⟨known, s₁, closed, s₂, hknown, hclosed, isCount_run hb hknown hclosed⟩

/-- Four accounts, whether a code is named twice or once. Whoever names a code that is unknown is
told each known one once, though the stores know one of them twice. -/
theorem counts_set_of_codes_twice :
    let b := Memory.backend {} fun _ => none
    let m : Memory :=
      { stores := { Stores.sample with defCodes := ["M", "L", "M"], accounts := 4 } }
    let now := Circumstances.sample.now
    b.Reliable ∧
      (countAccounts now (some ["M", "L", "M"])).run b m =
        (countAccounts now (some ["L", "M"])).run b m ∧
      (∃ f, f.defCodes = ["L", "M"] ∧
        (countAccounts now (some ["M", "L", "M"])).run b m =
          ⟨.ok 4, m, [.defCodes, .closedPeriods now, .countAccounts f]⟩) ∧
      ∃ why, (countAccounts now (some ["L", "X"])).run b m =
          ⟨.error (.refused why), m, [.defCodes]⟩ ∧
        ∀ scope, (Cause.refused why).fault scope =
          told scope "Field 'filter|def_codes' is outside valid values [\"L\", \"M\"]" := by
  intro b m now
  have hb : b.Reliable := Memory.reliable_backend rfl
  obtain ⟨hsame, known, s₁, closed, s₂, hknown, hclosed, hcount⟩ := counts_set_of_codes hb now m
  obtain ⟨rfl, rfl⟩ : ["M", "L", "M"] = known ∧ m = s₁ := by
    simpa [b, Memory.backend, Memory.respond, m] using hknown
  obtain ⟨rfl, rfl⟩ : Stores.sample.closed = closed ∧ m = s₂ := by
    simpa [b, Memory.backend, Memory.respond, m] using hclosed
  have hmem (t : String) : t ∈ ["M", "L", "M"] ↔ t ∈ ["L", "M"] := by
    simp only [List.mem_cons, List.not_mem_nil]
    tauto
  obtain ⟨f, n, m', hn, hrun, hpairwise, hcodes, -, -⟩ :=
    (hcount (some ["M", "L", "M"])).counted _ ⟨rfl, by decide, by decide⟩ (.inl ⟨_, rfl⟩)
  obtain ⟨rfl, rfl⟩ : 4 = n ∧ m = m' := by
    simpa [b, Memory.backend, Memory.respond, m] using hn
  have hf : f.defCodes = ["L", "M"] :=
    hpairwise.eq_of_mem_iff (by decide) fun t => (hcodes t).trans (hmem t)
  refine ⟨hb, hsame _ _ hmem, ⟨f, hf, hrun⟩, ?_⟩
  obtain ⟨why, listed, literals, hrefused, hlisted, hall, hliterals, htold⟩ :=
    (hcount (some ["L", "X"])).unknown _ rfl ⟨"X", by decide, by decide⟩
  obtain rfl : listed = ["L", "M"] :=
    hlisted.eq_of_mem_iff (by decide) fun t => (hall t).trans (hmem t)
  -- Neither code has a character that needs an escape.
  obtain _ | ⟨hfirst, _ | ⟨hsecond, ⟨⟩⟩⟩ := hliterals
  rw [hfirst.eq_of_printable (by simp), hsecond.eq_of_printable (by simp)] at htold
  exact ⟨why, hrefused, htold⟩

end Disaster

end Outlays
