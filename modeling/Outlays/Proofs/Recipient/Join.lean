import Mathlib.Data.List.Forall2
import Outlays.Memory.Sample
import Outlays.Proofs.Recipient.Children

/-!
# The rows of the children

The row of a child is put together from several answers: its amount from the group of its
transactions, its name and DUNS from the key of that group, its UEI from the register and its
state from the directory. Nothing but the hash ties them together, so the question is whether each
row has what the stores answer for its own hash, whichever groups are passed over.

## Main definitions

* `ChildRow.ShownAs` — the JSON of a row, name by name
* `Children.Shows` — a row shows a group
* `Children.Join` — the rows of a call, joined from the answers of the stores

## Main results

* `Children.forall₂_shows` — one row for each group that names a child, in order
* `Children.leads_call_iff` — the answer to a call is the list of the rows
* `Children.nonempty_join` — every call that succeeds is answered with such rows
-/

namespace Outlays

/-! ## Rows as JSON -/

namespace ChildRow

theorem id_eq (r : ChildRow) : r.id = r.hash.render ++ "-C" := by
  rw [id, RecipientId.render, String.append_assoc]
  rfl

theorem field?_recipient_id (r : ChildRow) :
    r.toJson.field? "recipient_id" = some (.str r.id) := by
  obtain ⟨hash, name, duns, uei, amount, state⟩ := r
  cases state <;> rfl

/-- The state of a row is left out, null or a text. -/
theorem field?_state_province (r : ChildRow) :
    r.toJson.field? "state_province" = r.state.map (Json.option .str) := by
  obtain ⟨hash, name, duns, uei, amount, state⟩ := r
  cases state <;> rfl

/-- The JSON has the parts of the row under their names. A text that is missing is null, and so is
an amount that is not finite. -/
structure ShownAs (r : ChildRow) (j : Json) : Prop where
  name : j.field? "name" = some (r.name.elim .null .str)
  duns : j.field? "duns" = some (r.duns.elim .null .str)
  uei : j.field? "uei" = some (r.uei.elim .null .str)
  amount : j.field? "amount" =
    some (if Double.isFinite r.amount then .num (.double r.amount) else .null)

theorem shownAs_toJson (r : ChildRow) : r.ShownAs r.toJson := by
  obtain ⟨hash, name, duns, uei, amount, state⟩ := r
  constructor
  case name => cases name <;> cases state <;> rfl
  case duns => cases duns <;> cases state <;> rfl
  case uei => cases uei <;> cases state <;> rfl
  case amount => cases state <;> rfl

end ChildRow

namespace Children

/-! ## Groups and their rows -/

/-- The row shows a group: the child that the group names, by what its key says, with what it was
obliged, cents over a hundred. -/
def Shows (t : Totals) (r : ChildRow) : Prop :=
  t.Names r.hash ∧ r.name = t.key.name ∧ r.duns = t.key.uniqueId ∧
    r.amount = Float.ofInt t.obligations.value / 100.0

theorem usable_iff_isSome_rowOf {t : Totals} : t.Usable ↔ (rowOf t).isSome := by
  simp only [Option.isSome_iff_exists, rowOf_eq_some_iff, Totals.Usable]
  constructor
  · rintro ⟨u, hu⟩
    exact ⟨_, u, hu, rfl⟩
  · rintro ⟨-, u, hu, -⟩
    exact ⟨u, hu⟩

/-- Groups that name no child make no rows. -/
theorem filterMap_rowOf_filter (totals : List Totals) :
    (totals.filter (·.Usable)).filterMap rowOf = totals.filterMap rowOf := by
  rw [List.filterMap_filter]
  congr 1
  funext t
  by_cases h : t.Usable
  · simp [h]
  · have hnone : rowOf t = none := by simpa [usable_iff_isSome_rowOf] using h
    simp [h, hnone]

/-- The rows of the groups, one for each group that names a child. -/
theorem forall₂_shows (totals : List Totals) (ueis : Keyed Uuid String)
    (states : Keyed Uuid (Option String)) :
    List.Forall₂ Shows (totals.filter (·.Usable))
      ((keptRows totals ueis).map (withState states)) := by
  induction totals with
  | nil => exact .nil
  | cons t totals ih =>
    -- A group that names no child is dropped on both sides.
    by_cases h : t.Usable
    · obtain ⟨r, hr⟩ := Option.isSome_iff_exists.mp (usable_iff_isSome_rowOf.mp h)
      obtain ⟨u, hu, rfl⟩ := rowOf_eq_some_iff.mp hr
      simp only [keptRows, List.filter_cons, h, decide_true, if_true, List.filterMap_cons, hr,
        List.map_cons]
      exact .cons ⟨hu, rfl, rfl, rfl⟩ ih
    · have hnone : rowOf t = none := by simpa [usable_iff_isSome_rowOf] using h
      simpa [keptRows, h, hnone] using ih

/-! ## Answers of the stores -/

theorem fst_of_mem_askedAbout {α : Type} {items : List α} {q : Question} {answer : q.Answer}
    {a : Answered} (h : a ∈ askedAbout items q answer) : a.1 = q := by
  unfold askedAbout at h
  split at h
  · cases h
  · obtain rfl := List.mem_singleton.mp h
    rfl

theorem mem_askedAbout {α : Type} {items : List α} {q : Question} {answer : q.Answer}
    (h : items ≠ []) : (⟨q, answer⟩ : Answered) ∈ askedAbout items q answer := by
  simp [askedAbout, h]

/-- The questions about the children without transactions. -/
theorem Adds.fst_of_mem {parent : RecipientId} {rows added : List ChildRow} {chosen : YearFilter}
    {later : List Answered} (h : Adds parent rows chosen later added) {a : Answered}
    (ha : a ∈ later) : a.1 = .affiliations parent ∨ ∃ missing, a.1 = .childProfiles missing := by
  cases h with
  | nothing => cases ha
  | missing hchosen hfound =>
    rcases List.mem_cons.mp ha with rfl | ha
    · exact .inl rfl
    · exact .inr ⟨_, fst_of_mem_askedAbout ha⟩

/-- The answer to a call for children is the list of the rows. -/
theorem leads_call_iff {c : Circumstances} {duns : String} {year : Option String}
    {log : List Answered} {answer : Json} :
    ((Call.children duns year).inquiry c).Leads log (.ok answer) ↔
      ∃ rows, (ask c.now duns year).Leads log (.ok rows) ∧
        answer = .arr (rows.map ChildRow.toJson) :=
  Inquiry.leads_bind_done_iff

/-! ## The join -/

/-- The rows that answer a call for children, joined from what the stores answer in `log`: the
rows of the groups that name a child, then rows without an amount. -/
structure Join (c : Circumstances) (duns : String) (year : Option String) (log : List Answered)
    (answer : Json) where
  chosen : YearFilter
  window : TimePeriod
  entry : DirectoryEntry
  totals : List Totals
  ueis : Keyed Uuid String
  states : Keyed Uuid (Option String)
  kept : List ChildRow
  added : List ChildRow
  before : List Answered
  after : List Answered
  answer_eq : answer = .arr ((kept ++ added).map ChildRow.toJson)
  parse_eq : YearFilter.parse year = .ok chosen
  window_eq : chosen.window c.now.date = .ok window
  entry_mem : ⟨.findEntryByDuns duns, some entry⟩ ∈ before
  log_eq : log = before ++
    ⟨.recipientTotals { timePeriods := [window], recipientId := some ⟨entry.hash, .parent⟩ }
      .child, totals⟩ :: after
  /-- The totals are asked for once. -/
  once : ∀ a ∈ before ++ after, ∀ filters grouping, a.1 ≠ .recipientTotals filters grouping
  shows : List.Forall₂ Shows (totals.filter (·.Usable)) kept
  ueis_mem : kept ≠ [] → ⟨.profileUeis (kept.map (·.hash)), ueis⟩ ∈ log
  uei_eq : ∀ r ∈ kept, r.uei = Keyed.get? ueis r.hash
  amount_eq : ∀ r ∈ added, r.amount = 0.0
  states_mem : kept ++ added ≠ [] →
    ⟨.entryStates ((kept ++ added).map (·.hash)), states⟩ ∈ log
  shown : ∀ r ∈ kept ++ added, r.ShownAs r.toJson
  id_eq : ∀ r ∈ kept ++ added,
    r.toJson.field? "recipient_id" = some (.str (r.hash.render ++ "-C"))
  state_eq : ∀ r ∈ kept ++ added,
    r.toJson.field? "state_province" = (Keyed.get? states r.hash).map (Json.option .str)
  absent_iff : ∀ r ∈ kept ++ added,
    r.toJson.field? "state_province" = none ↔ Keyed.get? states r.hash = none
  null_iff : ∀ r ∈ kept ++ added,
    r.toJson.field? "state_province" = some .null ↔ Keyed.get? states r.hash = some none
  /-- Groups that name no child change nothing. -/
  skipped : ∀ others : List Totals, others.filter (·.Usable) = totals.filter (·.Usable) →
    ((Call.children duns year).inquiry c).Leads (before ++
      ⟨.recipientTotals { timePeriods := [window], recipientId := some ⟨entry.hash, .parent⟩ }
        .child, others⟩ :: after) (.ok answer)

theorem option_str_eq_null_iff {state : Option String} :
    Json.option .str state = .null ↔ state = none := by
  cases state <;> simp [Json.option]

theorem Adds.amount_eq {parent : RecipientId} {rows added : List ChildRow} {chosen : YearFilter}
    {later : List Answered} (h : Adds parent rows chosen later added) {r : ChildRow}
    (hr : r ∈ added) : r.amount = 0.0 := by
  cases h with
  | nothing => cases hr
  | missing hchosen hfound =>
    obtain ⟨p, -, rfl⟩ := List.mem_map.mp hr
    rfl

theorem map_hash_withState (rows : List ChildRow) (states : Keyed Uuid (Option String)) :
    (rows.map (withState states)).map (·.hash) = rows.map (·.hash) := by
  simp [Function.comp_def, withState]

theorem map_hash_keptRows (totals : List Totals) (ueis : Keyed Uuid String) :
    (keptRows totals ueis).map (·.hash) = (totals.filterMap rowOf).map (·.hash) := by
  simp [keptRows, Function.comp_def, withUei]

section Course

variable {now : Instant} {duns : String} {year : Option String} {log : List Answered}
  {rows : List ChildRow}

/-- The answers behind the totals. -/
def Course.after (course : Course now duns year log rows) : List Answered :=
  askedAbout (course.totals.filterMap rowOf)
      (.profileUeis ((course.totals.filterMap rowOf).map (·.hash))) course.ueis ++
    (course.later ++
      askedAbout (keptRows course.totals course.ueis ++ course.added)
        (.entryStates ((keptRows course.totals course.ueis ++ course.added).map (·.hash)))
        course.states)

/-- The rows of the groups, with their states. -/
def Course.kept (course : Course now duns year log rows) : List ChildRow :=
  (keptRows course.totals course.ueis).map (withState course.states)

/-- The rows of the children without transactions, with their states. -/
def Course.extra (course : Course now duns year log rows) : List ChildRow :=
  course.added.map (withState course.states)

theorem Course.rows_eq_append (course : Course now duns year log rows) :
    rows = course.kept ++ course.extra := by
  rw [kept, extra, ← List.map_append]
  exact course.rows_eq

theorem Course.uei_eq (course : Course now duns year log rows) {r : ChildRow}
    (hr : r ∈ course.kept) : r.uei = Keyed.get? course.ueis r.hash := by
  simp only [kept, keptRows, List.map_map, List.mem_map] at hr
  obtain ⟨row, -, rfl⟩ := hr
  rfl

theorem Course.amount_eq (course : Course now duns year log rows) {r : ChildRow}
    (hr : r ∈ course.extra) : r.amount = 0.0 := by
  obtain ⟨row, hrow, rfl⟩ := List.mem_map.mp hr
  have hamount : row.amount = 0.0 := course.adds.amount_eq hrow
  exact hamount

theorem Course.state_eq (course : Course now duns year log rows) {r : ChildRow}
    (hr : r ∈ course.kept ++ course.extra) : r.state = Keyed.get? course.states r.hash := by
  rw [kept, extra, ← List.map_append] at hr
  obtain ⟨row, -, rfl⟩ := List.mem_map.mp hr
  rfl

/-- The UEIs are asked for the hashes of the rows, where there are rows. -/
theorem Course.ueis_mem (course : Course now duns year log rows) (h : course.kept ≠ []) :
    ⟨.profileUeis (course.kept.map (·.hash)), course.ueis⟩ ∈ log := by
  have hrows : course.totals.filterMap rowOf ≠ [] := by simpa [kept, keptRows] using h
  rw [kept, map_hash_withState, map_hash_keptRows]
  simp [course.log_eq, mem_askedAbout hrows]

/-- The states are asked for the hashes of all rows, where there are rows. -/
theorem Course.states_mem (course : Course now duns year log rows)
    (h : course.kept ++ course.extra ≠ []) :
    ⟨.entryStates ((course.kept ++ course.extra).map (·.hash)), course.states⟩ ∈ log := by
  have hrows : keptRows course.totals course.ueis ++ course.added ≠ [] := by
    simpa [kept, extra] using h
  rw [kept, extra, ← List.map_append, map_hash_withState]
  simp [course.log_eq, mem_askedAbout hrows]

/-- What is asked after the totals is not about totals. -/
theorem Course.ne_recipientTotals (course : Course now duns year log rows) {a : Answered}
    (ha : a ∈ course.after) (filters : TransactionFilters) (grouping : Grouping) :
    a.1 ≠ .recipientTotals filters grouping := by
  intro hq
  simp only [after, List.mem_append] at ha
  rcases ha with ha | ha | ha
  · cases hq.symm.trans (fst_of_mem_askedAbout ha)
  · obtain h | ⟨missing, h⟩ := course.adds.fst_of_mem ha
    · cases hq.symm.trans h
    · cases hq.symm.trans h
  · cases hq.symm.trans (fst_of_mem_askedAbout ha)

/-- Groups that name no child change nothing: with others in their place, the same answers lead to
the same rows. -/
theorem Course.leads_of_filter_eq (course : Course now duns year log rows) {others : List Totals}
    (h : others.filter (·.Usable) = course.totals.filter (·.Usable)) :
    (ask now duns year).Leads
      (⟨.findEntryByDuns duns, some course.entry⟩ ::
        ⟨.recipientTotals { timePeriods := [course.window],
                            recipientId := some ⟨course.entry.hash, .parent⟩ }
          .child, others⟩ :: course.after) (.ok rows) := by
  have hrowOf : others.filterMap rowOf = course.totals.filterMap rowOf := by
    rw [← filterMap_rowOf_filter others, h, filterMap_rowOf_filter]
  have hkept : keptRows others course.ueis = keptRows course.totals course.ueis := by
    rw [keptRows, hrowOf, keptRows]
  -- Only the totals differ from the course at hand, and its rows are made from these two lists.
  exact leads_ask_iff.mpr ⟨{
    course with
    totals := others
    adds := hkept ▸ course.adds
    log_eq := by rw [hkept, hrowOf]; rfl
    rows_eq := by rw [hkept]; exact course.rows_eq }⟩

end Course

/-- The rows of a call are joined from what the stores answer. -/
theorem nonempty_join {σ : Type} (c : Circumstances) (b : Backend σ) (s : σ) (duns : String)
    (year : Option String) (answer : Json)
    (answered : (((Call.children duns year).inquiry c).run b s).result = .ok answer) :
    Nonempty (Join c duns year (((Call.children duns year).inquiry c).transcript b s) answer) := by
  obtain ⟨rows, hrows, rfl⟩ := leads_call_iff.mp (Inquiry.leads_transcript b answered)
  obtain ⟨course⟩ := leads_ask_iff.mp hrows
  have hstate : ∀ r ∈ course.kept ++ course.extra,
      r.toJson.field? "state_province" =
        (Keyed.get? course.states r.hash).map (Json.option .str) := by
    intro r hr
    rw [ChildRow.field?_state_province, course.state_eq hr]
  refine ⟨{
    chosen := course.chosen
    window := course.window
    entry := course.entry
    totals := course.totals
    ueis := course.ueis
    states := course.states
    kept := course.kept
    added := course.extra
    before := [⟨.findEntryByDuns duns, some course.entry⟩]
    after := course.after
    answer_eq := by rw [← course.rows_eq_append]
    parse_eq := course.parse_eq
    window_eq := course.window_eq
    entry_mem := List.mem_singleton_self _
    log_eq := course.log_eq
    once := ?once
    shows := forall₂_shows course.totals course.ueis course.states
    ueis_mem := course.ueis_mem
    uei_eq := fun _ => course.uei_eq
    amount_eq := fun _ => course.amount_eq
    states_mem := course.states_mem
    shown := fun r _ => r.shownAs_toJson
    id_eq := fun r _ => by rw [ChildRow.field?_recipient_id, ChildRow.id_eq]
    state_eq := hstate
    absent_iff := fun r hr => by rw [hstate r hr, Option.map_eq_none_iff]
    null_iff := fun r hr => by simp [hstate r hr, option_str_eq_null_iff]
    skipped := fun others h => leads_call_iff.mpr ⟨rows, course.leads_of_filter_eq h, rfl⟩ }⟩
  case once =>
    intro a ha filters grouping
    rcases List.mem_cons.mp ha with rfl | ha
    · exact Question.noConfusion
    · exact course.ne_recipientTotals ha filters grouping

/-- An identifier of one digit. -/
def sampleUuid (d : Nat) (h : d < 16 := by decide) : Uuid :=
  ⟨List.replicate 32 ⟨d, h⟩, List.length_replicate⟩

/-- The hash of the parent of the family. -/
def parentHash : Uuid := sampleUuid 1

/-- A parent with two children. Of the two groups of its transactions one names the first child,
and the other none. -/
def sampleFamily : Memory where
  stores := {
    entries := [
      { hash := parentHash, name := some "PARENT CORP", duns := some "987654321",
        alternateNames := [], location := {} },
      { hash := sampleUuid 2, name := some "CHILD CORP", duns := some "111111111",
        alternateNames := [], location := { stateCode := some "VA" } }],
    profiles := [
      { id := ⟨parentHash, .parent⟩, duns := some "987654321", uei := none,
        affiliations := ["111111111", "222222222"], name := some "PARENT CORP" },
      { id := ⟨sampleUuid 2, .child⟩, duns := some "111111111", uei := some "CHILDUEI",
        affiliations := ["987654321"], name := some "CHILD CORP" },
      { id := ⟨sampleUuid 3, .child⟩, duns := some "222222222", uei := some "QUIETUEI",
        affiliations := ["987654321"], name := some "QUIET CHILD" }],
    totals := [
      { child := some { hashWithLevel := some (RecipientId.render ⟨sampleUuid 2, .child⟩)
                        uniqueId := some "111111111"
                        name := some "CHILD CORP" }
        obligations := ⟨25000⟩
        transactions := 1 },
      { obligations := ⟨100⟩
        transactions := 1 }] }

/-- What a call for the children of the family is answered by the stores. -/
abbrev familyLog : List Answered :=
  ((Call.children "987654321" none).inquiry .sample).transcript
    (Memory.backend {} fun _ => none) sampleFamily

/-- The rows of both children: one was obliged 25000 cents, and the other nothing. -/
theorem nonempty_join_family :
    ∃ first second, (((Call.children "987654321" none).inquiry .sample).run
        (Memory.backend {} fun _ => none) sampleFamily).result = .ok (.arr [first, second]) ∧
      first.field? "amount" = some (.num (.double 250.0)) ∧
      second.field? "amount" = some (.num (.double 0.0)) ∧
      Nonempty (Join .sample "987654321" none familyLog (.arr [first, second])) := by
  refine ⟨
    ChildRow.toJson
      { hash := sampleUuid 2, name := some "CHILD CORP", duns := some "111111111"
        uei := some "CHILDUEI", amount := Float.ofInt 25000 / 100.0, state := some (some "VA") },
    ChildRow.toJson
      { hash := sampleUuid 3, name := some "QUIET CHILD", duns := some "222222222"
        uei := some "QUIETUEI", amount := 0.0, state := none }, rfl, ?_, ?_,
    nonempty_join _ _ _ _ _ _ rfl⟩
  · have hamount : Float.ofInt 25000 / 100.0 = 250.0 := by decide +kernel
    have hfinite : Double.isFinite 250.0 = true := by decide +kernel
    rw [(ChildRow.shownAs_toJson _).amount, hamount, hfinite, if_pos rfl]
  · have hfinite : Double.isFinite 0.0 = true := by decide +kernel
    rw [(ChildRow.shownAs_toJson _).amount, hfinite, if_pos rfl]

end Children

end Outlays
