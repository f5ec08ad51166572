import Outlays.Proofs.Inquiry.Transcript
import Outlays.Proofs.Recipient.Id
import Outlays.Recipient.Children

/-!
# How children are listed

A call for the children of a parent asks up to six questions. This file says, once, what they are
and which rows come of their answers; what the answers have to do with each other is left to the
files that follow.

Groups of transactions are keyed by a text in which a hash comes before the last hyphen. Only
such a group makes a row. A question about a list of hashes or DUNS is not put when the list is
empty.

## Main definitions

* `Totals.Names` — the key of a group names a child
* `Children.Course` — the course of a call for children that succeeds

## Main results

* `Children.rowOf_eq_some_iff` — the row of a group
* `Children.leads_ask_iff` — the answers in a log lead a call for children to these rows if and
  only if they are the course of such a call
-/

namespace Outlays

/-! ## The groups of transactions -/

namespace Totals

/-- What the index says about the child; nothing, where it says nothing at all. -/
def key (t : Totals) : ChildKey := t.child.getD {}

/-- The key of the group names the child `u`: its text holds a hyphen, and what comes before the
last one spells `u`. -/
def Names (t : Totals) (u : Uuid) : Prop :=
  ∃ text front back, t.key.hashWithLevel = some text ∧ text.toList = front ++ '-' :: back ∧
    '-' ∉ back ∧ Uuid.read? (String.ofList front) = some u

theorem hashOf_key_eq_some_iff {t : Totals} {u : Uuid} :
    Children.hashOf t.key = some u ↔ t.Names u := by
  simp only [Children.hashOf, Names, Option.bind_eq_bind, Option.bind_eq_some_iff, Prod.exists,
    splitAtLast?_eq_some_iff]
  constructor
  · rintro ⟨text, htext, front, back, ⟨hcut, hback⟩, hread⟩
    exact ⟨text, front, back, htext, hcut, hback, hread⟩
  · rintro ⟨text, front, back, htext, hcut, hback, hread⟩
    exact ⟨text, htext, front, back, ⟨hcut, hback⟩, hread⟩

theorem Names.eq {t : Totals} {u v : Uuid} (hu : t.Names u) (hv : t.Names v) : u = v := by
  rw [← hashOf_key_eq_some_iff] at hu hv
  exact Option.some.inj (hu.symm.trans hv)

/-- The key of the group names some child. -/
def Usable (t : Totals) : Prop := ∃ u, t.Names u

instance : DecidablePred Usable := fun t =>
  decidable_of_iff (Children.hashOf t.key).isSome
    (by simp only [Usable, ← hashOf_key_eq_some_iff, Option.isSome_iff_exists])

end Totals

/-! ## The calendar -/

/-- All years are asked for with one word. -/
theorem YearFilter.parse_eq_all_iff {raw : Option String} :
    YearFilter.parse raw = .ok .all ↔ raw = some "all" := by
  constructor
  · intro h
    unfold YearFilter.parse at h
    dsimp only at h
    split at h
    · cases h
    · split at h
      · next htext =>
        cases raw with
        | none => simp at htext
        | some text => exact congrArg some htext
      · split at h <;> cases h
  · rintro rfl
    rfl

namespace Children

/-! ## Rows -/

/-- A group makes a row if and only if its key names a child. -/
theorem rowOf_eq_some_iff {t : Totals} {r : ChildRow} :
    rowOf t = some r ↔ ∃ u, t.Names u ∧
      r = { hash := u, name := t.key.name, duns := t.key.uniqueId, uei := none
            amount := t.obligations.toDollars } := by
  simp only [rowOf, Option.bind_eq_bind, Option.pure_def, Option.bind_eq_some_iff,
    Option.some.injEq, ← Totals.hashOf_key_eq_some_iff]
  constructor
  · rintro ⟨u, hu, rfl⟩
    exact ⟨u, hu, rfl⟩
  · rintro ⟨u, hu, rfl⟩
    exact ⟨u, hu, rfl⟩

/-- The row with the UEI of its hash. -/
def withUei (ueis : Keyed Uuid String) (r : ChildRow) : ChildRow :=
  { r with uei := Keyed.get? ueis r.hash }

/-- The row with the state of its hash. -/
def withState (states : Keyed Uuid (Option String)) (r : ChildRow) : ChildRow :=
  { r with state := Keyed.get? states r.hash }

/-- The rows of the groups that name a child, in the order of the groups. -/
def keptRows (totals : List Totals) (ueis : Keyed Uuid String) : List ChildRow :=
  (totals.filterMap rowOf).map (withUei ueis)

/-! ## Questions -/

/-- A question about a list, with its answer. It is not put when the list is empty. -/
def askedAbout {α : Type} (items : List α) (q : Question) (answer : q.Answer) : List Answered :=
  if items.isEmpty then [] else [⟨q, answer⟩]

theorem filterMap_askedAbout {α γ : Type} (items : List α) (q : Question) (answer : q.Answer)
    (pick : Answered → Option γ) :
    (askedAbout items q answer).filterMap pick =
      if items = [] then [] else (pick ⟨q, answer⟩).toList := by
  cases items with
  | nil => rfl
  | cons item items => cases h : pick ⟨q, answer⟩ <;> simp [askedAbout, h]

theorem leads_withUeis_iff {rows done : List ChildRow} {log : List Answered} :
    (withUeis rows).Leads log (.ok done) ↔
      ∃ ueis, log = askedAbout rows (.profileUeis (rows.map (·.hash))) ueis ∧
        done = rows.map (withUei ueis) := by
  cases rows with
  | nil => simp [withUeis, askedAbout]
  | cons r rows =>
    constructor
    · intro h
      obtain ⟨ueis, rest, rfl, hdone⟩ := Inquiry.leads_put_bind_iff.mp h
      obtain ⟨rfl, hrows⟩ := Inquiry.leads_done_iff.mp hdone
      exact ⟨ueis, rfl, Except.ok.inj hrows⟩
    · rintro ⟨ueis, rfl, rfl⟩
      exact .ask (.done _)

theorem leads_withStates_iff {rows done : List ChildRow} {log : List Answered} :
    (withStates rows).Leads log (.ok done) ↔
      ∃ states, log = askedAbout rows (.entryStates (rows.map (·.hash))) states ∧
        done = rows.map (withState states) := by
  cases rows with
  | nil => simp [withStates, askedAbout]
  | cons r rows =>
    constructor
    · intro h
      obtain ⟨states, rest, rfl, hdone⟩ := Inquiry.leads_put_bind_iff.mp h
      obtain ⟨rfl, hrows⟩ := Inquiry.leads_done_iff.mp hdone
      exact ⟨states, rfl, Except.ok.inj hrows⟩
    · rintro ⟨states, rfl, rfl⟩
      exact .ask (.done _)

/-- The rows of the profiles with one of the DUNS. -/
def profileRows (missing : List String) : Inquiry (List ChildRow) :=
  if missing.isEmpty then .done []
  else (Inquiry.put (.childProfiles missing)).bind fun found => .done (found.map rowOfProfile)

theorem leads_profileRows_iff {missing : List String} {added : List ChildRow}
    {log : List Answered} :
    (profileRows missing).Leads log (.ok added) ↔
      ∃ found, log = askedAbout missing (.childProfiles missing) found ∧
        (missing = [] → found = []) ∧ added = found.map rowOfProfile := by
  cases missing with
  | nil => simp [profileRows, askedAbout]
  | cons d missing =>
    constructor
    · intro h
      obtain ⟨found, rest, rfl, hdone⟩ := Inquiry.leads_put_bind_iff.mp h
      obtain ⟨rfl, hrows⟩ := Inquiry.leads_done_iff.mp hdone
      exact ⟨found, rfl, nofun, Except.ok.inj hrows⟩
    · rintro ⟨found, rfl, -, rfl⟩
      exact .ask (.done _)

theorem leads_withoutTotals_iff {duns : String} {parent : RecipientId}
    {rows added : List ChildRow} {log : List Answered} :
    (withoutTotals duns parent rows).Leads log (.ok added) ↔
      ∃ affiliated rest, log = ⟨.affiliations parent, some affiliated⟩ :: rest ∧
        (profileRows (missingFrom rows affiliated)).Leads rest (.ok added) := by
  constructor
  · intro h
    obtain ⟨affiliated, rest, rfl, hrest⟩ := Inquiry.leads_put_bind_iff.mp h
    cases affiliated with
    | none => exact absurd hrest Inquiry.not_leads_refuse_ok
    | some affiliated => exact ⟨affiliated, rest, rfl, hrest⟩
  · rintro ⟨affiliated, rest, rfl, hrest⟩
    exact .ask hrest

/-! ## The course of a call -/

/-- What a call asks about the children without transactions, and the rows that it adds for them:
nothing where all years are asked for, and otherwise the profiles of the affiliations that no row
has the DUNS of. -/
inductive Adds (parent : RecipientId) (rows : List ChildRow) :
    YearFilter → List Answered → List ChildRow → Prop where
  | nothing : Adds parent rows .all [] []
  | missing {chosen : YearFilter} {affiliated : List String} {found : List Profile}
      (hchosen : chosen ≠ .all) (hfound : missingFrom rows affiliated = [] → found = []) :
      Adds parent rows chosen
        (⟨.affiliations parent, some affiliated⟩ ::
          askedAbout (missingFrom rows affiliated)
            (.childProfiles (missingFrom rows affiliated)) found)
        (found.map rowOfProfile)

/-- The rows of the children without transactions, unless all years are asked for. -/
def extraRows (duns : String) (parent : RecipientId) (chosen : YearFilter)
    (rows : List ChildRow) : Inquiry (List ChildRow) :=
  if chosen = .all then .done [] else withoutTotals duns parent rows

theorem leads_extraRows_iff {duns : String} {parent : RecipientId} {rows added : List ChildRow}
    {chosen : YearFilter} {log : List Answered} :
    (extraRows duns parent chosen rows).Leads log (.ok added) ↔
      Adds parent rows chosen log added := by
  unfold extraRows
  split
  · next hchosen =>
    subst hchosen
    rw [Inquiry.leads_done_iff]
    constructor
    · rintro ⟨rfl, hadded⟩
      obtain rfl := Except.ok.inj hadded
      exact .nothing
    · rintro (_ | ⟨hchosen, -⟩)
      · exact ⟨rfl, rfl⟩
      · exact absurd rfl hchosen
  · next hchosen =>
    rw [leads_withoutTotals_iff]
    constructor
    · rintro ⟨affiliated, rest, rfl, hrest⟩
      obtain ⟨found, rfl, hfound, rfl⟩ := leads_profileRows_iff.mp hrest
      exact .missing hchosen hfound
    · rintro (_ | ⟨-, hfound⟩)
      · exact absurd rfl hchosen
      · exact ⟨_, _, rfl, leads_profileRows_iff.mpr ⟨_, rfl, hfound, rfl⟩⟩

/-- The year is checked, the parent is looked up, and the rows are made in four steps. -/
theorem ask_eq (now : Instant) (duns : String) (year : Option String) :
    ask now duns year =
      (Inquiry.ofExcept (YearFilter.parse year)).bind fun chosen =>
        (Inquiry.put (.findEntryByDuns duns)).bind fun
          | none => .refuse (.unknownDuns duns)
          | some entry =>
            (Overview.totalsOf now ⟨entry.hash, .parent⟩ chosen .child).bind fun totals =>
              (withUeis (totals.filterMap rowOf)).bind fun rows =>
                (extraRows duns ⟨entry.hash, .parent⟩ chosen rows).bind fun extra =>
                  withStates (rows ++ extra) := by
  unfold ask extraRows
  simp only [Inquiry.bind_eq_bind, Inquiry.pure_eq_done, Inquiry.done_bind]
  congr 1
  funext chosen
  congr 1
  funext entry
  cases entry with
  | none => rfl
  | some entry =>
    -- What is left differs in whether the states are asked for inside or behind the choice.
    dsimp only
    congr 1
    funext totals
    congr 1
    funext rows
    split <;> rfl

/-- The course of a call for the children of a DUNS that succeeds: what it chooses, what the
stores answer in `log`, and the rows that come of it. -/
structure Course (now : Instant) (duns : String) (year : Option String) (log : List Answered)
    (rows : List ChildRow) where
  chosen : YearFilter
  window : TimePeriod
  entry : DirectoryEntry
  totals : List Totals
  ueis : Keyed Uuid String
  /-- The questions about the children without transactions, answered. -/
  later : List Answered
  added : List ChildRow
  states : Keyed Uuid (Option String)
  parse_eq : YearFilter.parse year = .ok chosen
  window_eq : chosen.window now.date = .ok window
  adds : Adds ⟨entry.hash, .parent⟩ (keptRows totals ueis) chosen later added
  log_eq : log =
    ⟨.findEntryByDuns duns, some entry⟩ ::
      ⟨.recipientTotals { timePeriods := [window], recipientId := some ⟨entry.hash, .parent⟩ }
        .child, totals⟩ ::
      (askedAbout (totals.filterMap rowOf)
          (.profileUeis ((totals.filterMap rowOf).map (·.hash))) ueis ++
        (later ++
          askedAbout (keptRows totals ueis ++ added)
            (.entryStates ((keptRows totals ueis ++ added).map (·.hash))) states))
  rows_eq : rows = (keptRows totals ueis ++ added).map (withState states)

theorem leads_totalsOf_iff {now : Instant} {id : RecipientId} {chosen : YearFilter}
    {grouping : Grouping} {totals : List Totals} {log : List Answered} :
    (Overview.totalsOf now id chosen grouping).Leads log (.ok totals) ↔
      ∃ window, chosen.window now.date = .ok window ∧
        log = [⟨.recipientTotals { timePeriods := [window], recipientId := some id } grouping,
          totals⟩] := by
  unfold Overview.totalsOf TransactionFilters.forRecipient
  rw [Inquiry.bind_eq_bind, Inquiry.leads_ofExcept_bind_iff]
  cases chosen.window now.date with
  | error why => simp [Except.map]
  | ok window =>
    simp only [Except.map, Except.ok.injEq, exists_eq_left']
    exact Inquiry.leads_put_iff

/-- The answers in a log lead a call for children to these rows if and only if they are the course
of such a call. -/
theorem leads_ask_iff {now : Instant} {duns : String} {year : Option String} {log : List Answered}
    {rows : List ChildRow} :
    (ask now duns year).Leads log (.ok rows) ↔ Nonempty (Course now duns year log rows) := by
  rw [ask_eq, Inquiry.leads_ofExcept_bind_iff]
  constructor
  · rintro ⟨chosen, hchosen, h⟩
    obtain ⟨entry, rest, rfl, hentry⟩ := Inquiry.leads_put_bind_iff.mp h
    cases entry with
    | none => exact absurd hentry Inquiry.not_leads_refuse_ok
    | some entry =>
      -- Each of the four steps takes its own part off the log.
      obtain ⟨totals, first, rest, rfl, htotals, hrest⟩ := Inquiry.leads_bind_ok_iff.mp hentry
      obtain ⟨kept, second, rest, rfl, hkept, hrest⟩ := Inquiry.leads_bind_ok_iff.mp hrest
      obtain ⟨added, later, last, rfl, hadded, hlast⟩ := Inquiry.leads_bind_ok_iff.mp hrest
      obtain ⟨window, hwindow, rfl⟩ := leads_totalsOf_iff.mp htotals
      obtain ⟨ueis, rfl, rfl⟩ := leads_withUeis_iff.mp hkept
      obtain ⟨states, rfl, rfl⟩ := leads_withStates_iff.mp hlast
      exact ⟨⟨chosen, window, entry, totals, ueis, later, added, states, hchosen, hwindow,
        leads_extraRows_iff.mp hadded, rfl, rfl⟩⟩
  · rintro ⟨chosen, window, entry, totals, ueis, later, added, states, hchosen, hwindow, hadds,
      rfl, rfl⟩
    refine ⟨chosen, hchosen, Inquiry.leads_put_bind_iff.mpr ⟨some entry, _, rfl, ?_⟩⟩
    refine Inquiry.leads_bind_ok_iff.mpr ⟨totals, [_], _, rfl,
      leads_totalsOf_iff.mpr ⟨window, hwindow, rfl⟩, ?_⟩
    refine Inquiry.leads_bind_ok_iff.mpr ⟨keptRows totals ueis, _, _, rfl,
      leads_withUeis_iff.mpr ⟨ueis, rfl, rfl⟩, ?_⟩
    refine Inquiry.leads_bind_ok_iff.mpr ⟨added, later, _, rfl,
      leads_extraRows_iff.mpr hadds, ?_⟩
    exact leads_withStates_iff.mpr ⟨states, rfl, rfl⟩

end Children

end Outlays
