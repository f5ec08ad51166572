import Mathlib.Data.List.Nodup
import Outlays.Proofs.Recipient.Join
import Outlays.Proofs.Results

/-!
# Children without transactions

A child that had no transactions in the window is known from the affiliations of its parent
only. It gets a row without an amount, made from its profile. Which affiliations are missing is
told by DUNS, while a group of transactions names its child by hash. So every affiliated DUNS that
some profile has is listed; but a child whose group has no DUNS in its key, or another one, counts
as missing and is listed a second time.

What the stores answer when they are asked for profiles is an assumption here. Stores in memory
answer in that way.

## Main definitions

* `Children.Quiet` — the child of a profile is affiliated, and no row has its DUNS
* `Children.AnswersProfiles` — the stores answer the profiles that they are asked for
* `Children.Cover` — the rows of a call, with the children that had no transactions
* `Children.Recognised` — the affiliated children that groups name are known by their DUNS

## Main results

* `Children.nonempty_cover` — every affiliated DUNS with a profile is listed, and what is added
  are the quiet profiles
* `Children.nodup_ids_iff` — when no child is listed twice
-/

namespace Outlays

namespace Children

/-! ## Profiles and their rows -/

/-- The row shows a profile, without any amount. -/
def ShowsProfile (p : Profile) (r : ChildRow) : Prop :=
  r.hash = p.hash ∧ r.name = p.name ∧ r.duns = p.duns ∧ r.uei = p.uei ∧ r.amount = 0.0

theorem forall₂_showsProfile (found : List Profile) (states : Keyed Uuid (Option String)) :
    List.Forall₂ ShowsProfile found ((found.map rowOfProfile).map (withState states)) := by
  induction found with
  | nil => exact .nil
  | cons p found ih => exact .cons ⟨rfl, rfl, rfl, rfl, rfl⟩ ih

/-- The child of a profile is affiliated, and no row has its DUNS. -/
def Quiet (affiliated : List String) (rows : List ChildRow) (p : Profile) : Prop :=
  ∃ d ∈ affiliated, p.duns = some d ∧ ∀ r ∈ rows, r.duns ≠ some d

instance (affiliated : List String) (rows : List ChildRow) :
    DecidablePred (Quiet affiliated rows) :=
  fun p => inferInstanceAs (Decidable (∃ d ∈ affiliated, p.duns = some d ∧ ∀ r ∈ rows, _))

theorem quiet_iff_any_missingFrom {affiliated : List String} {rows : List ChildRow}
    {p : Profile} :
    Quiet affiliated rows p ↔ p.duns.any (missingFrom rows affiliated).contains = true := by
  cases hduns : p.duns with
  | none => simp [Quiet, hduns]
  | some d => simp [Quiet, hduns, missingFrom]

theorem quiet_map_withState_iff {affiliated : List String} {rows : List ChildRow} {p : Profile}
    {states : Keyed Uuid (Option String)} :
    Quiet affiliated (rows.map (withState states)) p ↔ Quiet affiliated rows p := by
  simp [Quiet, withState]

/-- Asked for the children with one of some DUNS, the stores answer those of `profiles` that have
one, in any order. -/
def AnswersProfiles (profiles : List Profile) (log : List Answered) : Prop :=
  ∀ missing found, (⟨.childProfiles missing, found⟩ : Answered) ∈ log →
    found.Perm (profiles.filter fun p => p.duns.any missing.contains)

end Children

/-! ## Stores in memory -/

/-- The profiles of children. -/
def Stores.children (w : Stores) : List Profile :=
  (w.profiles.filter fun p => p.id.level = .child).map fun p =>
    { hash := p.id.hash, name := p.name, duns := p.duns, uei := p.uei }

theorem Stores.childrenWith_eq (w : Stores) (missing : List String) :
    w.childrenWith missing = w.children.filter fun p => p.duns.any missing.contains := by
  simp [childrenWith, children, List.filter_map, Function.comp_def, Bool.and_comm]

namespace Memory

theorem answersProfiles {use : MemoryUse} {outage : Question → Option Failure} {α : Type}
    (x : Inquiry α) (m : Memory) :
    Children.AnswersProfiles m.stores.children (x.transcript (backend use outage) m) := by
  intro missing found hmem
  obtain ⟨m', hw, hanswer⟩ := exists_respond_of_mem hmem
  obtain rfl := Except.ok.inj hanswer
  rw [hw, Stores.childrenWith_eq]

/-- Without a search index the totals are those that the stores hold. -/
theorem totals_eq_of_mem {outage : Question → Option Failure} {α : Type} {x : Inquiry α}
    {m : Memory} {filters : TransactionFilters} {grouping : Grouping} {totals : List Totals}
    (h : ⟨.recipientTotals filters grouping, totals⟩ ∈ x.transcript (backend {} outage) m) :
    totals = m.stores.totals := by
  obtain ⟨m', hw, hanswer⟩ := exists_respond_of_mem h
  obtain rfl := Except.ok.inj hanswer
  rw [hw]

end Memory

namespace Children

/-- What the stores answer about the DUNS that no row has are the quiet profiles. Where there is no
such DUNS, they are not asked. -/
theorem AnswersProfiles.perm_quiet {profiles found : List Profile} {log : List Answered}
    {affiliated : List String} {rows : List ChildRow} (h : AnswersProfiles profiles log)
    (hnone : missingFrom rows affiliated = [] → found = [])
    (hsome : missingFrom rows affiliated ≠ [] →
      ⟨.childProfiles (missingFrom rows affiliated), found⟩ ∈ log) :
    found.Perm (profiles.filter (Quiet affiliated rows)) := by
  have hquiet : profiles.filter (Quiet affiliated rows) =
      profiles.filter fun p => p.duns.any (missingFrom rows affiliated).contains := by
    refine List.filter_congr fun p _ => ?_
    rw [Bool.eq_iff_iff, decide_eq_true_eq, quiet_iff_any_missingFrom]
  rw [hquiet]
  by_cases hmissing : missingFrom rows affiliated = []
  -- The stores are not asked about an empty list, so their answer has to be made up here.
  · have hnobody : ∀ p ∈ profiles, ¬ p.duns.any (missingFrom rows affiliated).contains := by
      intro p _
      cases p.duns <;> simp [hmissing]
    rw [hnone hmissing, List.filter_eq_nil_iff.mpr hnobody]
  · exact h _ _ (hsome hmissing)

/-! ## Completeness -/

/-- The rows that answer a call for children, where the register holds `profiles` of children. -/
structure Cover (duns : String) (year : Option String) (profiles : List Profile)
    (log : List Answered) (answer : Json) where
  entry : DirectoryEntry
  window : TimePeriod
  totals : List Totals
  affiliated : List String
  /-- The profiles of the affiliated children that no row of a group has the DUNS of. -/
  quiet : List Profile
  kept : List ChildRow
  added : List ChildRow
  answer_eq : answer = .arr ((kept ++ added).map ChildRow.toJson)
  entry_mem : ⟨.findEntryByDuns duns, some entry⟩ ∈ log
  totals_mem :
    ⟨.recipientTotals { timePeriods := [window], recipientId := some ⟨entry.hash, .parent⟩ }
      .child, totals⟩ ∈ log
  kept_shows : List.Forall₂ Shows (totals.filter (·.Usable)) kept
  added_shows : List.Forall₂ ShowsProfile quiet added
  /-- Where all years are asked for, affiliations are not read and nothing is added. -/
  unread : year = some "all" → added = [] ∧ ∀ a ∈ log, ∀ id, a.1 ≠ .affiliations id
  affiliated_mem : year ≠ some "all" →
    ⟨.affiliations ⟨entry.hash, .parent⟩, some affiliated⟩ ∈ log
  quiet_perm : year ≠ some "all" → quiet.Perm (profiles.filter (Quiet affiliated kept))
  covered : year ≠ some "all" → ∀ d ∈ affiliated, (∃ p ∈ profiles, p.duns = some d) →
    ∃ r ∈ kept ++ added, r.duns = some d

/-- An affiliated DUNS that a profile has is the DUNS of a row. -/
theorem exists_row_of_affiliated {affiliated : List String} {profiles quiet : List Profile}
    {kept added : List ChildRow} (hadded : List.Forall₂ ShowsProfile quiet added)
    (hquiet : quiet.Perm (profiles.filter (Quiet affiliated kept))) {d : String}
    (hd : d ∈ affiliated) {p : Profile} (hp : p ∈ profiles) (hduns : p.duns = some d) :
    ∃ r ∈ kept ++ added, r.duns = some d := by
  by_cases h : ∃ r ∈ kept, r.duns = some d
  · obtain ⟨r, hr, hrd⟩ := h
    exact ⟨r, List.mem_append_left _ hr, hrd⟩
  · have hmem : p ∈ quiet := by
      rw [hquiet.mem_iff, List.mem_filter, decide_eq_true_eq]
      exact ⟨hp, d, hd, hduns, fun r hr hrd => h ⟨r, hr, hrd⟩⟩
    obtain ⟨r, hr, -, -, hrd, -⟩ := exists_right_of_forall₂ hadded hmem
    exact ⟨r, List.mem_append_right _ hr, hrd.trans hduns⟩

/-- Where the stores answer the profiles that they are asked for, the children without
transactions are covered. -/
theorem cover_of_leads {c : Circumstances} {duns : String} {year : Option String}
    {log : List Answered} {answer : Json} {profiles : List Profile}
    (h : ((Call.children duns year).inquiry c).Leads log (.ok answer))
    (hprofiles : AnswersProfiles profiles log) :
    Nonempty (Cover duns year profiles log answer) := by
  obtain ⟨rows, hrows, rfl⟩ := leads_call_iff.mp h
  obtain ⟨⟨chosen, window, entry, totals, ueis, later, added, states, hchosen, hwindow, hadds,
    rfl, rfl⟩⟩ := leads_ask_iff.mp hrows
  cases hadds with
  | nothing =>
    -- All years: nothing is said about affiliations, so any list of them will do.
    have hyear : year = some "all" := YearFilter.parse_eq_all_iff.mp hchosen
    refine ⟨{
      entry, window, totals
      affiliated := []
      quiet := []
      kept := (keptRows totals ueis).map (withState states)
      added := []
      answer_eq := by simp
      entry_mem := by simp
      totals_mem := by simp
      kept_shows := forall₂_shows totals ueis states
      added_shows := .nil
      unread := fun _ => ⟨rfl, ?_⟩
      affiliated_mem := fun hne => absurd hyear hne
      quiet_perm := fun hne => absurd hyear hne
      covered := fun hne => absurd hyear hne }⟩
    intro a ha id hq
    simp only [List.mem_cons, List.mem_append, List.not_mem_nil, false_or] at ha
    rcases ha with rfl | rfl | ha | ha
    · cases hq
    · cases hq
    · cases hq.symm.trans (fst_of_mem_askedAbout ha)
    · cases hq.symm.trans (fst_of_mem_askedAbout ha)
  | @missing _ affiliated found hchosen' hfound =>
    have hyear : year ≠ some "all" := by
      rintro rfl
      exact hchosen' (Except.ok.inj hchosen).symm
    have hperm : found.Perm
        (profiles.filter (Quiet affiliated ((keptRows totals ueis).map (withState states)))) := by
      simp only [quiet_map_withState_iff]
      refine hprofiles.perm_quiet hfound fun hmissing => ?_
      simp [mem_askedAbout hmissing]
    have hadded := forall₂_showsProfile found states
    exact ⟨{
      entry, window, totals, affiliated
      quiet := found
      kept := (keptRows totals ueis).map (withState states)
      added := (found.map rowOfProfile).map (withState states)
      answer_eq := by rw [List.map_append]
      entry_mem := by simp
      totals_mem := by simp
      kept_shows := forall₂_shows totals ueis states
      added_shows := hadded
      unread := fun h => absurd h hyear
      affiliated_mem := fun _ => by simp
      quiet_perm := fun _ => hperm
      covered := fun _ d hd ⟨p, hp, hduns⟩ =>
        exists_row_of_affiliated hadded hperm hd hp hduns }⟩

/-- Every affiliated child that a group names is known by its DUNS: some group that names a child
has that DUNS in its key. -/
def Recognised (profiles : List Profile) (affiliated : List String) (totals : List Totals) :
    Prop :=
  ∀ p ∈ profiles, ∀ d ∈ affiliated, p.duns = some d → (∃ t ∈ totals, t.Names p.hash) →
    ∃ t ∈ totals, t.Usable ∧ t.key.uniqueId = some d

/-- No two groups name one child. -/
def Distinct (totals : List Totals) : Prop :=
  totals.Pairwise fun t t' => ∀ u, t.Names u → ¬ t'.Names u

theorem distinct_pair {t t' : Totals} (h : t'.key.hashWithLevel = none) : Distinct [t, t'] := by
  refine List.pairwise_pair.mpr ?_
  rintro u - ⟨text, -, -, hkey, -⟩
  cases h.symm.trans hkey

/-- Rows of different children have different hashes. -/
theorem nodup_hash_of_shows {totals : List Totals} {kept : List ChildRow}
    (h : List.Forall₂ Shows totals kept) (hdistinct : Distinct totals) :
    (kept.map (·.hash)).Nodup := by
  induction h with
  | nil => exact List.nodup_nil
  | @cons t r totals kept ht hrest ih =>
    obtain ⟨hfirst, hlater⟩ := List.pairwise_cons.mp hdistinct
    rw [List.map_cons, List.nodup_cons]
    refine ⟨fun hmem => ?_, ih hlater⟩
    obtain ⟨r', hr', hhash⟩ := List.mem_map.mp hmem
    obtain ⟨t', ht', hshows⟩ := exists_left_of_forall₂ hrest hr'
    exact hfirst t' ht' r.hash ht.1 (hhash ▸ hshows.1)

theorem map_hash_of_showsProfile {quiet : List Profile} {added : List ChildRow}
    (h : List.Forall₂ ShowsProfile quiet added) : added.map (·.hash) = quiet.map (·.hash) := by
  induction h with
  | nil => rfl
  | cons hr _ ih => rw [List.map_cons, List.map_cons, hr.1, ih]

/-- The ids of rows are distinct if and only if the hashes are. -/
theorem nodup_id_iff {rows : List ChildRow} :
    (rows.map ChildRow.id).Nodup ↔ (rows.map (·.hash)).Nodup := by
  have hid : rows.map ChildRow.id =
      (rows.map (·.hash)).map fun u => RecipientId.render ⟨u, .child⟩ := by
    rw [List.map_map]
    rfl
  rw [hid]
  exact List.nodup_map_iff fun u v huv =>
    congrArg RecipientId.hash (RecipientId.render_injective huv)

/-- No quiet profile has the hash of a row if and only if the groups are recognised. -/
theorem disjoint_iff_recognised {profiles quiet : List Profile} {affiliated : List String}
    {totals : List Totals} {kept added : List ChildRow}
    (hkept : List.Forall₂ Shows (totals.filter (·.Usable)) kept)
    (hadded : List.Forall₂ ShowsProfile quiet added)
    (hquiet : quiet.Perm (profiles.filter (Quiet affiliated kept))) :
    (∀ r ∈ kept, ∀ r' ∈ added, r.hash ≠ r'.hash) ↔ Recognised profiles affiliated totals := by
  have hgroup : ∀ t, t ∈ totals.filter (·.Usable) ↔ t ∈ totals ∧ t.Usable := by
    intro t
    rw [List.mem_filter, decide_eq_true_eq]
  have hprofile : ∀ p, p ∈ quiet ↔ p ∈ profiles ∧ Quiet affiliated kept p := by
    intro p
    rw [hquiet.mem_iff, List.mem_filter, decide_eq_true_eq]
  constructor
  · intro hdisjoint p hp d hd hduns ⟨t, ht, hnames⟩
    by_contra hunknown
    -- With a DUNS that no key holds the profile is quiet, so two rows have its hash.
    have hp' : p ∈ quiet := by
      refine (hprofile p).mpr ⟨hp, d, hd, hduns, fun r hr hrd => hunknown ?_⟩
      obtain ⟨t', ht', -, -, hkey, -⟩ := exists_left_of_forall₂ hkept hr
      obtain ⟨hmem, husable⟩ := (hgroup t').mp ht'
      exact ⟨t', hmem, husable, hkey.symm.trans hrd⟩
    obtain ⟨r, hr, hnames', -⟩ := exists_right_of_forall₂ hkept ((hgroup t).mpr ⟨ht, _, hnames⟩)
    obtain ⟨r', hr', hhash, -⟩ := exists_right_of_forall₂ hadded hp'
    exact hdisjoint r hr r' hr' ((hnames'.eq hnames).trans hhash.symm)
  · intro hrecognised r hr r' hr' hhash
    -- The quiet profile behind the second row has the hash that the group behind the first one
    -- names, so its DUNS is in some key, and the row of that group has it.
    obtain ⟨p, hp, hphash, -⟩ := exists_left_of_forall₂ hadded hr'
    obtain ⟨hp, d, hd, hduns, hnobody⟩ := (hprofile p).mp hp
    obtain ⟨t, ht, hnames, -⟩ := exists_left_of_forall₂ hkept hr
    have hnames' : t.Names p.hash := by rwa [hhash, hphash] at hnames
    obtain ⟨t', ht', husable, hkey⟩ :=
      hrecognised p hp d hd hduns ⟨t, ((hgroup t).mp ht).1, hnames'⟩
    obtain ⟨s, hs, -, -, hsduns, -⟩ :=
      exists_right_of_forall₂ hkept ((hgroup t').mpr ⟨ht', husable⟩)
    exact hnobody s hs (hsduns.trans hkey)

/-- Where no two groups name one child and no two profiles have one hash, no child is listed twice
if and only if every child that is named is known by its DUNS. Where all years are asked for, none
is listed twice. -/
theorem nodup_ids_iff {σ : Type} (c : Circumstances) (b : Backend σ) (s : σ) (duns : String)
    (year : Option String) (answer : Json) (profiles : List Profile)
    (answered : (((Call.children duns year).inquiry c).run b s).result = .ok answer)
    (known : AnswersProfiles profiles (((Call.children duns year).inquiry c).transcript b s))
    (single : (profiles.map (·.hash)).Nodup)
    (distinct : ∀ filters totals, ⟨.recipientTotals filters .child, totals⟩ ∈
      ((Call.children duns year).inquiry c).transcript b s → Distinct totals) :
    ∃ (rows : List ChildRow) (totals : List Totals) (affiliated : List String),
      answer = .arr (rows.map ChildRow.toJson) ∧
      (∃ filters, ⟨.recipientTotals filters .child, totals⟩ ∈
        ((Call.children duns year).inquiry c).transcript b s) ∧
      (year ≠ some "all" → ∃ parent, ⟨.affiliations parent, some affiliated⟩ ∈
        ((Call.children duns year).inquiry c).transcript b s) ∧
      ((rows.map ChildRow.id).Nodup ↔
        year = some "all" ∨ Recognised profiles affiliated totals) := by
  obtain ⟨cover⟩ := cover_of_leads (Inquiry.leads_transcript b answered) known
  refine ⟨cover.kept ++ cover.added, cover.totals, cover.affiliated, cover.answer_eq,
    ⟨_, cover.totals_mem⟩, fun hyear => ⟨_, cover.affiliated_mem hyear⟩, ?_⟩
  have hkept : (cover.kept.map (·.hash)).Nodup :=
    nodup_hash_of_shows cover.kept_shows
      ((distinct _ _ cover.totals_mem).sublist List.filter_sublist)
  rw [nodup_id_iff, List.map_append]
  by_cases hyear : year = some "all"
  · simp [hyear, (cover.unread hyear).1, hkept]
  · have hperm := cover.quiet_perm hyear
    have hadded : (cover.added.map (·.hash)).Nodup := by
      rw [map_hash_of_showsProfile cover.added_shows, (hperm.map _).nodup_iff]
      exact single.sublist (List.filter_sublist.map _)
    have hdisjoint := disjoint_iff_recognised cover.kept_shows cover.added_shows hperm
    rw [or_iff_right hyear, ← hdisjoint, List.nodup_append]
    simp [hkept, hadded]

theorem single_family : (sampleFamily.stores.children.map (·.hash)).Nodup := by decide

theorem distinct_of_mem_familyLog (filters : TransactionFilters) (totals : List Totals)
    (h : ⟨.recipientTotals filters .child, totals⟩ ∈ familyLog) : Distinct totals :=
  Memory.totals_eq_of_mem h ▸ distinct_pair rfl

/-- Both children are known by their DUNS. -/
theorem nodup_ids_family :
    ∃ answer, (((Call.children "987654321" none).inquiry .sample).run
        (Memory.backend {} fun _ => none) sampleFamily).result = .ok answer ∧
      AnswersProfiles sampleFamily.stores.children familyLog ∧
      (sampleFamily.stores.children.map (·.hash)).Nodup ∧
      (∀ filters totals, ⟨.recipientTotals filters .child, totals⟩ ∈ familyLog →
        Distinct totals) ∧
      ∃ (rows : List ChildRow) (totals : List Totals) (affiliated : List String),
        answer = .arr (rows.map ChildRow.toJson) ∧
        (∃ filters, ⟨.recipientTotals filters .child, totals⟩ ∈ familyLog) ∧
        (none ≠ some "all" →
          ∃ parent, ⟨.affiliations parent, some affiliated⟩ ∈ familyLog) ∧
        ((rows.map ChildRow.id).Nodup ↔
          none = some "all" ∨ Recognised sampleFamily.stores.children affiliated totals) :=
  ⟨_, rfl, Memory.answersProfiles _ _, single_family, distinct_of_mem_familyLog,
    nodup_ids_iff _ _ _ _ _ _ _ rfl (Memory.answersProfiles _ _) single_family
      distinct_of_mem_familyLog⟩

/-- The family, with groups whose keys hold no DUNS. -/
def unkeyedFamily : Memory where
  stores := { sampleFamily.stores with
    totals := sampleFamily.stores.totals.map fun t =>
      { t with child := t.child.map fun key => { key with uniqueId := none } } }

/-- The first child is listed twice, with its amount and without one. -/
theorem not_nodup_ids_unkeyedFamily :
    ∃ rows : List ChildRow, (((Call.children "987654321" none).inquiry .sample).run
        (Memory.backend {} fun _ => none) unkeyedFamily).result =
          .ok (.arr (rows.map ChildRow.toJson)) ∧
      (unkeyedFamily.stores.children.map (·.hash)).Nodup ∧
      Distinct unkeyedFamily.stores.totals ∧ ¬ (rows.map ChildRow.id).Nodup := by
  refine ⟨[
    { hash := sampleUuid 2, name := some "CHILD CORP", duns := none, uei := some "CHILDUEI"
      amount := Cents.toDollars ⟨25000⟩, state := some (some "VA") },
    { hash := sampleUuid 2, name := some "CHILD CORP", duns := some "111111111"
      uei := some "CHILDUEI", amount := 0.0, state := some (some "VA") },
    { hash := sampleUuid 3, name := some "QUIET CHILD", duns := some "222222222"
      uei := some "QUIETUEI", amount := 0.0, state := none }], rfl,
    single_family, distinct_pair rfl, ?_⟩
  simp [ChildRow.id]

end Children

end Outlays
