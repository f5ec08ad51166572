import Mathlib.Logic.Basic
import Outlays.Proofs.Calendar.Written
import Outlays.Search.Query

/-!
# What a query says of a document

The index is handed a query as JSON and asks it of every document. This file gives the written
query its meaning, construct by construct, without a look at how it was made: a compound condition
asks all of its filters, none of what it bars and enough of its alternatives; a term, a list of
terms, a range of days and the existence of a value look at one field. A text of the query language
is left open: it is a predicate of the document.

On the other side stand the filters, as a client means them. Filters narrow a search part by part,
and within a part one match is enough. The two sides agree for all filters and all documents.

## Main definitions

* `Document`, `Document.Has` — a document by its fields, each with any number of values
* `Document.meets` — the document meets a condition, as the condition is written
* `Document.BelongsTo` — the document is one of a recipient's
* `TransactionFilters.Keeps` — the document passes every part that is not empty

## Main results

* `Document.meets_all_iff`, …, `Document.meets_words` — the meaning of each condition
* `Document.meets_ofFilters_iff` — the query of filters has the meaning of the filters
* `Document.meets_iff_keeps_and_partition` — the same, and the documents of a hash are divided
  between the child and the recipient that stands alone
-/

namespace Outlays

/-! ## Documents -/

/-- A value of a field. -/
inductive FieldValue where
  | text (s : String)
  | day (d : Date)
  | amount (q : Rat)
  deriving DecidableEq

/-- A document of the index. -/
structure Document where
  /-- The values of a field; a field that is not there has none. -/
  values : String → List FieldValue
  /-- The document matches a text of the query language, all of its words. -/
  answersWords : String → Bool

namespace Document

/-- The field has the value, perhaps among others. -/
def Has (d : Document) (field : String) (v : FieldValue) : Prop := v ∈ d.values field

instance (d : Document) (field : String) (v : FieldValue) : Decidable (d.Has field v) :=
  inferInstanceAs (Decidable (v ∈ d.values field))

/-- The field has no value. -/
def Lacks (d : Document) (field : String) : Prop := d.values field = []

instance (d : Document) (field : String) : Decidable (d.Lacks field) :=
  inferInstanceAs (Decidable (_ = _))

/-! ## Written conditions -/

/-- A value of the field is a day that the test accepts. -/
def hasDay (d : Document) (field : String) (test : Date → Bool) : Bool :=
  (d.values field).any fun
    | .day a => test a
    | _ => false

/-- The day is not before the one that the text names. -/
def notBefore (bound : String) (a : Date) : Bool := (Date.read? bound).any fun b => decide (b ≤ a)

/-- The day is not after the one that the text names. -/
def notAfter (bound : String) (a : Date) : Bool := (Date.read? bound).any fun b => decide (a ≤ b)

/-- How many of the alternatives of a compound condition must hold: as many as it says, and
otherwise one, or none where it has filters. -/
def leastAlternatives (parts : List (String × Json)) : Nat :=
  match parts.find? fun p => p.1 == "minimum_should_match" with
  | some (_, .num (.whole n)) => n.toNat
  | _ => if parts.any fun p => p.1 == "filter" then 0 else 1

mutual

/-- The document meets a condition, as it is written. No document meets what is no condition. -/
def meets (d : Document) : Json → Bool
  | .obj [("bool", .obj parts)] => meetsParts d (leastAlternatives parts) parts
  | .obj [("term", .obj [(field, .str value)])] => decide (d.Has field (.text value))
  -- A value that is no text stands in no field.
  | .obj [("terms", .obj [(field, .arr values)])] => values.any fun
    | .str value => decide (d.Has field (.text value))
    | _ => false
  | .obj [("range", .obj [(field, .obj [("gte", .str low), ("lte", .str high)])])] =>
    d.hasDay field fun a => notBefore low a && notAfter high a
  | .obj [("exists", .obj [("field", .str field)])] => !decide (d.Lacks field)
  | .obj [("query_string", .obj [("query", .str text), ("default_operator", .str "AND")])] =>
    d.answersWords text
  | _ => false

/-- The document meets the parts of a compound condition: every filter, nothing that is barred, and
at least so many alternatives. -/
def meetsParts (d : Document) (least : Nat) : List (String × Json) → Bool
  | [] => true
  | (name, .arr conditions) :: rest =>
    let met := countMet d conditions
    (match name with
      | "filter" => met == conditions.length
      | "must_not" => met == 0
      | "should" => decide (least ≤ met)
      | _ => false) && meetsParts d least rest
  | ("minimum_should_match", .num _) :: rest => meetsParts d least rest
  | _ :: _ => false

/-- How many of the conditions the document meets. -/
def countMet (d : Document) : List Json → Nat
  | [] => 0
  | j :: rest => (if meets d j then 1 else 0) + countMet d rest

end

/-! ## The conditions of a query -/

theorem toJsons_eq_map (qs : List Query) : Query.toJsons qs = qs.map Query.toJson := by
  induction qs with
  | nil => rfl
  | cons q qs ih => rw [Query.toJsons, ih, List.map_cons]

theorem countMet_eq_countP (d : Document) (js : List Json) : d.countMet js = js.countP d.meets := by
  induction js with
  | nil => rfl
  | cons j js ih => rw [countMet, ih, List.countP_cons, Nat.add_comm]

variable {d : Document}

/-- All conditions are met. -/
theorem countMet_beq_length_iff {js : List Json} :
    (d.countMet js == js.length) = true ↔ ∀ j ∈ js, d.meets j = true := by
  rw [beq_iff_eq, countMet_eq_countP, List.countP_eq_length]

/-- No condition is met. -/
theorem countMet_beq_zero_iff {js : List Json} :
    (d.countMet js == 0) = true ↔ ∀ j ∈ js, ¬ d.meets j = true := by
  rw [beq_iff_eq, countMet_eq_countP, List.countP_eq_zero]

/-- Some condition is met. -/
theorem one_le_countMet_iff {js : List Json} : 1 ≤ d.countMet js ↔ ∃ j ∈ js, d.meets j = true := by
  rw [countMet_eq_countP, Nat.one_le_iff_ne_zero, Nat.ne_zero_iff_zero_lt, List.countP_pos_iff]

theorem meets_bool (parts : List (String × Json)) :
    d.meets (.obj [("bool", .obj parts)]) = d.meetsParts (leastAlternatives parts) parts := rfl

theorem meets_all_iff {required barred : List Query} :
    d.meets (Query.all required barred).toJson = true ↔
      (∀ q ∈ required, d.meets q.toJson = true) ∧ ∀ q ∈ barred, ¬ d.meets q.toJson = true := by
  simp only [Query.toJson, toJsons_eq_map]
  cases barred with
  -- The part is left out where nothing is barred.
  | nil =>
    simp only [List.isEmpty_nil, if_true, meets_bool, meetsParts, Bool.and_true,
      countMet_beq_length_iff, List.forall_mem_map, List.not_mem_nil, false_imp_iff, implies_true,
      and_true]
  | cons q barred =>
    simp only [List.isEmpty_cons, Bool.false_eq_true, if_false, meets_bool, meetsParts,
      Bool.and_true, Bool.and_eq_true, countMet_beq_length_iff, countMet_beq_zero_iff,
      List.forall_mem_map]

theorem meets_any_iff {conditions : List Query} :
    d.meets (Query.any conditions).toJson = true ↔
      ∃ q ∈ conditions, d.meets q.toJson = true := by
  -- One alternative is asked for, so that no condition at all is met by no document.
  have hleast : leastAlternatives
      [("should", .arr (conditions.map Query.toJson)), ("minimum_should_match", .nat 1)] = 1 := rfl
  rw [Query.toJson, toJsons_eq_map, meets_bool, hleast]
  simp only [meetsParts, Json.nat, Bool.and_true, decide_eq_true_eq, one_le_countMet_iff,
    List.mem_map, exists_exists_and_eq_and]

theorem meets_term_iff {field value : String} :
    d.meets (Query.term field value).toJson = true ↔ d.Has field (.text value) := by
  have hmeets : d.meets (Query.term field value).toJson = decide (d.Has field (.text value)) := rfl
  rw [hmeets, decide_eq_true_eq]

theorem meets_oneOf_iff {field : String} {values : List String} :
    d.meets (Query.oneOf field values).toJson = true ↔ ∃ v ∈ values, d.Has field (.text v) := by
  have hmeets : d.meets (Query.oneOf field values).toJson = (values.map Json.str).any fun
      | .str value => decide (d.Has field (.text value))
      | _ => false := rfl
  simp only [hmeets, List.any_map, List.any_eq_true, Function.comp_apply, decide_eq_true_eq]

theorem hasDay_iff {field : String} {test : Date → Bool} :
    d.hasDay field test = true ↔ ∃ a, d.Has field (.day a) ∧ test a = true := by
  simp only [hasDay, Has, List.any_eq_true]
  constructor
  · rintro ⟨v, hv, htest⟩
    cases v with
    | day a => exact ⟨a, hv, htest⟩
    | text s => cases htest
    | amount q => cases htest
  · rintro ⟨a, ha, htest⟩
    exact ⟨.day a, ha, htest⟩

/-- The bounds of a period are written dates, so they stand for the first and the last day. -/
theorem meets_within_iff {field : String} {p : TimePeriod} :
    d.meets (Query.within field p).toJson = true ↔ ∃ a, d.Has field (.day a) ∧ p.Contains a := by
  have hmeets : d.meets (Query.within field p).toJson = d.hasDay field fun a =>
      notBefore p.start.render a && notAfter p.finish.render a := rfl
  simp only [hmeets, hasDay_iff, notBefore, notAfter, Date.read?_render, Option.any_some,
    Bool.and_eq_true, decide_eq_true_eq, TimePeriod.Contains]

theorem meets_present_iff {field : String} :
    d.meets (Query.present field).toJson = true ↔ ¬ d.Lacks field := by
  have hmeets : d.meets (Query.present field).toJson = !decide (d.Lacks field) := rfl
  rw [hmeets, Bool.not_eq_true', decide_eq_false_iff_not]

theorem meets_words {text : String} :
    d.meets (Query.words text).toJson = d.answersWords text := rfl

/-! ## The meaning of filters -/

/-- The field with the name of the agency in a role, of the department or of the bureau. -/
def agencyName : AgencyRole → AgencyTier → String
  | .awarding, .toptier => "awarding_toptier_agency_name.keyword"
  | .awarding, .subtier => "awarding_subtier_agency_name.keyword"
  | .funding, .toptier => "funding_toptier_agency_name.keyword"
  | .funding, .subtier => "funding_subtier_agency_name.keyword"

/-- The document is one of the recipient's: a parent's have its hash as that of the parent, and of
those with the hash itself the child's have a parent while the others have none. -/
def BelongsTo (d : Document) (id : RecipientId) : Prop :=
  match id.level with
  | .parent => d.Has "parent_recipient_hash" (.text id.hash.render)
  | .child => d.Has "recipient_hash" (.text id.hash.render) ∧ ¬ d.Lacks "parent_uei"
  | .recipient => d.Has "recipient_hash" (.text id.hash.render) ∧ d.Lacks "parent_uei"

/-- The action day of the document lies in the period. -/
def FallsIn (d : Document) (p : TimePeriod) : Prop :=
  ∃ a, d.Has "action_date" (.day a) ∧ p.Contains a

end Document

/-- The document passes every part of the filters that is not empty. -/
structure TransactionFilters.Keeps (f : TransactionFilters) (d : Document) : Prop where
  period : f.timePeriods ≠ [] → ∃ p ∈ f.timePeriods, d.FallsIn p
  agency : f.agencies ≠ [] →
    ∃ a ∈ f.agencies, d.Has (Document.agencyName a.role a.tier) (.text a.name)
  awardType : f.awardTypeCodes ≠ [] → ∃ code ∈ f.awardTypeCodes, d.Has "type" (.text code)
  keyword : f.keywords ≠ [] →
    ∃ k ∈ f.keywords, d.answersWords (String.ofList (Query.escapeWords k.toList)) = true
  defCode : f.defCodes ≠ [] →
    ∃ code ∈ f.defCodes, d.Has "disaster_emergency_fund_codes" (.text code)
  recipient : ∀ id ∈ f.recipientId, d.BelongsTo id

namespace Document

variable {d : Document}

/-- A part makes one condition, or none at all where it is empty. -/
theorem forall_mem_clause_iff {α : Type} {part : List α} {query : List α → Query} :
    (∀ q ∈ Query.clause part query, d.meets q.toJson = true) ↔
      (part ≠ [] → d.meets (query part).toJson = true) := by
  cases part with
  | nil => simp [Query.clause]
  | cons a part => simp [Query.clause]

theorem agencyField_eq (a : AgencyFilter) : Query.agencyField a = agencyName a.role a.tier := by
  obtain ⟨role, tier, name⟩ := a
  cases role <;> cases tier <;> rfl

theorem meets_ofRecipient_iff {id : RecipientId} :
    d.meets (Query.ofRecipient id).toJson = true ↔ d.BelongsTo id := by
  obtain ⟨hash, level⟩ := id
  cases level with
  | parent => exact meets_term_iff
  | child =>
    simp only [Query.ofRecipient, BelongsTo, meets_all_iff, List.forall_mem_cons, meets_term_iff,
      meets_present_iff, List.not_mem_nil, false_imp_iff, implies_true, and_true]
  | recipient =>
    simp only [Query.ofRecipient, BelongsTo, meets_all_iff, List.forall_mem_cons, meets_term_iff,
      meets_present_iff, List.not_mem_nil, false_imp_iff, implies_true, and_true, not_not]

/-- The query of filters has the meaning of the filters. -/
theorem meets_ofFilters_iff {f : TransactionFilters} :
    d.meets (Query.ofFilters f).toJson = true ↔ f.Keeps d := by
  -- Each of the parts by itself, with what one element of it says.
  have hperiods : d.meets (Query.any (f.timePeriods.map (.within "action_date"))).toJson = true ↔
      ∃ p ∈ f.timePeriods, d.FallsIn p := by
    simp only [meets_any_iff, List.mem_map, exists_exists_and_eq_and, meets_within_iff, FallsIn]
  have hagencies : d.meets (Query.any (f.agencies.map fun a =>
      .term (Query.agencyField a) a.name)).toJson = true ↔
      ∃ a ∈ f.agencies, d.Has (agencyName a.role a.tier) (.text a.name) := by
    simp only [meets_any_iff, List.mem_map, exists_exists_and_eq_and, meets_term_iff,
      agencyField_eq]
  have hkeywords : d.meets (Query.any (f.keywords.map fun t =>
      .words (String.ofList (Query.escapeWords t.toList)))).toJson = true ↔
      ∃ k ∈ f.keywords, d.answersWords (String.ofList (Query.escapeWords k.toList)) = true := by
    simp only [meets_any_iff, List.mem_map, exists_exists_and_eq_and, meets_words]
  have hrecipient : (∀ q ∈ (f.recipientId.map Query.ofRecipient).toList,
      d.meets q.toJson = true) ↔ ∀ id ∈ f.recipientId, d.BelongsTo id := by
    cases f.recipientId with
    | none => simp
    | some id => simp [meets_ofRecipient_iff]
  -- The conditions of the query are those of its six parts, one after the other.
  rw [Query.ofFilters, meets_all_iff, Query.clauses]
  simp only [List.forall_mem_append, forall_mem_clause_iff, hperiods, hagencies, hkeywords,
    meets_oneOf_iff, hrecipient, List.not_mem_nil, false_imp_iff, implies_true, and_true]
  constructor
  · rintro ⟨⟨⟨⟨⟨period, agency⟩, awardType⟩, keyword⟩, defCode⟩, recipient⟩
    exact ⟨period, agency, awardType, keyword, defCode, recipient⟩
  · rintro ⟨period, agency, awardType, keyword, defCode, recipient⟩
    exact ⟨⟨⟨⟨⟨period, agency⟩, awardType⟩, keyword⟩, defCode⟩, recipient⟩

/-! ## The documents of a hash -/

/-- A recipient in the filters narrows what the other parts keep. -/
theorem keeps_recipient_iff {f : TransactionFilters} {id : RecipientId} :
    { f with recipientId := some id }.Keeps d ↔
      { f with recipientId := none }.Keeps d ∧ d.BelongsTo id := by
  constructor
  · rintro ⟨period, agency, awardType, keyword, defCode, recipient⟩
    exact ⟨⟨period, agency, awardType, keyword, defCode, nofun⟩, recipient id rfl⟩
  · rintro ⟨⟨period, agency, awardType, keyword, defCode, -⟩, hid⟩
    refine ⟨period, agency, awardType, keyword, defCode, ?_⟩
    rintro _ ⟨⟩
    exact hid

theorem not_belongsTo_child_and_recipient {hash : Uuid} :
    ¬ (d.BelongsTo ⟨hash, .child⟩ ∧ d.BelongsTo ⟨hash, .recipient⟩) := by
  rintro ⟨⟨-, hparent⟩, ⟨-, hnone⟩⟩
  exact hparent hnone

theorem belongsTo_child_or_recipient_iff {hash : Uuid} :
    d.BelongsTo ⟨hash, .child⟩ ∨ d.BelongsTo ⟨hash, .recipient⟩ ↔
      d.Has "recipient_hash" (.text hash.render) := by
  constructor
  · rintro (⟨hhash, -⟩ | ⟨hhash, -⟩)
    · exact hhash
    · exact hhash
  · intro hhash
    by_cases hparent : d.Lacks "parent_uei"
    · exact .inr ⟨hhash, hparent⟩
    · exact .inl ⟨hhash, hparent⟩

/-- The query of filters has the meaning of the filters. Hence no document is met for a hash both as
a child and as a recipient that stands alone, and between them the two meet each document with the
hash that the other parts let through: all documents with the hash where there is no other part. -/
theorem meets_iff_keeps_and_partition :
    (∀ (f : TransactionFilters) (d : Document),
      d.meets (Query.ofFilters f).toJson = true ↔ f.Keeps d) ∧
    (∀ (f : TransactionFilters) (hash : Uuid) (d : Document),
      ¬ (d.meets (Query.ofFilters { f with recipientId := some ⟨hash, .child⟩ }).toJson = true ∧
        d.meets (Query.ofFilters { f with recipientId := some ⟨hash, .recipient⟩ }).toJson = true) ∧
      (d.meets (Query.ofFilters { f with recipientId := some ⟨hash, .child⟩ }).toJson = true ∨
        d.meets (Query.ofFilters { f with recipientId := some ⟨hash, .recipient⟩ }).toJson = true ↔
        d.meets (Query.ofFilters { f with recipientId := none }).toJson = true ∧
          d.Has "recipient_hash" (.text hash.render))) ∧
    ∀ (hash : Uuid) (d : Document),
      d.meets (Query.ofFilters { recipientId := some ⟨hash, .child⟩ }).toJson = true ∨
        d.meets (Query.ofFilters { recipientId := some ⟨hash, .recipient⟩ }).toJson = true ↔
        d.Has "recipient_hash" (.text hash.render) := by
  have hdivided (f : TransactionFilters) (hash : Uuid) (d : Document) :
      { f with recipientId := some ⟨hash, .child⟩ }.Keeps d ∨
        { f with recipientId := some ⟨hash, .recipient⟩ }.Keeps d ↔
        { f with recipientId := none }.Keeps d ∧ d.Has "recipient_hash" (.text hash.render) := by
    rw [keeps_recipient_iff, keeps_recipient_iff, ← and_or_left, belongsTo_child_or_recipient_iff]
  refine ⟨fun f d => meets_ofFilters_iff, fun f hash d => ⟨?_, ?_⟩, fun hash d => ?_⟩
  · rw [meets_ofFilters_iff, meets_ofFilters_iff, keeps_recipient_iff, keeps_recipient_iff]
    rintro ⟨⟨-, hchild⟩, ⟨-, hrecipient⟩⟩
    exact not_belongsTo_child_and_recipient ⟨hchild, hrecipient⟩
  · rw [meets_ofFilters_iff, meets_ofFilters_iff, meets_ofFilters_iff]
    exact hdivided f hash d
  · have hempty : TransactionFilters.Keeps { recipientId := none } d :=
      ⟨nofun, nofun, nofun, nofun, nofun, nofun⟩
    rw [meets_ofFilters_iff, meets_ofFilters_iff]
    exact (hdivided {} hash d).trans (and_iff_right hempty)

end Document

end Outlays
