import Outlays.Proofs.Json.Grammar
import Outlays.Proofs.Json.Shapes
import Outlays.Proofs.Recipient.Spelling
import Outlays.Proofs.Text.Encoding
import Outlays.Web.Body

/-!
# The schema of a download

What the body of a download has to be in order to stand for filters, down to its characters. Records
are objects, or arrays of their fields in the declared order; a list that is missing is empty; a
recipient id is a text first, and then has to be a spelling of one. The reader of bodies accepts
those that fit, with the filters that they stand for, and refuses the others.

## Main definitions

* `TimePeriod.Fits`, `AgencyFilter.Fits`, `TransactionFilters.Fits` — values of the schema
* `Body.Valid` — bodies of the schema

## Main results

* `TransactionFilters.readParts_eq_ok_iff`, `Body.downloadFilters_eq_ok_iff` — what is read fits the
  schema, and the other way round
* `Body.exists_refusal_of_not_valid`, `Body.exists_refusal_of_not_reads` — what is refused
-/

namespace Outlays

open Json (HasShape)
open Json.Record (bind_read_eq_ok_iff need_eq_ok_iff orElse_eq_ok_iff may_eq_ok_iff)

/-! ## The schema -/

/-- The value is the text of a date. -/
def Date.Fits (j : Json) (d : Date) : Prop := ∃ t, j = .str t ∧ Date.read? t = some d

/-- The value is a record of two dates. -/
def TimePeriod.Fits (j : Json) (p : TimePeriod) : Prop :=
  ∃ v w, HasShape [{ name := "start_date" }, { name := "end_date" }] j [some v, some w] ∧
    Date.Fits v p.start ∧ Date.Fits w p.finish

/-- The value is a record of a role, a tier and a name. -/
def AgencyFilter.Fits (j : Json) (a : AgencyFilter) : Prop :=
  ∃ v w, HasShape [{ name := "type" }, { name := "tier" }, { name := "name" }] j
      [some v, some w, some (.str a.name)] ∧
    v.IsName a.role.name ∧ w.IsName a.tier.name

/-- The part of filters is a list of items, in order; a part that is missing is the empty list. -/
inductive ListFits {α : Type} (item : Json → α → Prop) : Option Json → List α → Prop where
  | given {items : List Json} {as : List α} (fits : List.Forall₂ item items as) :
      ListFits item (some (.arr items)) as
  | missing : ListFits item none []

/-- The part of filters is a text; a part that is missing or null is none. -/
inductive TextFits : Option Json → Option String → Prop where
  | text (t : String) : TextFits (some (.str t)) (some t)
  | null : TextFits (some .null) none
  | missing : TextFits none none

namespace TransactionFilters

/-- The names of the parts, in order. -/
def partNames : List String :=
  ["time_period", "agencies", "award_type_codes", "keywords", "def_codes", "recipient_id"]

/-- The value is a record of the filters, with this text as the recipient id. -/
def Fits (j : Json) (f : TransactionFilters) (raw : Option String) : Prop :=
  f.recipientId = none ∧
    ∃ periods agencies types keywords codes id,
      HasShape (partNames.map fun name => { name, absence := .filled }) j
        [periods, agencies, types, keywords, codes, id] ∧
      ListFits TimePeriod.Fits periods f.timePeriods ∧
      ListFits AgencyFilter.Fits agencies f.agencies ∧
      ListFits (· = .str ·) types f.awardTypeCodes ∧
      ListFits (· = .str ·) keywords f.keywords ∧
      ListFits (· = .str ·) codes f.defCodes ∧
      TextFits id raw

end TransactionFilters

namespace Body

/-- The body fits the schema, with these filters and this text as the recipient id. A body of
blanks stands for no filters, and so does one that is a record without any. -/
inductive Valid (body : List UInt8) : TransactionFilters → Option String → Prop where
  | blank (blanks : ∀ b ∈ body, b ∈ [9, 10, 12, 13, 32]) : Valid body {} none
  | unfiltered {j : Json} {v : Option Json} (text : Json.IsText (Json.symbols body) j)
      (record : HasShape [{ name := "filters", absence := .filled }] j [v])
      (nothing : v = none ∨ v = some .null) : Valid body {} none
  | filtered {j v : Json} {f : TransactionFilters} {raw : Option String}
      (text : Json.IsText (Json.symbols body) j)
      (record : HasShape [{ name := "filters", absence := .filled }] j [some v])
      (fits : f.Fits v raw) : Valid body f raw

/-- The text, if there is one, is a spelling of the recipient id. -/
inductive IdOf : Option String → Option RecipientId → Prop where
  | none : IdOf none none
  | some {raw : String} {id : RecipientId} (reads : RecipientId.Reads raw (.ok id)) :
      IdOf (some raw) (some id)

end Body

/-! ## Reading by the schema -/

theorem Date.read_eq_ok_iff {j : Json} {d : Date} : Date.read j = .ok d ↔ Fits j d := by
  rw [Date.read, Fits, bind_eq_ok_iff]
  refine exists_congr fun t => ?_
  rw [Json.Reader.text_eq_ok_iff]
  refine and_congr_right fun _ => ?_
  cases Date.read? t <;> simp [pure, Except.pure]

theorem TimePeriod.read_eq_ok_iff {j : Json} {p : TimePeriod} :
    TimePeriod.read j = .ok p ↔ Fits j p := by
  have hread : TimePeriod.read j = .ok p ↔
      ∃ vs, HasShape [{ name := "start_date" }, { name := "end_date" }] j vs ∧
        ∃ v w, vs = [some v, some w] ∧ Date.Fits v p.start ∧ Date.Fits w p.finish := by
    refine bind_read_eq_ok_iff (by simp) fun r vs hvalues => ?_
    -- The values are what the record has under the two names.
    obtain _ | ⟨rfl, _ | ⟨rfl, ⟨⟩⟩⟩ := hvalues
    simp only [bind_eq_ok_iff, need_eq_ok_iff, Date.read_eq_ok_iff]
    constructor
    · rintro ⟨start, ⟨v, hv, hstart⟩, finish, ⟨w, hw, hfinish⟩, ⟨⟩⟩
      exact ⟨v, w, by rw [hv, hw], hstart, hfinish⟩
    · rintro ⟨v, w, heq, hstart, hfinish⟩
      obtain ⟨hv, hw⟩ : _ ∧ _ := by simpa using heq
      exact ⟨_, ⟨v, hv, hstart⟩, _, ⟨w, hw, hfinish⟩, rfl⟩
  rw [hread, Fits]
  grind

theorem AgencyRole.variant_names_eq_ok_iff {j : Json} {role : AgencyRole} :
    Json.Reader.variant AgencyRole.names j = .ok role ↔ j.IsName role.name :=
  Json.Reader.variant_eq_ok_iff (by decide) fun role => by cases role <;> rfl

theorem AgencyTier.variant_names_eq_ok_iff {j : Json} {tier : AgencyTier} :
    Json.Reader.variant AgencyTier.names j = .ok tier ↔ j.IsName tier.name :=
  Json.Reader.variant_eq_ok_iff (by decide) fun tier => by cases tier <;> rfl

theorem AgencyFilter.read_eq_ok_iff {j : Json} {a : AgencyFilter} :
    AgencyFilter.read j = .ok a ↔ Fits j a := by
  have hread : AgencyFilter.read j = .ok a ↔
      ∃ vs, HasShape [{ name := "type" }, { name := "tier" }, { name := "name" }] j vs ∧
        ∃ v w, vs = [some v, some w, some (.str a.name)] ∧
          v.IsName a.role.name ∧ w.IsName a.tier.name := by
    refine bind_read_eq_ok_iff (by simp) fun r vs hvalues => ?_
    obtain _ | ⟨rfl, _ | ⟨rfl, _ | ⟨rfl, ⟨⟩⟩⟩⟩ := hvalues
    simp only [bind_eq_ok_iff, need_eq_ok_iff, AgencyRole.variant_names_eq_ok_iff,
      AgencyTier.variant_names_eq_ok_iff, Json.Reader.text_eq_ok_iff]
    constructor
    · rintro ⟨role, ⟨v, hv, hrole⟩, tier, ⟨w, hw, htier⟩, name, ⟨u, hu, rfl⟩, ⟨⟩⟩
      exact ⟨v, w, by rw [hv, hw, hu], hrole, htier⟩
    · rintro ⟨v, w, heq, hrole, htier⟩
      obtain ⟨hv, hw, hu⟩ : _ ∧ _ ∧ _ := by simpa using heq
      exact ⟨_, ⟨v, hv, hrole⟩, _, ⟨w, hw, htier⟩, _, ⟨_, hu, rfl⟩, rfl⟩
  rw [hread, Fits]
  grind

/-! ## Parts of filters -/

variable {r : Json.Record} {name : String}

theorem orElse_list_eq_ok_iff {α : Type} {read : Json.Reader α} {fits : Json → α → Prop}
    (hread : ∀ {j a}, read j = .ok a ↔ fits j a) {as : List α} :
    r.orElse name [] (Json.Reader.list read) = .ok as ↔ ListFits fits (r.value? name) as := by
  simp only [orElse_eq_ok_iff, Json.Reader.list_eq_ok_iff, hread]
  constructor
  · rintro (⟨hnone, rfl⟩ | ⟨_, hsome, items, rfl, hitems⟩)
    · rw [hnone]
      exact .missing
    · rw [hsome]
      exact .given hitems
  · intro h
    cases hvalue : r.value? name with
    | none =>
      rw [hvalue] at h
      cases h
      exact .inl ⟨rfl, rfl⟩
    | some v =>
      rw [hvalue] at h
      obtain ⟨hitems⟩ := h
      exact .inr ⟨_, rfl, _, rfl, hitems⟩

theorem may_text_eq_ok_iff {raw : Option String} :
    r.may name Json.Reader.text = .ok raw ↔ TextFits (r.value? name) raw := by
  simp only [may_eq_ok_iff, Json.Reader.nullable_eq_ok_iff, Json.Reader.text_eq_ok_iff]
  constructor
  · rintro (⟨hnone, rfl⟩ | ⟨_, hsome, ⟨rfl, rfl⟩ | ⟨t, -, rfl, rfl⟩⟩)
    · rw [hnone]
      exact .missing
    · rw [hsome]
      exact .null
    · rw [hsome]
      exact .text t
  · intro h
    cases hvalue : r.value? name with
    | none =>
      rw [hvalue] at h
      cases h
      exact .inl ⟨rfl, rfl⟩
    | some v =>
      rw [hvalue] at h
      cases h with
      | text t => exact .inr ⟨_, rfl, .inr ⟨t, nofun, rfl, rfl⟩⟩
      | null => exact .inr ⟨_, rfl, .inl ⟨rfl, rfl⟩⟩

namespace TransactionFilters

/-- What is read as filters fits the schema, and whatever fits is read. -/
theorem readParts_eq_ok_iff {j : Json} {f : TransactionFilters} {raw : Option String} :
    readParts j = .ok (f, raw) ↔ f.Fits j raw := by
  have hread : readParts j = .ok (f, raw) ↔
      ∃ vs, HasShape (partNames.map fun name => { name, absence := .filled }) j vs ∧
        f.recipientId = none ∧ ∃ periods agencies types keywords codes id,
          vs = [periods, agencies, types, keywords, codes, id] ∧
          ListFits TimePeriod.Fits periods f.timePeriods ∧
          ListFits AgencyFilter.Fits agencies f.agencies ∧
          ListFits (· = .str ·) types f.awardTypeCodes ∧
          ListFits (· = .str ·) keywords f.keywords ∧
          ListFits (· = .str ·) codes f.defCodes ∧ TextFits id raw := by
    refine bind_read_eq_ok_iff (by simp [shape]) fun r vs hvalues => ?_
    obtain _ | ⟨rfl, _ | ⟨rfl, _ | ⟨rfl, _ | ⟨rfl, _ | ⟨rfl, _ | ⟨rfl, ⟨⟩⟩⟩⟩⟩⟩⟩ := hvalues
    simp only [bind_eq_ok_iff, orElse_list_eq_ok_iff TimePeriod.read_eq_ok_iff,
      orElse_list_eq_ok_iff AgencyFilter.read_eq_ok_iff,
      orElse_list_eq_ok_iff Json.Reader.text_eq_ok_iff, may_text_eq_ok_iff]
    constructor
    · rintro ⟨periods, hperiods, agencies, hagencies, types, htypes, keywords, hkeywords, codes,
        hcodes, id, hid, ⟨⟩⟩
      exact ⟨rfl, _, _, _, _, _, _, rfl, hperiods, hagencies, htypes, hkeywords, hcodes, hid⟩
    · rintro ⟨hnone, _, _, _, _, _, _, ⟨⟩, hperiods, hagencies, htypes, hkeywords, hcodes, hid⟩
      refine ⟨_, hperiods, _, hagencies, _, htypes, _, hkeywords, _, hcodes, _, hid, ?_⟩
      -- The filters that are put together have no recipient id yet, and neither do these.
      rw [← hnone]
      rfl
  rw [hread, Fits]
  grind

/-- What stands for filters is an object or an array. -/
theorem Fits.ne_null {j : Json} {f : TransactionFilters} {raw : Option String} (h : f.Fits j raw) :
    j ≠ .null := by
  rintro rfl
  obtain ⟨-, _, _, _, _, _, _, ⟨⟩, -⟩ := h

theorem Fits.recipientId_eq_none {j : Json} {f : TransactionFilters} {raw : Option String}
    (h : f.Fits j raw) : f.recipientId = none := h.1

end TransactionFilters

/-! ## Bodies -/

namespace Body

variable {body : List UInt8} {f : TransactionFilters} {raw : Option String}

theorem all_isBlank_iff : body.all isBlank = true ↔ ∀ b ∈ body, b ∈ [9, 10, 12, 13, 32] := by
  simp only [List.all_eq_true, isBlank, Bool.or_eq_true, beq_iff_eq, List.mem_cons,
    List.not_mem_nil, or_false]
  refine forall₂_congr fun b _ => ?_
  tauto

/-- Blanks are characters of one byte each. -/
theorem symbols_of_blanks (h : ∀ b ∈ body, b ∈ [9, 10, 12, 13, 32]) :
    Json.symbols body = body.map fun b => some (Char.ofNat b.toNat) := by
  induction body with
  | nil =>
    rw [Json.symbols]
    rfl
  | cons b body ih =>
    obtain ⟨hb, hbody⟩ := List.forall_mem_cons.mp h
    have hascii : ∀ b ∈ [9, 10, 12, 13, (32 : UInt8)], b.toNat < 0x80 := by simp
    rw [Json.symbols, Text.firstPiece_one (hascii b hb)]
    exact congrArg _ (ih hbody)

/-- A body of blanks is no JSON text, as no value starts with one. -/
theorem not_isText_of_blanks (h : ∀ b ∈ body, b ∈ [9, 10, 12, 13, 32]) (j : Json) :
    ¬ Json.IsText (Json.symbols body) j := by
  rintro ⟨before, t, after, heq, -, -, hspells⟩
  obtain ⟨c, hc, tail, rfl⟩ := Json.exists_cons_of_spells hspells
  have hmem : some c ∈ Json.symbols body := by
    rw [heq]
    simp
  rw [symbols_of_blanks h] at hmem
  obtain ⟨b, hb, hbc⟩ := List.mem_map.mp hmem
  have hstart : ∀ b ∈ [9, 10, 12, 13, (32 : UInt8)], Char.ofNat b.toNat ∉ Json.valueStarts := by
    decide +kernel
  exact hstart b (h b hb) (Option.some.inj hbc ▸ hc)

/-- The one field of a body. -/
theorem only_eq_ok_iff {α : Type} {reader : Json.Reader α} {name : String} {absence : Json.Absence}
    {j : Json} {found : Option α} : only name absence reader j = .ok found ↔
      ∃ v, HasShape [{ name, absence }] j [v] ∧
        ((v = none ∨ v = some .null) ∧ found = none ∨
          ∃ w a, v = some w ∧ w ≠ .null ∧ reader w = .ok a ∧ found = some a) := by
  have honly : only name absence reader j = .ok found ↔
      ∃ vs, HasShape [{ name, absence }] j vs ∧ ∃ v, vs = [v] ∧
        ((v = none ∨ v = some .null) ∧ found = none ∨
          ∃ w a, v = some w ∧ w ≠ .null ∧ reader w = .ok a ∧ found = some a) := by
    refine bind_read_eq_ok_iff (List.pairwise_singleton _ _) fun r vs hvalues => ?_
    obtain _ | ⟨rfl, ⟨⟩⟩ := hvalues
    rw [may_eq_ok_iff]
    simp only [Json.Reader.nullable_eq_ok_iff]
    grind
  rw [honly]
  grind

/-- A body is blank, or a JSON text of a value that is read. It is never both. -/
theorem read_eq_ok_iff {α : Type} {blank a : α} {reader : Json.Reader α} :
    read blank reader body = .ok a ↔
      (∀ b ∈ body, b ∈ [9, 10, 12, 13, 32]) ∧ a = blank ∨
        ∃ j, Json.IsText (Json.symbols body) j ∧ reader j = .ok a := by
  rw [read]
  split
  · next hblank =>
    have hblanks := all_isBlank_iff.mp hblank
    have hnot := not_isText_of_blanks hblanks
    simp only [hnot, false_and, exists_false, or_false, and_iff_right hblanks, Except.ok.injEq,
      eq_comm]
  · next hblank =>
    rw [all_isBlank_iff] at hblank
    simp only [hblank, false_and, false_or, ← Json.parse_eq_some_iff]
    rw [Json.parseBytes]
    cases Json.parse (Json.symbols body) <;> simp [mapError_eq_ok_iff]

/-- What is read before the recipient id fits the schema, and whatever fits is read. -/
theorem exists_read_iff {p : TransactionFilters × Option String} :
    (∃ parts, read none (only "filters" .filled TransactionFilters.readParts) body = .ok parts ∧
      parts.getD ({}, none) = p) ↔ Valid body p.1 p.2 := by
  simp only [read_eq_ok_iff, only_eq_ok_iff]
  constructor
  · rintro ⟨_, ⟨hblanks, rfl⟩ | ⟨j, htext, v, hrecord, ⟨hnothing, rfl⟩ |
      ⟨w, parts, rfl, -, hparts, rfl⟩⟩, rfl⟩
    · exact .blank hblanks
    · exact .unfiltered htext hrecord hnothing
    · exact .filtered htext hrecord (TransactionFilters.readParts_eq_ok_iff.mp hparts)
  · obtain ⟨f, raw⟩ := p
    rintro (hblanks | ⟨htext, hrecord, hnothing⟩ | ⟨htext, hrecord, hfits⟩)
    · exact ⟨none, .inl ⟨hblanks, rfl⟩, rfl⟩
    · exact ⟨none, .inr ⟨_, htext, _, hrecord, .inl ⟨hnothing, rfl⟩⟩, rfl⟩
    · exact ⟨some (f, raw), .inr ⟨_, htext, _, hrecord, .inr ⟨_, _, rfl, hfits.ne_null,
        TransactionFilters.readParts_eq_ok_iff.mpr hfits, rfl⟩⟩, rfl⟩

theorem Valid.recipientId_eq_none (h : Valid body f raw) : f.recipientId = none := by
  cases h with
  | blank => rfl
  | unfiltered => rfl
  | filtered _ _ fits => exact fits.recipientId_eq_none

theorem exists_read_of_valid (h : Valid body f raw) : ∃ parts,
    read none (only "filters" .filled TransactionFilters.readParts) body = .ok parts ∧
      parts.getD ({}, none) = (f, raw) := exists_read_iff.mpr h

/-- The recipient id is read last, and is all that is added. -/
theorem withRecipient_eq_ok_iff {g : TransactionFilters} (hg : g.recipientId = none) :
    TransactionFilters.withRecipient (g, raw) = .ok f ↔
      g = { f with recipientId := none } ∧ IdOf raw f.recipientId := by
  rw [TransactionFilters.withRecipient]
  cases raw with
  | none =>
    dsimp only
    constructor
    · rintro ⟨⟩
      rw [hg]
      exact ⟨by rw [← hg], .none⟩
    · rintro ⟨rfl, hid⟩
      generalize hnone : f.recipientId = id at hid
      cases hid
      rw [← hnone]
  | some raw =>
    dsimp only
    cases hparse : RecipientId.parse raw with
    | ok id =>
      dsimp only
      constructor
      · rintro ⟨⟩
        exact ⟨by rw [← hg], .some (RecipientId.parse_eq_iff.mp hparse)⟩
      · rintro ⟨rfl, hid⟩
        generalize hsome : f.recipientId = found at hid
        obtain _ | ⟨hreads⟩ := hid
        obtain rfl : id = _ := Except.ok.inj (hparse.symm.trans hreads.parse_eq)
        rw [← hsome]
    | error why =>
      refine iff_of_false nofun ?_
      rintro ⟨-, hid⟩
      generalize f.recipientId = found at hid
      obtain _ | ⟨hreads⟩ := hid
      cases hparse.symm.trans hreads.parse_eq

/-- Filters are read from a body exactly if it fits the schema, and has a spelling of the recipient
id if they name a recipient. -/
theorem downloadFilters_eq_ok_iff : downloadFilters body = .ok f ↔
    ∃ raw, Valid body { f with recipientId := none } raw ∧ IdOf raw f.recipientId := by
  constructor
  · intro h
    obtain ⟨parts, hread, hparts⟩ := exists_of_bind_eq_ok h
    have hvalid := exists_read_iff.mp ⟨parts, hread, rfl⟩
    obtain ⟨heq, hid⟩ := (withRecipient_eq_ok_iff hvalid.recipientId_eq_none).mp hparts
    exact ⟨_, heq ▸ hvalid, hid⟩
  · rintro ⟨raw, hvalid, hid⟩
    obtain ⟨parts, hread, hparts⟩ := exists_read_of_valid hvalid
    refine bind_eq_ok_iff.mpr ⟨parts, hread, ?_⟩
    rw [hparts]
    exact (withRecipient_eq_ok_iff rfl).mpr ⟨rfl, hid⟩

/-! ## Refusals of bodies -/

theorem exists_of_read_eq_error {α : Type} {blank : α} {reader : Json.Reader α} {why : Refusal}
    (h : read blank reader body = .error why) : ∃ reason, why = .body reason := by
  rw [read] at h
  split at h
  · cases h
  · split at h
    · exact ⟨_, (Except.error.inj h).symm⟩
    · obtain ⟨reason, -, rfl⟩ := exists_of_mapError_eq_error h
      exact ⟨reason, rfl⟩

/-- A body that does not fit the schema is refused for what it is. -/
theorem exists_refusal_of_not_valid (h : ∀ f raw, ¬ Valid body f raw) :
    ∃ reason, downloadFilters body = .error (.body reason) := by
  cases hread : read none (only "filters" .filled TransactionFilters.readParts) body with
  | ok parts => exact absurd (exists_read_iff.mp ⟨parts, hread, rfl⟩) (h _ _)
  | error why =>
    obtain ⟨reason, rfl⟩ := exists_of_read_eq_error hread
    refine ⟨reason, ?_⟩
    rw [downloadFilters, hread]
    rfl

/-- A body that fits the schema is refused for its recipient id, if that is none. -/
theorem exists_refusal_of_not_reads {raw : String} (hvalid : Valid body f (some raw))
    (h : ∀ id, ¬ RecipientId.Reads raw (.ok id)) :
    ∃ why, RecipientId.Reads raw (.error why) ∧
      downloadFilters body = .error (.filterRecipient why) := by
  obtain ⟨parts, hread, hparts⟩ := exists_read_of_valid hvalid
  cases hparse : RecipientId.parse raw with
  | ok id => exact absurd (RecipientId.parse_eq_iff.mp hparse) (h id)
  | error why =>
    refine ⟨why, RecipientId.parse_eq_iff.mp hparse, ?_⟩
    rw [downloadFilters, hread]
    show TransactionFilters.withRecipient (parts.getD ({}, none)) = _
    rw [hparts, TransactionFilters.withRecipient]
    simp only [hparse]

end Body

end Outlays
