import Outlays.Proofs.Download.Schema
import Outlays.Proofs.Json.Records
import Outlays.Proofs.Json.Settled
import Outlays.Proofs.Json.Written

/-!
# Reading a fault

A written fault is a record of four parts. The fault that is read is made of them as any fault is,
while some request may be being served: it takes the identifier of that request with it, has to give
it up again, and is given its own. So what is read does not depend on who reads it. Words that are
blank are turned down, and after them an identifier that is.

How deep details may nest is up to the reader: a text is read with a bound, and a value that is at
hand already is read whatever its depth.

Here a blank text is one of which nothing is left once it is trimmed.

## Main definitions

* `Fault.NotBlank`, `Fault.FirstBlank` — neither part is blank, or this one is the first that is
* `Fault.FitsWithin` — the values that are records of a fault
* `Fault.readIn` — reading while a request is served, with a bound for details

## Main results

* `Fault.read_eq_readIn` — the request that is served plays no part
* `Fault.readIn_eq_ok_iff`, `Fault.readIn_eq_blank_iff` — what is read, and what is turned down
* `Fault.readIn_toJson`, `Fault.legible_toJson` — what is written is read back
-/

namespace Outlays

open Json (HasShape)
open Json.Record (bind_read_eq_ok_iff need_eq_ok_iff may_eq_ok_iff)

/-! ## Blank texts -/

theorem Text.trimEnd_eq_nil_iff {cs : List Char} :
    trimEnd cs = [] ↔ ∀ c ∈ cs, isBlank c = true := by
  rw [trimEnd, List.reverse_eq_nil_iff, List.dropWhile_eq_nil_iff]
  simp only [List.mem_reverse]

/-- Nothing is left of a text once it is trimmed if and only if all of it is blank. -/
theorem Text.trim_eq_nil_iff {cs : List Char} : trim cs = [] ↔ ∀ c ∈ cs, isBlank c = true := by
  rw [trim, trimEnd_eq_nil_iff, trimStart]
  constructor
  · intro h c hc
    rw [← List.takeWhile_append_dropWhile (p := isBlank) (l := cs), List.mem_append] at hc
    obtain hc | hc := hc
    · exact List.mem_takeWhile_imp hc
    · exact h c hc
  · intro h c hc
    exact h c ((List.dropWhile_sublist isBlank).mem hc)

theorem Text.isBlankText_eq_false_iff {s : String} :
    isBlankText s = false ↔ trim s.toList ≠ [] := by
  rw [ne_eq, trim_eq_nil_iff, ← List.all_eq_true, Bool.not_eq_true, isBlankText]

theorem Text.isBlankText_eq_true_iff {s : String} :
    isBlankText s = true ↔ trim s.toList = [] := by
  rw [trim_eq_nil_iff, ← List.all_eq_true, isBlankText]

theorem FaultCode.read_eq_ok_iff {j : Json} {c : FaultCode} : read j = .ok c ↔ j.IsName c.name :=
  Json.Reader.variant_eq_ok_iff (by decide) fun c => by cases c <;> rfl

namespace Fault

/-- Neither the message nor the identifier is blank. -/
structure NotBlank (f : Fault) : Prop where
  message : Text.trim f.message.toList ≠ []
  trace : ∀ t ∈ f.trace, Text.trim t.toList ≠ []

/-- The part is the first one that is blank. -/
def FirstBlank (f : Fault) : Blank → Prop
  | .message => Text.trim f.message.toList = []
  | .trace => Text.trim f.message.toList ≠ [] ∧ ∃ t ∈ f.trace, Text.trim t.toList = []

/-! ## Records of a fault -/

/-- The details are missing or null, or a value that nests less deep than the bound. Such a value is
kept as it is when it is settled. -/
inductive DetailsWithin (bound : Nat) : Option Json → Option Json → Prop where
  | given {d : Json} (notNull : d ≠ .null) (readable : d.isReadable = true)
      (shallow : d.depth < bound) : DetailsWithin bound (some d) (some d.settled)
  | null : DetailsWithin bound (some .null) none
  | missing : DetailsWithin bound none none

/-- The value is a record of the parts of the fault, with details that nest less deep than the
bound. -/
def FitsWithin (bound : Nat) (j : Json) (f : Fault) : Prop :=
  ∃ code trace details, HasShape shape j [some code, some (.str f.message), trace, details] ∧
    code.IsName f.code.name ∧ TextFits trace f.trace ∧ DetailsWithin bound details f.details

/-! ## Reading the parts -/

theorem may_any_eq_ok_iff {r : Json.Record} {name : String} {bound : Nat} {details : Option Json} :
    r.may name (Json.Reader.any bound) = .ok details ↔
      DetailsWithin bound (r.value? name) details := by
  simp only [may_eq_ok_iff, Json.Reader.nullable_eq_ok_iff, Json.Reader.any_eq_ok_iff]
  constructor
  · rintro (⟨hnone, rfl⟩ | ⟨v, hsome, ⟨rfl, rfl⟩ | ⟨d, hnull, ⟨⟨hreadable, hdepth⟩, rfl⟩, rfl⟩⟩)
    · rw [hnone]
      exact .missing
    · rw [hsome]
      exact .null
    · rw [hsome]
      exact .given hnull hreadable hdepth
  · intro h
    cases hvalue : r.value? name with
    | none =>
      rw [hvalue] at h
      cases h
      exact .inl ⟨rfl, rfl⟩
    | some v =>
      rw [hvalue] at h
      cases h with
      | given hnull hreadable hdepth =>
        exact .inr ⟨v, rfl, .inr ⟨_, hnull, ⟨⟨hreadable, hdepth⟩, rfl⟩, rfl⟩⟩
      | null => exact .inr ⟨_, rfl, .inl ⟨rfl, rfl⟩⟩

/-- The four parts of the record of a fault. -/
def parts (bound : Nat) (j : Json) :
    Except String (FaultCode × String × Option String × Option Json) := do
  let r ← Json.Record.read shape j
  return (← r.need "code" FaultCode.read, ← r.need "message" Json.Reader.text,
    ← r.may "traceId" Json.Reader.text, ← r.may "details" (Json.Reader.any bound))

theorem parts_eq_ok_iff {bound : Nat} {j : Json} {code : FaultCode} {message : String}
    {trace : Option String} {details : Option Json} :
    parts bound j = .ok (code, message, trace, details) ↔
      FitsWithin bound j ⟨code, message, trace, details⟩ := by
  -- The values of the four slots, in their order, stand for what the record has for its fields.
  have hnames : shape.Pairwise fun s t => s.name ≠ t.name := by simp [shape]
  unfold parts
  rw [bind_read_eq_ok_iff (P := fun vs => ∃ c t d, vs = [some c, some (.str message), t, d] ∧
    c.IsName code.name ∧ TextFits t trace ∧ DetailsWithin bound d details) hnames]
  · rw [FitsWithin]
    constructor
    · rintro ⟨_, hshape, c, t, d, rfl, hfits⟩
      exact ⟨c, t, d, hshape, hfits⟩
    · rintro ⟨c, t, d, hshape, hfits⟩
      exact ⟨_, hshape, c, t, d, rfl, hfits⟩
  · intro r vs hvalues
    obtain _ | ⟨rfl, _ | ⟨rfl, _ | ⟨rfl, _ | ⟨rfl, ⟨⟩⟩⟩⟩⟩ := hvalues
    simp only [bind_eq_ok_iff, need_eq_ok_iff, FaultCode.read_eq_ok_iff,
      Json.Reader.text_eq_ok_iff, may_text_eq_ok_iff, may_any_eq_ok_iff]
    constructor
    · rintro ⟨_, ⟨c, hc, hname⟩, _, ⟨_, hmessage, rfl⟩, _, htrace, _, hdetails, ⟨⟩⟩
      exact ⟨c, _, _, by rw [hc, hmessage], hname, htrace, hdetails⟩
    · rintro ⟨c, t, d, heq, hname, htrace, hdetails⟩
      obtain ⟨hc, hmessage, rfl, rfl⟩ : _ ∧ _ ∧ _ ∧ _ := by simpa using heq
      exact ⟨_, ⟨c, hc, hname⟩, _, ⟨_, hmessage, rfl⟩, _, htrace, _, hdetails, rfl⟩

/-! ## Putting the parts together -/

/-- The fault of four parts, put together while a request is served: it is made of its words, gives
up the identifier of that request, and is given its own and its details. -/
def ofParts (scope : Scope) (code : FaultCode) (message : String) (trace : Option String)
    (details : Option Json) : Except Blank Fault := do
  let f := { ← make? scope code message with trace := none }
  let f ← match trace with
    | some t => f.withTrace? t
    | none => .ok f
  return { f with details }

variable {scope : Scope} {code : FaultCode} {message : String} {trace : Option String}
  {details : Option Json} {f : Fault}

/-- Nothing of the request is left in the fault, and nothing is added to its parts. -/
theorem ofParts_eq : ofParts scope code message trace details =
    if Text.isBlankText message then .error .message
    else if trace.any Text.isBlankText then .error .trace
    else .ok ⟨code, message, trace, details⟩ := by
  rw [ofParts, make?]
  cases Text.isBlankText message with
  | true => rfl
  | false =>
    cases trace with
    | none => rfl
    | some t =>
      by_cases ht : Text.isBlankText t = true <;> simp only [withTrace?, Option.any_some, ht] <;> rfl

theorem ofParts_eq_ok_iff : ofParts scope code message trace details = .ok f ↔
    f = ⟨code, message, trace, details⟩ ∧ f.NotBlank := by
  have hblank : (Fault.mk code message trace details).NotBlank ↔
      Text.isBlankText message = false ∧ ∀ t ∈ trace, Text.isBlankText t = false := by
    simp only [Text.isBlankText_eq_false_iff]
    exact ⟨fun h => ⟨h.message, h.trace⟩, fun h => ⟨h.1, h.2⟩⟩
  rw [ofParts_eq]
  constructor
  · intro h
    split_ifs at h with hmessage htrace
    obtain rfl := Except.ok.inj h
    rw [Option.any_eq_true] at htrace
    exact ⟨rfl, hblank.mpr ⟨Bool.eq_false_iff.mpr hmessage,
      fun t ht => Bool.eq_false_iff.mpr fun hb => htrace ⟨t, ht, hb⟩⟩⟩
  · rintro ⟨rfl, hnot⟩
    obtain ⟨hmessage, htrace⟩ := hblank.mp hnot
    have hany : ¬ trace.any Text.isBlankText = true := by
      rw [Option.any_eq_true]
      rintro ⟨t, ht, hb⟩
      exact Bool.false_ne_true ((htrace t ht).symm.trans hb)
    rw [if_neg (Bool.eq_false_iff.mp hmessage), if_neg hany]

/-- The message is looked at before the identifier. -/
theorem ofParts_eq_error_iff {part : Blank} : ofParts scope code message trace details =
    .error part ↔ FirstBlank ⟨code, message, trace, details⟩ part := by
  rw [ofParts_eq]
  cases part with
  | message =>
    rw [FirstBlank, ← Text.isBlankText_eq_true_iff]
    split_ifs with hmessage htrace <;> simp [hmessage]
  | trace =>
    simp only [FirstBlank, ← Text.isBlankText_eq_true_iff, ne_eq]
    have hany : trace.any Text.isBlankText = true ↔ ∃ t ∈ trace, Text.isBlankText t = true :=
      Option.any_eq_true _ _
    rw [← hany]
    split_ifs with hmessage htrace <;> simp_all

/-- Reads a fault while a request is served, with details that nest less deep than the bound. -/
def readIn (scope : Scope) (bound : Nat) (j : Json) : Except Unreadable Fault := do
  let (code, message, trace, details) ← (parts bound j).mapError .malformed
  (ofParts scope code message trace details).mapError .blank

variable {bound : Nat} {j : Json}

/-- The request that is served plays no part. -/
theorem read_eq_readIn (scope : Scope) (j : Json) : read j = readIn scope detailsDepth j := by
  rw [read, readIn, ← parts]
  refine congrArg (Except.bind ((parts detailsDepth j).mapError Unreadable.malformed)) (funext ?_)
  rintro ⟨code, message, trace, details⟩
  simp only [ofParts_eq, make?]
  cases Text.isBlankText message with
  | true => rfl
  | false =>
    cases trace with
    | none => rfl
    | some t =>
      by_cases ht : Text.isBlankText t = true <;> simp only [withTrace?, Option.any_some, ht] <;> rfl

/-- What is read is a record of a fault that is not blank, and every such record is read. -/
theorem readIn_eq_ok_iff : readIn scope bound j = .ok f ↔ f.FitsWithin bound j ∧ f.NotBlank := by
  rw [readIn, bind_eq_ok_iff]
  simp only [mapError_eq_ok_iff]
  constructor
  · rintro ⟨⟨c, m, t, d⟩, hparts, h⟩
    obtain ⟨rfl, hnot⟩ := ofParts_eq_ok_iff.mp h
    exact ⟨parts_eq_ok_iff.mp hparts, hnot⟩
  · rintro ⟨hfits, hnot⟩
    exact ⟨(f.code, f.message, f.trace, f.details), parts_eq_ok_iff.mpr hfits,
      ofParts_eq_ok_iff.mpr ⟨rfl, hnot⟩⟩

/-- What is turned down for a part that is blank is a record of a fault, and the part is the first
blank one of it. -/
theorem readIn_eq_blank_iff {part : Blank} : readIn scope bound j = .error (.blank part) ↔
    ∃ f : Fault, f.FitsWithin bound j ∧ f.FirstBlank part := by
  rw [readIn]
  cases hparts : parts bound j with
  | error reason =>
    refine iff_of_false nofun ?_
    rintro ⟨f, hfits, -⟩
    cases hparts.symm.trans (parts_eq_ok_iff.mpr hfits)
  | ok p =>
    obtain ⟨c, m, t, d⟩ := p
    constructor
    · intro h
      obtain ⟨part', herror, heq⟩ := exists_of_mapError_eq_error h
      obtain rfl : part' = part := Unreadable.blank.inj heq
      exact ⟨_, parts_eq_ok_iff.mp hparts, ofParts_eq_error_iff.mp herror⟩
    · rintro ⟨f, hfits, hblank⟩
      cases hparts.symm.trans (parts_eq_ok_iff.mpr hfits)
      exact congrArg (Except.mapError Unreadable.blank) (ofParts_eq_error_iff.mpr hblank)

/-! ## What is written is read back -/

/-- The fault without details that say nothing. -/
def withoutNull (f : Fault) : Fault := { f with details := f.details.filter (· ≠ .null) }

theorem withoutNull_eq (h : ∀ d ∈ f.details, d ≠ .null) : f.withoutNull = f := by
  obtain ⟨code, message, trace, _ | d⟩ := f
  · rfl
  · rw [withoutNull]
    dsimp only
    rw [Option.filter_some, if_pos (decide_eq_true (h d rfl))]

/-- A written fault is a record of it, if its details are kept. -/
theorem fitsWithin_toJson (hkept : ∀ d ∈ f.details, d.Kept)
    (hdepth : ∀ d ∈ f.details, d.depth < bound) : f.withoutNull.FitsWithin bound f.toJson := by
  have hdetails : DetailsWithin bound f.details f.withoutNull.details := by
    rw [withoutNull]
    cases hd : f.details with
    | none => exact .missing
    | some d =>
      by_cases hnull : d = .null
      · rw [hnull]
        exact .null
      · have hgiven := DetailsWithin.given hnull (hkept d hd).readable (hdepth d hd)
        rw [(hkept d hd).settled] at hgiven
        rwa [Option.filter_some, if_pos (decide_eq_true hnull)]
  have htrace : TextFits (f.trace.map .str) f.trace := by
    cases f.trace with
    | none => exact .missing
    | some t => exact .text t
  refine ⟨.str f.code.name, f.trace.map .str, f.details, ?_, .inl rfl, htrace, hdetails⟩
  obtain ⟨code, message, trace, details⟩ := f
  refine .object (.cons (.given ?_) (.cons (.given ?_) (.cons ?_ (.cons ?_ .nil))))
  · cases trace <;> cases details <;> rfl
  · cases trace <;> cases details <;> rfl
  · cases trace with
    | some t => exact .given (by cases details <;> rfl)
    | none => exact .missing (by cases details <;> simp [Json.Slot.accepts]) (by decide)
  · cases details with
    | some d => exact .given (by cases trace <;> rfl)
    | none => exact .missing (by cases trace <;> simp [Json.Slot.accepts]) (by decide)

/-- A fault that is not blank is read back, whoever reads it. -/
theorem readIn_toJson (hnot : f.NotBlank) (hkept : ∀ d ∈ f.details, d.Kept)
    (hdepth : ∀ d ∈ f.details, d.depth < bound) :
    readIn scope bound f.toJson = .ok f.withoutNull :=
  readIn_eq_ok_iff.mpr ⟨fitsWithin_toJson hkept hdepth, hnot.message, hnot.trace⟩

/-- A written fault is a text of itself, if its details are. -/
theorem legible_toJson (h : ∀ d ∈ f.details, d.Legible) : f.toJson.Legible := by
  refine Json.legible_obj fun field hfield => ?_
  simp only [List.mem_append, List.mem_cons, List.not_mem_nil, or_false, Option.mem_toList,
    Option.map_eq_some_iff] at hfield
  obtain ((rfl | rfl) | ⟨t, -, rfl⟩) | ⟨d, hd, rfl⟩ := hfield
  · exact Json.legible_str _
  · exact Json.legible_str _
  · exact Json.legible_str _
  · exact h d hd

end Fault

end Outlays
