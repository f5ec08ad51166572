import Outlays.Proofs.Fault.Reading
import Outlays.Proofs.Web.Tracing

/-!
# How faults come to be

A fault starts out with words or is read from a value, and after that it is given identifiers and
details, one after the other. Words may be blank, and so may identifiers: some ways to give them put
up with it, others do not, and a value that is read is checked on its own. What comes out of any
number of these steps never has a blank message or a blank identifier, and differs from what was
started with only in what was named last.

Here a blank text is one of which nothing is left once it is trimmed.

## Main definitions

* `Fault.Origin`, `Fault.Change`, `Fault.build?` — the ways to make a fault and to go on from it
* `Fault.Fits`, `Fault.Origin.Gives` — what a fault is at first, told without the makers

## Main results

* `Fault.read_eq_ok_iff` — which values are read as a fault
* `Fault.change?_eq_ok_iff`, `Fault.changes?_eq_ok_iff` — what one step and a row of steps do
* `Fault.build?_eq_ok_iff` — what is built, and that it is not blank
-/

namespace Outlays

namespace Fault

/-! ## Making and changing -/

/-- A way to come by a fault. -/
inductive Origin where
  /-- It is made with these words, or with those of its code. -/
  | made (code : FaultCode) (message : String)
  /-- It is made with these words or not at all. -/
  | checked (code : FaultCode) (message : String)
  /-- It is read from a value. -/
  | read (j : Json)

/-- A way to go on from a fault. -/
inductive Change where
  /-- It is given this identifier, or keeps its own. -/
  | trace (id : String)
  /-- It is given this identifier or given up. -/
  | checkedTrace (id : String)
  /-- It is given these details. -/
  | details (d : Json)

/-- The fault that is come by while a request is served, or outside of one. -/
def start? (request : Option Uuid) : Origin → Except Unreadable Fault
  | .made code message => .ok (make (request.map Uuid.render) code message)
  | .checked code message => (make? (request.map Uuid.render) code message).mapError .blank
  | .read j => read j

/-- The fault after a change. -/
def change? (f : Fault) : Change → Except Unreadable Fault
  | .trace id => .ok (f.withTrace id)
  | .checkedTrace id => (f.withTrace? id).mapError .blank
  | .details d => .ok (f.withDetails d)

/-- The fault after changes, one after the other. -/
def changes? (f : Fault) (changes : List Change) : Except Unreadable Fault :=
  changes.foldlM change? f

/-- The fault that is come by and then changed. -/
def build? (request : Option Uuid) (origin : Origin) (changes : List Change) :
    Except Unreadable Fault := do
  (← start? request origin).changes? changes

/-! ## What a fault is at first -/

/-- The value is a record of the parts of the fault, with details that nest less deep than a reader
goes. -/
def Fits (j : Json) (f : Fault) : Prop := f.FitsWithin detailsDepth j

/-- What a fault is at first. -/
inductive Origin.Gives (request : Option Uuid) : Origin → Fault → Prop where
  | made {code : FaultCode} {message : String} (words : Text.trim message.toList ≠ []) :
      Gives request (.made code message) ⟨code, message, request.map Uuid.render, none⟩
  | usual {code : FaultCode} {message : String} (wordless : Text.trim message.toList = []) :
      Gives request (.made code message) ⟨code, code.fallback, request.map Uuid.render, none⟩
  | checked {code : FaultCode} {message : String} (words : Text.trim message.toList ≠ []) :
      Gives request (.checked code message) ⟨code, message, request.map Uuid.render, none⟩
  | read {j : Json} {f : Fault} (fits : f.Fits j) (notBlank : f.NotBlank) :
      Gives request (.read j) f

/-! ## Reading a fault -/

theorem make?_eq_ok_iff {scope : Scope} {code : FaultCode} {message : String} {f : Fault} :
    make? scope code message = .ok f ↔
      Text.trim message.toList ≠ [] ∧ f = ⟨code, message, scope, none⟩ := by
  rw [make?, ← Text.isBlankText_eq_false_iff]
  cases Text.isBlankText message with
  | true => simp
  | false => simp [eq_comm]

theorem withTrace?_eq_ok_iff {f g : Fault} {id : String} :
    f.withTrace? id = .ok g ↔ Text.trim id.toList ≠ [] ∧ g = { f with trace := some id } := by
  rw [withTrace?, ← Text.isBlankText_eq_false_iff]
  cases Text.isBlankText id with
  | true => simp
  | false => simp [eq_comm]

/-- What is read is a record of a fault that is not blank, and every such record is read. -/
theorem read_eq_ok_iff {j : Json} {f : Fault} : read j = .ok f ↔ f.Fits j ∧ f.NotBlank := by
  rw [read_eq_readIn none, readIn_eq_ok_iff, Fits]

/-! ## What is built -/

theorem notBlank_of_gives {request : Option Uuid} {origin : Origin} {f : Fault}
    (h : origin.Gives request f) : f.NotBlank := by
  have htrace : ∀ t ∈ request.map Uuid.render, Text.trim t.toList ≠ [] := by
    intro t ht
    obtain ⟨u, -, rfl⟩ := Option.map_eq_some_iff.mp ht
    exact Text.isBlankText_eq_false_iff.mp (u.notBlank_render _ rfl)
  cases h with
  | made words => exact ⟨words, htrace⟩
  | usual _ => exact ⟨Text.isBlankText_eq_false_iff.mp (FaultCode.isBlankText_fallback _), htrace⟩
  | checked words => exact ⟨words, htrace⟩
  | read _ notBlank => exact notBlank

/-- A fault is come by as it is told, and not otherwise. -/
theorem start?_eq_ok_iff {request : Option Uuid} {origin : Origin} {f : Fault} :
    start? request origin = .ok f ↔ origin.Gives request f := by
  cases origin with
  | made code message =>
    have hmake : make (request.map Uuid.render) code message = ⟨code,
        if Text.trim message.toList = [] then code.fallback else message,
        request.map Uuid.render, none⟩ := by
      simp only [← Text.isBlankText_eq_true_iff]
      rw [make, make?]
      cases Text.isBlankText message <;> rfl
    rw [start?, hmake, Except.ok.injEq]
    constructor
    · rintro rfl
      split
      · next wordless => exact .usual wordless
      · next words => exact .made words
    · intro h
      cases h with
      | made words => rw [if_neg words]
      | usual wordless => rw [if_pos wordless]
  | checked code message =>
    rw [start?, mapError_eq_ok_iff, make?_eq_ok_iff]
    constructor
    · rintro ⟨words, rfl⟩
      exact .checked words
    · intro h
      cases h with
      | checked words => exact ⟨words, rfl⟩
  | read j =>
    rw [start?, read_eq_ok_iff]
    constructor
    · rintro ⟨fits, notBlank⟩
      exact .read fits notBlank
    · intro h
      cases h with
      | read fits notBlank => exact ⟨fits, notBlank⟩

/-- The identifier that a change names, unless it is blank. -/
def Change.trace? : Change → Option String
  | .trace id | .checkedTrace id => if Text.trim id.toList = [] then none else some id
  | .details _ => none

/-- The details that a change names. -/
def Change.details? : Change → Option Json
  | .details d => some d
  | .trace _ | .checkedTrace _ => none

/-- The change is not given up for a blank identifier. -/
def Change.Goes : Change → Prop
  | .checkedTrace id => Text.trim id.toList ≠ []
  | .trace _ | .details _ => True

/-- A change gives the fault what it names, and nothing else. -/
theorem change?_eq_ok_iff {f g : Fault} {c : Change} :
    f.change? c = .ok g ↔
      c.Goes ∧ g = { f with trace := c.trace?.or f.trace, details := c.details?.or f.details } := by
  cases c with
  | trace id =>
    have hgiven : f.withTrace id = { f with
        trace := (Change.trace id).trace?.or f.trace
        details := (Change.trace id).details?.or f.details } := by
      simp only [Change.trace?, ← Text.isBlankText_eq_true_iff]
      rw [withTrace]
      cases Text.isBlankText id <;> rfl
    rw [change?, hgiven, Except.ok.injEq]
    exact ⟨fun h => ⟨trivial, h.symm⟩, fun h => h.2.symm⟩
  | checkedTrace id =>
    rw [change?, mapError_eq_ok_iff, withTrace?_eq_ok_iff]
    refine and_congr_right fun hid => ?_
    rw [Change.trace?, if_neg hid]
    rfl
  | details d =>
    rw [change?, Except.ok.injEq]
    exact ⟨fun h => ⟨trivial, h.symm⟩, fun h => h.2.symm⟩

/-- After changes a fault has what was named last, and else what it had. -/
theorem changes?_eq_ok_iff {f g : Fault} {changes : List Change} :
    f.changes? changes = .ok g ↔ (∀ c ∈ changes, c.Goes) ∧
      g = { f with
        trace := (changes.reverse.findSome? Change.trace?).or f.trace
        details := (changes.reverse.findSome? Change.details?).or f.details } := by
  induction changes generalizing f with
  | nil =>
    rw [changes?, List.foldlM_nil]
    constructor
    · intro h
      exact ⟨fun c hc => absurd hc List.not_mem_nil, (Except.ok.inj h).symm⟩
    · intro h
      exact congrArg Except.ok h.2.symm
  | cons c changes ih =>
    -- What the later changes name comes before what this one names.
    rw [changes?, List.foldlM_cons, bind_eq_ok_iff, List.forall_mem_cons, and_assoc]
    simp only [List.reverse_cons, List.findSome?_append, List.findSome?_singleton, Option.or_assoc]
    constructor
    · rintro ⟨_, hc, h⟩
      obtain ⟨hgoes, rfl⟩ := change?_eq_ok_iff.mp hc
      exact ⟨hgoes, ih.mp h⟩
    · rintro ⟨hgoes, h⟩
      exact ⟨_, change?_eq_ok_iff.mpr ⟨hgoes, rfl⟩, ih.mpr h⟩

/-- A change does not make a fault blank: an identifier that it names is not. -/
theorem NotBlank.change? {f g : Fault} {c : Change} (hf : f.NotBlank) (h : f.change? c = .ok g) :
    g.NotBlank := by
  obtain ⟨-, rfl⟩ := change?_eq_ok_iff.mp h
  refine ⟨hf.message, fun t ht => ?_⟩
  obtain hnamed | ⟨-, hkept⟩ := Option.or_eq_some_iff.mp ht
  · cases c with
    | trace id | checkedTrace id =>
      simp only [Change.trace?] at hnamed
      split at hnamed
      · cases hnamed
      · next hid => exact Option.some.inj hnamed ▸ hid
    | details d => cases hnamed
  · exact hf.trace t hkept

/-- Nor do any number of them. -/
theorem NotBlank.changes? {f g : Fault} {changes : List Change} (hf : f.NotBlank)
    (h : f.changes? changes = .ok g) : g.NotBlank := by
  induction changes generalizing f with
  | nil =>
    rw [Fault.changes?, List.foldlM_nil] at h
    exact Except.ok.inj h ▸ hf
  | cons c changes ih =>
    rw [Fault.changes?, List.foldlM_cons, bind_eq_ok_iff] at h
    obtain ⟨f', hc, h⟩ := h
    exact ih (hf.change? hc) h

/-- What is built is what was come by at first, with the identifier and the details that were named
last, if any were. No message in it is blank, and no identifier. Words of any kind make a fault, and
only a blank identifier that has to be checked keeps it from being built. -/
theorem build?_eq_ok_iff (request : Option Uuid) :
    (∀ code message, ∃ f, build? request (.made code message) [] = .ok f) ∧
    ∀ origin changes f, build? request origin changes = .ok f ↔
      f.NotBlank ∧ (∀ c ∈ changes, c.Goes) ∧ ∃ g, Origin.Gives request origin g ∧
        f = { g with
          trace := (changes.reverse.findSome? Change.trace?).or g.trace
          details := (changes.reverse.findSome? Change.details?).or g.details } := by
  refine ⟨fun code message => ⟨_, rfl⟩, fun origin changes f => ?_⟩
  rw [build?, bind_eq_ok_iff]
  constructor
  · rintro ⟨g, hg, hf⟩
    rw [start?_eq_ok_iff] at hg
    obtain ⟨hgoes, heq⟩ := changes?_eq_ok_iff.mp hf
    exact ⟨(notBlank_of_gives hg).changes? hf, hgoes, g, hg, heq⟩
  · rintro ⟨-, hgoes, g, hg, heq⟩
    exact ⟨g, start?_eq_ok_iff.mpr hg, changes?_eq_ok_iff.mpr ⟨hgoes, heq⟩⟩

/-- Blank words give way to those of the code, and a blank identifier to the one before it. -/
example : build? none (.made .notFound " ") [.trace "a", .trace " \t"] =
    .ok ⟨.notFound, "Not found", some "a", none⟩ := rfl

end Fault

end Outlays
