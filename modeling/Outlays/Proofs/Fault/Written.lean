import Outlays.Proofs.Fault.Reading
import Outlays.Proofs.Inquiry.Failures
import Outlays.Web.Response

/-!
# Faults are read back

A fault is written for clients, and a client that reads it has all of it again: the code, the
message, the identifier and the details. That takes words that are not blank, since a reader turns
down blank ones, and details that a reader leaves as they are. Every fault that a service makes is
of that kind, and still is when it is shown.

## Main definitions

* `Scope.NotBlank`, `Fault.Sound` — a fault that a reader takes as it is
* `Fault.ofBytes?` — the fault that a body tells, if it tells one

## Main results

* `Fault.Sound.ofBytes?_renderBytes` — a sound fault is read back
* `Cause.sound_fault`, `Fault.Sound.redacted` — what services make is sound, and what they show
-/

namespace Outlays

/-! ## Sound faults -/

theorem FaultCode.isBlankText_fallback (c : FaultCode) : Text.isBlankText c.fallback = false := by
  cases c <;> decide

/-- The identifier in scope is not blank, if there is one. -/
def Scope.NotBlank (scope : Scope) : Prop := ∀ t ∈ scope, Text.isBlankText t = false

namespace Fault

/-- A fault that a reader takes as it is. -/
structure Sound (f : Fault) : Prop where
  message : Text.isBlankText f.message = false
  trace : Scope.NotBlank f.trace
  details : ∀ d ∈ f.details,
    d.numberless = true ∧ d ≠ .null ∧ Json.Reader.any detailsDepth d = .ok d

/-- The fault that a body tells, if it tells one. -/
def ofBytes? (body : List UInt8) : Option Fault :=
  (Json.parseBytes body).bind fun j => (read j).toOption

variable {f : Fault}

theorem Sound.notBlank (h : f.Sound) : f.NotBlank :=
  ⟨Text.isBlankText_eq_false_iff.mp h.message,
    fun t ht => Text.isBlankText_eq_false_iff.mp (h.trace t ht)⟩

/-- Details that a reader leaves as they are are kept, and it goes down to all of them. -/
theorem Sound.kept_and_shallow (h : f.Sound) :
    ∀ d ∈ f.details, d.Kept ∧ d.depth < detailsDepth := by
  intro d hd
  obtain ⟨⟨hreadable, hdepth⟩, hsettled⟩ := Json.Reader.any_eq_ok_iff.mp (h.details d hd).2.2
  exact ⟨⟨hreadable, hsettled⟩, hdepth⟩

/-- A sound fault is read back from its written form. -/
theorem Sound.read_toJson (h : f.Sound) : read f.toJson = .ok f := by
  rw [read_eq_readIn none, readIn_toJson h.notBlank (fun d hd => (h.kept_and_shallow d hd).1)
    fun d hd => (h.kept_and_shallow d hd).2, withoutNull_eq fun d hd => (h.details d hd).2.1]

/-- A sound fault is read back from its bytes. -/
theorem Sound.ofBytes?_renderBytes (h : f.Sound) : ofBytes? f.toJson.renderBytes = some f := by
  have hlegible := legible_toJson fun d hd => Json.legible_of_numberless d (h.details d hd).1
  rw [ofBytes?, hlegible.parseBytes_renderBytes, Option.bind_some, h.read_toJson]
  rfl

/-! ## Faults of a service -/

/-- A fault without details is sound as it is made: it has words of its own or those of its code. -/
theorem sound_make {scope : Scope} (hscope : scope.NotBlank)
    (code : FaultCode) (message : String) : (make scope code message).Sound := by
  have hsound (words : String) (hwords : Text.isBlankText words = false) :
      Sound ⟨code, words, scope, none⟩ :=
    { message := hwords
      trace := hscope
      details := by rintro d ⟨⟩ }
  by_cases hblank : Text.isBlankText message = true
  · have hmake : make scope code message = ⟨code, code.fallback, scope, none⟩ := by
      simp only [make, make?, hblank, if_true]
    rw [hmake]
    exact hsound _ code.isBlankText_fallback
  · have hmake : make scope code message = ⟨code, message, scope, none⟩ := by
      simp only [make, make?, hblank, if_false, Bool.false_eq_true]
    rw [hmake]
    exact hsound _ (Bool.eq_false_iff.mpr hblank)

theorem Sound.withTrace (h : f.Sound) {t : String} (ht : Text.isBlankText t = false) :
    (f.withTrace t).Sound ∧ (f.withTrace t).trace = some t := by
  rw [Fault.withTrace, ht]
  exact ⟨⟨h.message, fun _ h => Option.some.inj h ▸ ht, h.details⟩, rfl⟩

/-- A fault is sound also as clients see it, and has the identifier that it had. -/
theorem Sound.redacted {scope : Scope} (hscope : scope.NotBlank)
    (h : f.Sound) (htrace : f.trace = scope) :
    (f.redacted scope).Sound ∧ (f.redacted scope).trace = scope := by
  rw [Fault.redacted]
  split
  · -- A fault inside is made anew, and the identifier is put back.
    have hshown := sound_make hscope .internalError FaultCode.internalError.fallback
    rw [htrace]
    cases scope with
    | none =>
      obtain ⟨words, hmake⟩ := exists_make_eq none .internalError FaultCode.internalError.fallback
      exact ⟨hshown, by rw [hmake]⟩
    | some t => exact hshown.withTrace (hscope t rfl)
  · exact ⟨h, htrace⟩

end Fault

/-- The details of a refusal are one field, which names what is at fault. -/
theorem Refusal.exists_details?_eq (why : Refusal) :
    why.details? = none ∨ ∃ field, why.details? = some (.obj [("field", .str field)]) := by
  rw [details?]
  cases why.field? with
  | none => exact .inl rfl
  | some field => exact .inr ⟨field, rfl⟩

theorem Fault.Sound.withField {f : Fault} (h : f.Sound) (field : String) :
    (f.withDetails (.obj [("field", .str field)])).Sound where
  message := h.message
  trace := h.trace
  details := by
    rintro d ⟨⟩
    exact ⟨rfl, nofun, rfl⟩

/-- Whatever makes a request fail, the client is told a sound fault. -/
theorem Cause.sound_fault {scope : Scope} (hscope : scope.NotBlank)
    (cause : Cause) : (cause.fault scope).Sound := by
  have hmake := Fault.sound_make hscope cause.code cause.message
  cases cause with
  | failed how => exact hmake
  | refused why =>
    rw [fault]
    obtain hnone | ⟨field, hsome⟩ := why.exists_details?_eq
    · rw [details?, hnone]
      exact hmake
    · rw [details?, hsome]
      exact hmake.withField field

end Outlays
