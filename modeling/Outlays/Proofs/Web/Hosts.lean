import Outlays.Proofs.Text.Cuts
import Outlays.Proofs.Text.Quoting
import Outlays.Web.Host

/-!
# Characters of hosts

The host of an address of the web is a name without any character that divides addresses, or numbers
with colons between them in brackets. A name is read from a text that may hold anything; but what is
folded is searched for such characters, and what a label beyond ASCII is written as has only its own
ASCII characters, hyphens, letters and digits.

## Main definitions

* `Url.dividers` — the characters that divide an address into its parts
* `Host.IsWritten` — a name, or numbers in brackets

## Main results

* `Label.mem_encode` — the characters that a label is written in
* `Domain.notMem_of_toAscii?` — no divider stands in a domain name
* `Host.isWritten_of_read` — what is read as a host
-/

namespace Outlays

/-- The characters that divide an address into its parts. -/
def Url.dividers : List Char := ['/', '?', '#', '@', ':', '[', ']']

variable {c : Char} {cs : List Char}

/-! ## Labels -/

namespace Label

theorem threshold_le (bias position : ℕ) : threshold bias position ≤ 26 := by
  unfold threshold
  split
  · omega
  · split <;> omega

theorem exists_digit_of_mem_numeral {bias position n : ℕ} (h : c ∈ numeral bias position n) :
    ∃ d < 36, c = digit d := by
  have ht := threshold_le bias position
  rw [numeral] at h
  split at h
  · next hlast => exact ⟨n, by omega, List.mem_singleton.mp h⟩
  · next hmore =>
    rcases List.mem_cons.mp h with h | h
    · have hmod := Nat.mod_lt (n - threshold bias position)
        (show 0 < 36 - threshold bias position by omega)
      exact ⟨_, by omega, h⟩
    · exact exists_digit_of_mem_numeral h
termination_by n
decreasing_by
  have := threshold_pos bias position
  exact Nat.lt_of_le_of_lt (Nat.div_le_self _ _) (by omega)

/-- A character that is passed writes digits, or nothing. -/
theorem Writing.mem_pass {basic n : ℕ} {w : Writing} {d : Char} (h : c ∈ (w.pass basic n d).text) :
    c ∈ w.text ∨ ∃ d < 36, c = digit d := by
  unfold pass at h
  split at h
  · exact .inl h
  · split at h
    · exact (List.mem_append.mp h).imp_right exists_digit_of_mem_numeral
    · exact .inl h

theorem Writing.mem_foldl_pass {basic n : ℕ} {w : Writing}
    (h : c ∈ (cs.foldl (pass basic n) w).text) : c ∈ w.text ∨ ∃ d < 36, c = digit d := by
  induction cs generalizing w with
  | nil => exact .inl h
  | cons d cs ih =>
    rcases ih h with h | h
    · exact mem_pass h
    · exact .inr h

theorem Writing.mem_insertAll {basic n : ℕ} {w : Writing} {points : List ℕ}
    (h : c ∈ (insertAll cs basic n w points).text) : c ∈ w.text ∨ ∃ d < 36, c = digit d := by
  induction points generalizing n w with
  | nil => exact .inl h
  | cons m rest ih =>
    rcases ih h with h | h
    · -- The text is that of the pass, whatever distance is counted beside it.
      have hpassed := mem_foldl_pass h
      exact hpassed
    · exact .inr h

/-- A label is written in its own characters, hyphens, letters and digits. -/
theorem mem_encode (h : c ∈ encode cs) : c ∈ cs ∨ c = '-' ∨ ∃ d < 36, c = digit d := by
  -- The front of the label stands first, and what is inserted is written in digits.
  rcases Writing.mem_insertAll h with h | h
  · have hfront (hmem : c ∈ basic cs) : c ∈ cs := List.mem_of_mem_filter hmem
    dsimp only at h
    split at h
    · cases h
    · rcases List.mem_append.mp h with h | h
      · exact .inl (hfront h)
      · exact .inr (.inl (List.mem_singleton.mp h))
  · exact .inr (.inr h)

theorem digit_notMem_dividers : ∀ d < 36, digit d ∉ Url.dividers := by
  decide

end Label

/-! ## Domain names -/

/-- A label is written as it is, or in ASCII behind a mark. -/
theorem DomainLabel.ascii_of_read? {label : DomainLabel} (h : read? cs = some label) :
    label.ascii = cs ∨ label.ascii = mark ++ Label.encode cs := by
  have hchecked {p : Prop} [Decidable p] {found : DomainLabel}
      (h : (if p then some found else none) = some label) : found = label := by
    split at h
    · exact Option.some.inj h
    · cases h
  unfold read? at h
  dsimp only at h
  split at h
  · split at h
    · obtain ⟨found, hfound, h⟩ := Option.bind_eq_some_iff.mp h
      obtain ⟨chars, -, rfl⟩ := Option.map_eq_some_iff.mp hfound
      exact .inl (hchecked h ▸ rfl)
    · cases h
  · obtain ⟨found, hfound, h⟩ := Option.bind_eq_some_iff.mp h
    obtain rfl := Option.some.inj hfound
    rw [← hchecked h]
    dsimp only
    split
    · exact .inl rfl
    · exact .inr rfl

theorem DomainLabel.notMem_dividers {label : DomainLabel} (h : read? cs = some label)
    (hcs : ∀ c ∈ cs, c ∉ Url.dividers) (hc : c ∈ label.ascii) : c ∉ Url.dividers := by
  have hmark : ∀ c ∈ mark, c ∉ Url.dividers := by simp [mark, Url.dividers]
  obtain hascii | hascii := ascii_of_read? h
  · exact hcs c (hascii ▸ hc)
  · rw [hascii, List.mem_append] at hc
    obtain hc | hc := hc
    · exact hmark c hc
    · obtain hc | rfl | ⟨d, hd, rfl⟩ := Label.mem_encode hc
      · exact hcs c hc
      · decide
      · exact Label.digit_notMem_dividers d hd

theorem exists_of_mem_mapM {α β : Type} {f : α → Option β} {xs : List α} {ys : List β}
    (h : xs.mapM f = some ys) {y : β} (hy : y ∈ ys) : ∃ x ∈ xs, f x = some y := by
  induction xs generalizing ys with
  | nil =>
    obtain rfl := Option.some.inj h
    cases hy
  | cons x xs ih =>
    simp only [List.mapM_cons, Option.bind_eq_bind, Option.bind_eq_some_iff] at h
    obtain ⟨first, hfirst, rest, hrest, hys⟩ := h
    obtain rfl := Option.some.inj hys
    obtain rfl | hy := List.mem_cons.mp hy
    · exact ⟨x, List.mem_cons_self, hfirst⟩
    · obtain ⟨x', hx', hf⟩ := ih hrest hy
      exact ⟨x', List.mem_cons_of_mem x hx', hf⟩

namespace Domain

theorem notMem_dividers_of_not_isForbidden (h : isForbidden c = false) : c ∉ Url.dividers := by
  simp only [isForbidden, Bool.or_eq_false_iff, List.contains_eq_mem, decide_eq_false_iff_not,
    List.mem_cons, List.not_mem_nil, or_false, not_or] at h
  simp [Url.dividers, h]

/-- No divider stands in a domain name. -/
theorem notMem_of_toAscii? {name ascii : List Char} (h : toAscii? name = some ascii)
    (hc : c ∈ ascii) : c ∉ Url.dividers := by
  unfold toAscii? at h
  obtain ⟨folded, -, h⟩ := Option.bind_eq_some_iff.mp h
  dsimp only at h
  -- What is folded is searched before it is cut into labels.
  split at h
  · cases h
  next hforbidden =>
  have hfolded : ∀ c ∈ folded, c ∉ Url.dividers := by
    intro c hc
    refine notMem_dividers_of_not_isForbidden (Bool.eq_false_iff.mpr fun hbad => hforbidden ?_)
    exact List.any_eq_true.mpr ⟨c, hc, hbad⟩
  obtain ⟨labels, hlabels, h⟩ := Option.bind_eq_some_iff.mp h
  split at h
  · cases h
  obtain rfl := Option.some.inj h
  obtain rfl | ⟨piece, hpiece, hc⟩ := eq_or_exists_mem_of_mem_intercalate hc
  · decide
  · obtain ⟨label, hlabel, rfl⟩ := List.mem_map.mp hpiece
    obtain ⟨text, htext, hread⟩ := exists_of_mem_mapM hlabels hlabel
    refine DomainLabel.notMem_dividers hread (fun c hc => hfolded c ?_) hc
    exact (mem_and_ne_of_mem_splitOn htext hc).1

end Domain

/-! ## Hosts -/

namespace Host

/-- The text is a name without dividers, or numbers with colons between them in brackets. -/
def IsWritten (host : List Char) : Prop :=
  (∀ c ∈ host, c ∉ Url.dividers) ∨
    ∃ inner, host = '[' :: (inner ++ [']']) ∧ ∀ c ∈ inner, c = ':' ∨ c ∉ Url.dividers

theorem notMem_dividers_of_isDigit (h : c.isDigit = true) : c ∉ Url.dividers := by
  intro hmem
  have hnone : ∀ d ∈ Url.dividers, d.isDigit = false := by simp [Url.dividers]
  rw [hnone c hmem] at h
  cases h

/-- An address of version 4 is written in digits and points. -/
theorem notMem_of_version4? {ascii address : List Char} (h : version4? ascii = some address)
    (hc : c ∈ address) : c ∉ Url.dividers := by
  unfold version4? at h
  dsimp only at h
  split at h
  · cases h
  obtain ⟨numbers, -, h⟩ := Option.bind_eq_some_iff.mp h
  obtain ⟨last, -, h⟩ := Option.bind_eq_some_iff.mp h
  split at h
  · cases h
  obtain rfl := Option.some.inj h
  obtain rfl | ⟨byte, hbyte, hc⟩ := eq_or_exists_mem_of_mem_intercalate hc
  · decide
  · obtain ⟨i, -, rfl⟩ := List.mem_map.mp hbyte
    rw [Nat.repr_eq_ofList_toDigits, String.toList_ofList] at hc
    exact notMem_dividers_of_isDigit (Nat.isDigit_of_mem_toDigits (by omega) (by omega) hc)

theorem isWritten_renderVersion6 (pieces : List ℕ) : IsWritten (renderVersion6 pieces) := by
  have hdigit : ∀ d < 16, Nat.digitChar d ∉ Url.dividers := by decide
  have hshow {ps : List ℕ} {c : Char} (hc : c ∈ [':'].intercalate (ps.map (Nat.toDigits 16 ·))) :
      c = ':' ∨ c ∉ Url.dividers := by
    obtain rfl | ⟨digits, hdigits, hc⟩ := eq_or_exists_mem_of_mem_intercalate hc
    · exact .inl rfl
    · obtain ⟨n, -, rfl⟩ := List.mem_map.mp hdigits
      obtain ⟨d, hd, rfl⟩ := Text.exists_digitChar_of_mem_toDigits hc
      exact .inr (hdigit d hd)
  refine .inr ⟨_, rfl, fun c hc => ?_⟩
  split at hc
  · exact hshow hc
  · rw [List.mem_append, List.mem_append] at hc
    obtain (hc | hc) | hc := hc
    · exact hshow hc
    · exact .inl (by simpa using hc)
    · exact hshow hc

/-- What is read as the host of an address of the web. -/
theorem isWritten_of_read {text host : List Char} (h : read text = .ok host) : IsWritten host := by
  unfold read at h
  split at h
  -- Behind a bracket stand numbers, and anything else is a domain name that may come to numbers.
  · unfold readVersion6 at h
    split at h
    · obtain rfl := Except.ok.inj h
      exact isWritten_renderVersion6 _
    · cases h
  · unfold readDomain at h
    split at h
    · cases h
    · cases h
    · next ascii hascii =>
      split at h
      · split at h
        · next haddress =>
          obtain rfl := Except.ok.inj h
          exact .inl fun c hc => notMem_of_version4? haddress hc
        · cases h
      · obtain rfl := Except.ok.inj h
        exact .inl fun c hc => Domain.notMem_of_toAscii? hascii hc

end Host

end Outlays
