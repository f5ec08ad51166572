import Outlays.Proofs.Results
import Outlays.Proofs.Web.Addresses
import Outlays.Proofs.Web.Escapes
import Outlays.Proofs.Web.Hosts

/-!
# What a written address says

An address is written part by part, and each part but the last one ends where a character stands
that it cannot have: the scheme at a colon, the user at an at sign, the host at a colon outside of
brackets, the authority at a slash, the path at a question mark, and path and query at a number
sign. So the text tells the parts, and no two addresses are written alike.

This is said of addresses whose parts are as they are when they have been read. The parts may have
been put together in another way since, like a path that goes on.

## Main definitions

* `Authority.text`, `Url.IsWritten` — the text of an authority, and parts that can be told apart
* `Url.Spells` — the text is that of the address, part by part

## Main results

* `Url.spells_render` — an address is written part by part
* `Url.Spells.unique` — a text spells one address
* `Url.exists_isWritten_of_parse` — what is read is made of such parts
-/

namespace Outlays

variable {c : Char}

/-! ## Authorities -/

theorem Host.IsWritten.notMem {host : List Char} (h : IsWritten host) (hc : c ∈ host) :
    c ∉ ['/', '?', '#', '@'] := by
  have hdivider : ∀ c ∈ ['/', '?', '#', '@'], c ∈ Url.dividers ∧ c ≠ '[' ∧ c ≠ ':' ∧ c ≠ ']' := by
    simp [Url.dividers]
  intro hmem
  obtain ⟨hin, hopen, hcolon, hclose⟩ := hdivider c hmem
  obtain hplain | ⟨inner, rfl, hinner⟩ := h
  · exact hplain c hc hin
  · simp only [List.mem_cons, List.mem_append, List.not_mem_nil, or_false] at hc
    obtain hc | hc | hc := hc
    · exact hopen hc
    · exact (hinner c hc).elim hcolon fun hnot => hnot hin
    · exact hclose hc

namespace Authority

/-- The text of a port, behind a colon. -/
def portText (a : Authority) : List Char := (a.port.map fun n => ':' :: n.repr.toList).getD []

/-- The text of an authority: the user in front of an at sign, the host and the port. -/
def text (a : Authority) : List Char :=
  (a.user.map (· ++ ['@'])).getD [] ++ (a.host ++ a.portText)

/-- The parts of the authority can be told apart, and nothing in it ends the authority. -/
structure IsWritten (a : Authority) : Prop where
  user : ∀ user ∈ a.user, ∀ c ∈ user, c ∉ ['/', '?', '#', '@']
  host : Host.IsWritten a.host

variable {a b : Authority}

theorem mem_portText (h : c ∈ a.portText) : c = ':' ∨ c.isDigit = true := by
  unfold portText at h
  cases hport : a.port with
  | none =>
    rw [hport] at h
    cases h
  | some n =>
    rw [hport, Option.map_some, Option.getD_some, Nat.repr_eq_ofList_toDigits,
      String.toList_ofList] at h
    exact (List.mem_cons.mp h).imp_right (Nat.isDigit_of_mem_toDigits (by omega) (by omega))

theorem head?_portText : ∀ c ∈ a.portText.head?, c = ':' := by
  unfold portText
  cases a.port <;> simp

theorem IsWritten.notMem_hostText (h : a.IsWritten) (hc : c ∈ a.host ++ a.portText) :
    c ∉ ['/', '?', '#', '@'] := by
  have hnone : ∀ d ∈ ['/', '?', '#', '@'], d ≠ ':' ∧ d.isDigit = false := by simp
  intro hmem
  obtain ⟨hcolon, hdigit⟩ := hnone c hmem
  obtain hc | hc := List.mem_append.mp hc
  · exact h.host.notMem hc hmem
  · obtain hc | hc := mem_portText hc
    · exact hcolon hc
    · rw [hdigit] at hc
      cases hc

/-- Nothing in an authority ends it. -/
theorem IsWritten.notMem_text (h : a.IsWritten) (hc : c ∈ a.text) : c ∉ ['/', '?', '#'] := by
  have hfew : ∀ d ∈ ['/', '?', '#'], d ∈ ['/', '?', '#', '@'] ∧ d ≠ '@' := by simp
  intro hmem
  obtain ⟨hin, hat⟩ := hfew c hmem
  obtain hc | hc := List.mem_append.mp hc
  · cases huser : a.user with
    | none =>
      rw [huser] at hc
      cases hc
    | some user =>
      rw [huser, Option.map_some, Option.getD_some, List.mem_append, List.mem_singleton] at hc
      obtain hc | hc := hc
      · exact h.user user huser c hc hin
      · exact hat hc
  · exact h.notMem_hostText hc hin

theorem port_eq_of_portText_eq (h : a.portText = b.portText) : a.port = b.port := by
  have hrepr {n m : ℕ} (h : n.repr.toList = m.repr.toList) : n = m := by
    rw [← Nat.ofDigitChars_ten_toDigits (n := n), ← Nat.ofDigitChars_ten_toDigits (n := m)]
    simpa [Nat.repr_eq_ofList_toDigits] using congrArg (Nat.ofDigitChars 10 · 0) h
  unfold portText at h
  cases ha : a.port with
  | none =>
    cases hb : b.port with
    | none => rfl
    | some m => simp [ha, hb] at h
  | some n =>
    cases hb : b.port with
    | none => simp [ha, hb] at h
    | some m =>
      simp only [ha, hb, Option.map_some, Option.getD_some, List.cons.injEq, true_and] at h
      rw [hrepr h]

/-- A name does not start with a bracket, and neither does a port. -/
theorem append_portText_ne {rest : List Char} (h : ∀ c ∈ a.host, c ∉ Url.dividers) :
    a.host ++ a.portText ≠ '[' :: rest := by
  intro heq
  cases hhost : a.host with
  | nil =>
    rw [hhost, List.nil_append] at heq
    cases head?_portText '[' (by rw [heq]; rfl)
  | cons c host =>
    rw [hhost, List.cons_append] at heq
    obtain ⟨rfl, -⟩ := List.cons.inj heq
    exact h '[' (hhost ▸ List.mem_cons_self) (by decide)

/-- A host tells where it ends: at a colon, or at the bracket behind its numbers. -/
theorem IsWritten.host_eq (ha : a.IsWritten) (hb : b.IsWritten)
    (h : a.host ++ a.portText = b.host ++ b.portText) :
    a.host = b.host ∧ a.portText = b.portText := by
  obtain hname | ⟨inner, hinner, hclosed⟩ := ha.host
  · obtain hname' | ⟨inner', hinner', -⟩ := hb.host
    -- Both are names, and end at the colon of the port.
    · have hcolon {host : List Char} (hname : ∀ c ∈ host, c ∉ Url.dividers) :
          ∀ c ∈ host, (c == ':') = false := by
        intro c hc
        rw [beq_eq_false_iff_ne]
        rintro rfl
        exact hname ':' hc (by decide)
      exact eq_of_append_eq_append (hcolon hname) (hcolon hname')
        (fun c hc => beq_iff_eq.mpr (head?_portText c hc))
        (fun c hc => beq_iff_eq.mpr (head?_portText c hc)) h
    · rw [hinner', List.cons_append] at h
      exact absurd h (append_portText_ne hname)
  · obtain hname' | ⟨inner', hinner', hclosed'⟩ := hb.host
    · rw [hinner, List.cons_append] at h
      exact absurd h.symm (append_portText_ne hname')
    -- Both are numbers, which have colons in them but no bracket.
    · have hbracket {inner : List Char} (hclosed : ∀ c ∈ inner, c = ':' ∨ c ∉ Url.dividers) :
          ']' ∉ inner := by
        intro hmem
        obtain hcolon | hnot := hclosed _ hmem
        · cases hcolon
        · exact hnot (by decide)
      rw [hinner, hinner'] at h ⊢
      simp only [List.cons_append, List.append_assoc, List.nil_append, List.cons.injEq,
        true_and] at h
      obtain ⟨rfl, hport⟩ :=
        (append_cons_eq_append_cons_iff (hbracket hclosed) (hbracket hclosed')).mp h
      exact ⟨rfl, hport⟩

/-- An authority is known by its text. -/
theorem IsWritten.unique (ha : a.IsWritten) (hb : b.IsWritten) (h : a.text = b.text) : a = b := by
  -- Without a user there is no at sign that could end one.
  have hat {a : Authority} {back : List Char} (ha : a.IsWritten) {user : List Char} :
      a.host ++ a.portText ≠ user ++ '@' :: back := by
    intro heq
    exact ha.notMem_hostText (by rw [heq]; simp) (show '@' ∈ ['/', '?', '#', '@'] by decide)
  have hsame (huser : a.user = b.user) (h : a.host ++ a.portText = b.host ++ b.portText) :
      a = b := by
    obtain ⟨hhost, hport⟩ := ha.host_eq hb h
    calc
      a = ⟨a.user, a.host, a.port⟩ := rfl
      _ = ⟨b.user, b.host, b.port⟩ := by rw [huser, hhost, port_eq_of_portText_eq hport]
      _ = b := rfl
  unfold text at h
  cases huser : a.user with
  | none =>
    cases huser' : b.user with
    | none => exact hsame (by rw [huser, huser']) (by simpa [huser, huser'] using h)
    | some user' => exact absurd (by simpa [huser, huser'] using h) (hat ha)
  | some user =>
    cases huser' : b.user with
    | none => exact absurd (by simpa [huser, huser'] using h.symm) (hat hb)
    | some user' =>
      have hnot {a : Authority} (ha : a.IsWritten) {user : List Char} (huser : a.user = some user) :
          '@' ∉ user := fun hmem => ha.user user huser '@' hmem (by decide)
      simp only [huser, huser', Option.map_some, Option.getD_some, List.append_assoc,
        List.singleton_append] at h
      obtain ⟨rfl, hrest⟩ :=
        (append_cons_eq_append_cons_iff (hnot ha huser) (hnot hb huser')).mp h
      exact hsame (by rw [huser, huser']) hrest

end Authority

/-! ## Paths -/

/-- What may not stand in a part does not stand there, escaped or not. -/
theorem notMem_of_mem_encode {set : Char → Bool} {marks cs : List Char}
    (hset : marks.all set = true) (hmarks : marks ⊆ ['/', '?', '#', '@'])
    (h : c ∈ Percent.encode set cs) : c ∉ marks := by
  intro hmem
  obtain ⟨-, hplain | hnot⟩ := Percent.mem_encode h
  · rw [List.all_eq_true.mp hset c hmem] at hplain
    cases hplain
  · exact hnot (hmarks hmem)

namespace Path

variable {kind : PathKind} {text : List Char}

theorem mem_of_mem_above (hkind : kind.drives = false) (h : c ∈ above kind text) : c ∈ text := by
  have hthrough {text : List Char} (h : c ∈ throughSlash text) : c ∈ text :=
    List.mem_reverse.mp ((List.dropWhile_sublist _).subset (List.mem_reverse.mp h))
  rw [above, drop, hkind, Bool.false_and, if_neg Bool.false_ne_true] at h
  have h := hthrough h
  unfold dropSlash at h
  dsimp only at h
  split at h
  · exact List.dropLast_subset text h
  · exact h

theorem notMem_closed (h : ∀ c ∈ text, c ∉ ['?', '#']) : ∀ c ∈ closed text, c ∉ ['?', '#'] := by
  unfold closed
  split
  · exact h
  · intro c hc
    obtain hc | hc := List.mem_append.mp hc
    · exact h c hc
    · obtain rfl := List.mem_singleton.mp hc
      decide

/-- No segment brings a mark into a path. -/
theorem notMem_step (hkind : kind.drives = false) {path : Path}
    (h : ∀ c ∈ path.text, c ∉ ['?', '#']) (segment : List Char) (isEnded : Bool) :
    ∀ c ∈ (step kind Percent.pathSet path segment isEnded).text, c ∉ ['?', '#'] := by
  have habove : ∀ c ∈ above kind path.text, c ∉ ['?', '#'] :=
    fun c hc => h c (mem_of_mem_above hkind hc)
  rw [step_eq hkind]
  dsimp only
  split
  · split
    · exact notMem_closed habove
    · exact habove
  · split
    · exact notMem_closed h
    · intro c hc
      rw [List.mem_append, List.mem_append] at hc
      obtain (hc | hc) | hc := hc
      · exact h c hc
      · exact notMem_of_mem_encode rfl (by simp) hc
      · split at hc
        · obtain rfl := List.mem_singleton.mp hc
          decide
        · cases hc

theorem notMem_steps (hkind : kind.drives = false) (segments : List (List Char)) {path : Path}
    (h : ∀ c ∈ path.text, c ∉ ['?', '#']) :
    ∀ c ∈ (steps kind Percent.pathSet path segments).text, c ∉ ['?', '#'] := by
  induction segments generalizing path with
  | nil => exact h
  | cons segment rest ih =>
    cases rest with
    | nil => exact notMem_step hkind h segment false
    | cons next rest => exact ih (notMem_step hkind h segment true)

theorem notMem_follow (hkind : kind.drives = false) {front : List Char}
    (h : ∀ c ∈ front, c ∉ ['?', '#']) (text : List Char) :
    ∀ c ∈ (follow kind front text).text, c ∉ ['?', '#'] := by
  rw [follow, settled_eq hkind]
  exact notMem_steps hkind _ h

end Path

/-! ## Addresses -/

namespace Url

/-- The text of a part that may be missing, behind the mark in front of it. -/
def marked (mark : Char) (part : Option (List Char)) : List Char :=
  (part.map (mark :: ·)).getD []

/-- The address is one of a server, and nothing in a part of it ends the part. -/
structure IsWritten (u : Url) (server : Authority) (path : List Char) : Prop where
  onServer : u.OnServer server path
  server : server.IsWritten
  path : ∀ c ∈ path, c ∉ ['?', '#']
  query : ∀ query ∈ u.query, '#' ∉ query

/-- The text spells the address, part by part, and no part can be taken for another one. -/
def Spells (text : String) (u : Url) : Prop :=
  ∃ server path, u.IsWritten server path ∧
    text.toList = u.scheme ++ ':' :: '/' :: '/' :: (server.text ++
      (path ++ (marked '?' u.query ++ marked '#' u.fragment)))

variable {u v : Url} {server : Authority} {path : List Char}

theorem IsWritten.eq (h : u.IsWritten server path) :
    u = ⟨u.scheme, some server, .rooted path, u.query, u.fragment⟩ := by
  rw [← h.onServer.authority, ← h.onServer.path]

/-- An address is written part by part. -/
theorem spells_render (h : u.IsWritten server path) : Spells u.render u := by
  refine ⟨server, path, h, ?_⟩
  rw [render, String.toList_ofList, h.onServer.authority, h.onServer.path]
  cases huser : server.user <;> cases hport : server.port <;>
    simp [renderAuthority, renderPath, Authority.text, Authority.portText, marked, huser, hport]

/-! ### One address for a text -/

theorem head?_marked {mark : Char} {part : Option (List Char)} :
    ∀ c ∈ (marked mark part).head?, c = mark := by
  cases part <;> simp [marked]

theorem eq_of_marked_eq {mark : Char} {part part' : Option (List Char)}
    (h : marked mark part = marked mark part') : part = part' := by
  cases part <;> cases part' <;> simp_all [marked]

/-- The query ends where the fragment begins. -/
theorem eq_of_marked_append_eq {query query' fragment fragment' : Option (List Char)}
    (h : ∀ q ∈ query, '#' ∉ q) (h' : ∀ q ∈ query', '#' ∉ q)
    (heq : marked '?' query ++ marked '#' fragment = marked '?' query' ++ marked '#' fragment') :
    query = query' ∧ fragment = fragment' := by
  have hinside {query : Option (List Char)} (h : ∀ q ∈ query, '#' ∉ q) :
      ∀ c ∈ marked '?' query, (c == '#') = false := by
    intro c hc
    rw [beq_eq_false_iff_ne]
    rintro rfl
    cases query with
    | none => cases hc
    | some q =>
      obtain hmark | hc := List.mem_cons.mp hc
      · cases hmark
      · exact h q rfl hc
  obtain ⟨hquery, hfragment⟩ := eq_of_append_eq_append (hinside h) (hinside h')
    (fun c hc => beq_iff_eq.mpr (head?_marked c hc))
    (fun c hc => beq_iff_eq.mpr (head?_marked c hc)) heq
  exact ⟨eq_of_marked_eq hquery, eq_of_marked_eq hfragment⟩

theorem IsHttp.colon_notMem {scheme : List Char} (h : IsHttp scheme) : ':' ∉ scheme := by
  obtain rfl | rfl := h <;> decide

/-- What stands behind a path begins with a mark. -/
theorem head?_marked_append {query fragment : Option (List Char)} :
    ∀ c ∈ (marked '?' query ++ marked '#' fragment).head?, (c == '?' || c == '#') = true := by
  cases query <;> cases fragment <;> simp [marked]

theorem IsWritten.head?_path (h : u.IsWritten server path) (tail : List Char) :
    ∀ c ∈ (path ++ tail).head?, (c == '/') = true := by
  obtain ⟨rest, rfl⟩ := h.onServer.rooted
  simp

/-- A text spells one address. -/
theorem Spells.unique {text : String} (h : Spells text u) (h' : Spells text v) : u = v := by
  obtain ⟨server, path, hu, htext⟩ := h
  obtain ⟨server', path', hv, htext'⟩ := h'
  have hslash {u : Url} {server : Authority} {path : List Char} (hu : u.IsWritten server path) :
      ∀ c ∈ server.text, (c == '/') = false := by
    intro c hc
    rw [beq_eq_false_iff_ne]
    rintro rfl
    exact hu.server.notMem_text hc (by decide)
  have hmark {u : Url} {server : Authority} {path : List Char} (hu : u.IsWritten server path) :
      ∀ c ∈ path, (c == '?' || c == '#') = false := by
    intro c hc
    simpa using hu.path c hc
  -- The text is cut at the colon, before the slash of the path, and before the marks behind it.
  obtain ⟨hscheme, hrest⟩ := (append_cons_eq_append_cons_iff hu.onServer.scheme.colon_notMem
    hv.onServer.scheme.colon_notMem).mp (htext.symm.trans htext')
  obtain ⟨hserver, hrest⟩ := eq_of_append_eq_append (hslash hu) (hslash hv) (hu.head?_path _)
    (hv.head?_path _) (List.cons.inj (List.cons.inj hrest).2).2
  obtain ⟨hpath, hrest⟩ := eq_of_append_eq_append (hmark hu) (hmark hv) head?_marked_append
    head?_marked_append hrest
  obtain ⟨hquery, hfragment⟩ := eq_of_marked_append_eq hu.query hv.query hrest
  rw [hu.eq, hv.eq, hscheme, hu.server.unique hv.server hserver, hpath, hquery, hfragment]

/-! ### Addresses that are read -/

theorem notMem_of_encodeUser {cs user : List Char} (h : encodeUser cs = some user)
    (hc : c ∈ user) : c ∉ ['/', '?', '#', '@'] := by
  have hencoded {cs : List Char} (hc : c ∈ Percent.encode Percent.userSet cs) :
      c ∉ ['/', '?', '#', '@'] :=
    notMem_of_mem_encode rfl (List.Subset.refl _) hc
  unfold encodeUser at h
  dsimp only at h
  split at h
  · cases h
  obtain rfl := Option.some.inj h
  obtain hc | hc := List.mem_append.mp hc
  · exact hencoded hc
  · split at hc
    · cases hc
    · obtain rfl | hc := List.mem_cons.mp hc
      · decide
      · exact hencoded hc

theorem isWritten_of_readAuthority {scheme text : List Char} {user : Option (List Char)}
    (hweb : isWeb scheme = true)
    (h : readAuthority scheme (user.bind encodeUser) text = .ok server) : server.IsWritten := by
  unfold readAuthority at h
  obtain ⟨host, hhost, h⟩ := exists_of_bind_eq_ok h
  dsimp only at h
  split at h
  · cases h
  obtain ⟨port, -, h⟩ := exists_of_bind_eq_ok h
  obtain rfl := Except.ok.inj h
  constructor
  case user =>
    intro name hname c hc
    obtain ⟨cs, -, hencode⟩ := Option.bind_eq_some_iff.mp hname
    exact notMem_of_encodeUser hencode hc
  case host =>
    rw [if_pos hweb, mapError_eq_ok_iff] at hhost
    exact Host.isWritten_of_read hhost

theorem notMem_pathAfterAuthority {scheme text : List Char} (hscheme : IsHttp scheme) :
    ∀ c ∈ (pathAfterAuthority scheme text).text, c ∉ ['?', '#'] := by
  have hroot : ∀ c ∈ ['/'], c ∉ ['?', '#'] := by simp
  rw [pathAfterAuthority, hscheme.pathKind_eq]
  dsimp only
  split
  · exact hroot
  · exact Path.notMem_follow rfl hroot _

/-- What is read is made of parts that can be told apart. -/
theorem exists_isWritten_of_parse {text : String} (h : parse text = .ok u)
    (hscheme : IsHttp u.scheme) : ∃ server path, u.IsWritten server path := by
  obtain ⟨authority, user, cs, rest, hread, hu⟩ := exists_withTail_of_parse h hscheme
  have hauthority := isWritten_of_readAuthority hscheme.isWeb hread
  rw [hu]
  refine ⟨_, _, ⟨hscheme, rfl, rfl, rooted_pathAfterAuthority hscheme _⟩, ?_,
    notMem_pathAfterAuthority hscheme, ?_⟩
  · -- A drive that takes the place of the host leaves an empty one.
    split
    · exact ⟨hauthority.user, .inl nofun⟩
    · exact hauthority
  · intro query hquery hmem
    obtain ⟨q, -, rfl⟩ := Option.map_eq_some_iff.mp hquery
    rw [hscheme.isWeb] at hmem
    have hnot : '#' ∉ ['#'] := notMem_of_mem_encode rfl (by simp) hmem
    exact hnot (List.mem_singleton_self '#')

end Url

end Outlays
