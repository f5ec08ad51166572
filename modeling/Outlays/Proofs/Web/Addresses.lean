import Outlays.Proofs.Web.Paths
import Outlays.Web.Url

/-!
# Addresses of servers

An address of a server is read from a text: it has an authority, and its path starts with a slash.
Seen from it, a reference of plain characters stands for the address at which the path goes on
behind its last slash; so what stands behind the last slash is lost, and so are query and fragment.

## Main definitions

* `Url.OnServer` — the address of a server on the web, with its authority and its path

## Main results

* `Url.exists_withTail_of_parse`, `Url.exists_onServer_of_parse` — an address of this scheme that is
  read is one of a server
* `Url.join_plain`, `Url.join_plain_slash` — where a plain reference leads
-/

namespace Outlays.Url

variable {scheme cs : List Char} {u base : Url}

/-! ## Reading -/

theorem exists_withTail_of_ofAuthority (h : ofAuthority scheme cs = .ok u) :
    ∃ (authority : Authority) (user : Option (List Char)) (text rest : List Char),
      readAuthority scheme (user.bind encodeUser) text = .ok authority ∧
        u = withTail scheme (some authority) (pathAfterAuthority scheme) rest := by
  unfold ofAuthority at h
  dsimp only at h
  split at h
  · cases h
  · cases hread : readAuthority scheme
        ((cutUser (authorityText (isWeb scheme) cs)).1.bind encodeUser)
        (cutUser (authorityText (isWeb scheme) cs)).2 with
    | error why =>
      rw [hread] at h
      cases h
    | ok authority =>
      rw [hread] at h
      exact ⟨authority, _, _, _, hread, (Except.ok.inj h).symm⟩

theorem scheme_of_ofOther (h : ofOther scheme cs = .ok u) : u.scheme = scheme := by
  unfold ofOther at h
  split at h
  · obtain ⟨authority, user, text, rest, -, rfl⟩ := exists_withTail_of_ofAuthority h
    rfl
  · obtain rfl := Except.ok.inj h
    rfl
  · obtain rfl := Except.ok.inj h
    rfl

theorem scheme_of_ofMachine (h : ofMachine cs = .ok u) : u.scheme = fileScheme := by
  unfold ofMachine at h
  dsimp only at h
  split at h
  · obtain rfl := Except.ok.inj h
    rfl
  · cases hread : readMachine ((Path.kept cs).takeWhile (!endsAuthority true ·)) with
    | error why =>
      rw [hread] at h
      cases h
    | ok host =>
      rw [hread] at h
      change (if _ then _ else _) = _ at h
      split at h
      · obtain rfl := Except.ok.inj h
        rfl
      · obtain rfl := Except.ok.inj h
        rfl

theorem scheme_of_ofFile (h : ofFile none cs = .ok u) : u.scheme = fileScheme := by
  unfold ofFile at h
  simp only [Option.filter_none, Option.bind_none, Option.getD_none] at h
  split at h
  · exact scheme_of_ofMachine h
  · split at h
    · obtain rfl := Except.ok.inj h
      unfold fromRoot
      rw [ite_self]
      rfl
    · obtain rfl := Except.ok.inj h
      unfold fromFile
      rw [ite_self]
      rfl

/-- The scheme is one of those that services use. -/
def IsHttp (scheme : List Char) : Prop := scheme = ['h', 't', 't', 'p'] ∨
  scheme = ['h', 't', 't', 'p', 's']

theorem IsHttp.isWeb (h : IsHttp scheme) : isWeb scheme = true := by
  rcases h with rfl | rfl <;> rfl

theorem IsHttp.ne_file (h : IsHttp scheme) : scheme ≠ fileScheme := by
  rcases h with rfl | rfl <;> decide

theorem IsHttp.pathKind_eq (h : IsHttp scheme) : pathKind scheme = ⟨true, false⟩ := by
  rw [pathKind, h.isWeb, beq_eq_false_iff_ne.mpr h.ne_file]

/-- The address is one of a server: there is an authority, and the path starts with a slash. -/
structure OnServer (u : Url) (server : Authority) (text : List Char) : Prop where
  scheme : IsHttp u.scheme
  authority : u.authority = some server
  path : u.path = .rooted text
  rooted : Path.Rooted text

theorem rooted_pathAfterAuthority (h : IsHttp scheme) (text : List Char) :
    Path.Rooted (pathAfterAuthority scheme text).text := by
  have hroot : Path.Rooted ['/'] := ⟨[], rfl⟩
  rw [pathAfterAuthority, h.pathKind_eq]
  dsimp only
  split
  · exact hroot
  · exact Path.rooted_follow rfl hroot _

/-- An address that is read alone and has such a scheme has an authority, and what follows it. -/
theorem exists_withTail_of_parse {text : String} (h : parse text = .ok u)
    (hscheme : IsHttp u.scheme) :
    ∃ (authority : Authority) (user : Option (List Char)) (text rest : List Char),
      readAuthority u.scheme (user.bind encodeUser) text = .ok authority ∧
        u = withTail u.scheme (some authority) (pathAfterAuthority u.scheme) rest := by
  unfold parse read at h
  dsimp only at h
  split at h
  · cases h
  · next hnone => cases hnone
  · next scheme n _ =>
    -- Of the three ways to read what is behind a scheme, only one is open to schemes of the web.
    split at h
    · exact absurd (scheme_of_ofFile h) hscheme.ne_file
    · split at h
      · rw [Option.filter_none] at h
        obtain ⟨authority, user, text, rest, hread, rfl⟩ := exists_withTail_of_ofAuthority h
        exact ⟨authority, user, text, rest, hread, rfl⟩
      · next hweb => exact absurd (scheme_of_ofOther h ▸ hscheme.isWeb) hweb

/-- So it is one of a server. -/
theorem exists_onServer_of_parse {text : String} (h : parse text = .ok u)
    (hscheme : IsHttp u.scheme) : ∃ server path, u.OnServer server path := by
  obtain ⟨authority, user, text, rest, -, hu⟩ := exists_withTail_of_parse h hscheme
  rw [hu]
  exact ⟨_, _, hscheme, rfl, rfl, rooted_pathAfterAuthority hscheme _⟩

/-! ## Plain references -/

/-- The address at another path, without a query and a fragment. -/
def moved (u : Url) (text : List Char) : Url :=
  { u with path := .rooted text, query := none, fragment := none }

theorem OnServer.moved {server : Authority} {path text : List Char} (h : u.OnServer server path)
    (htext : Path.Rooted text) : (u.moved text).OnServer server text :=
  ⟨h.scheme, h.authority, rfl, htext⟩

/-- The text is a plain segment, perhaps with a slash behind it. -/
structure PlainReference (cs : List Char) : Prop where
  plain : ∀ c ∈ cs, Path.IsPlain c ∨ c = '/'
  head : ∃ c rest, cs = c :: rest ∧ Path.IsPlain c

theorem PlainReference.laws (h : PlainReference cs) {c : Char} (hc : c ∈ cs) :
    0x20 < c.toNat ∧ Path.isIgnored c = false ∧ c ≠ ':' ∧ c ≠ '#' ∧ c ≠ '?' := by
  obtain hplain | rfl := h.plain c hc
  · obtain ⟨⟨houter, -⟩, hignored, -, hset, hpoint⟩ := hplain.laws
    refine ⟨houter, hignored, ?_, ?_, ?_⟩
    · rintro rfl
      exact hpoint (by decide)
    · rintro rfl
      cases hset
    · rintro rfl
      cases hset
  · decide

theorem dropWhile_outer (h : ∀ c ∈ cs, 0x20 < c.toNat) :
    cs.dropWhile (fun c => decide (c.toNat ≤ 0x20)) = cs := by
  cases cs with
  | nil => rfl
  | cons c rest =>
    have hc := h c List.mem_cons_self
    rw [List.dropWhile_cons_of_neg (by simpa using hc)]

theorem PlainReference.trim (h : PlainReference cs) : trim cs = cs := by
  have houter : ∀ c ∈ cs, 0x20 < c.toNat := fun c hc => (h.laws hc).1
  rw [Url.trim, dropWhile_outer houter,
    dropWhile_outer fun c hc => houter c (List.mem_reverse.mp hc), List.reverse_reverse]

theorem PlainReference.cutScheme? (h : PlainReference cs) : cutScheme? cs = none := by
  unfold Url.cutScheme?
  refine if_neg fun hcut => ?_
  rw [Bool.and_eq_true, beq_iff_eq] at hcut
  exact (h.laws (List.mem_of_getElem? hcut.2)).2.2.1 rfl

theorem PlainReference.cutTail (h : PlainReference cs) : cutTail cs = (cs, none, none) := by
  have hmark : cs.takeWhile (· != '#') = cs :=
    List.takeWhile_eq_self_iff.mpr fun c hc => by simpa using (h.laws hc).2.2.2.1
  have hquery : cs.takeWhile (· != '?') = cs :=
    List.takeWhile_eq_self_iff.mpr fun c hc => by simpa using (h.laws hc).2.2.2.2
  have hnone {c : Char} (hc : c = '#' ∨ c = '?') : cs.contains c = false := by
    rw [List.contains_eq_mem, decide_eq_false_iff_not]
    rintro hmem
    obtain rfl | rfl := hc
    · exact (h.laws hmem).2.2.2.1 rfl
    · exact (h.laws hmem).2.2.2.2 rfl
  simp only [Url.cutTail, hmark, hquery, hnone (.inl rfl), hnone (.inr rfl), Bool.false_eq_true,
    if_false]

theorem PlainReference.kept (h : PlainReference cs) : Path.kept cs = cs :=
  Path.kept_eq_self fun _ hc => (h.laws hc).2.1

theorem PlainReference.slashes (h : PlainReference cs) : slashes cs = 0 := by
  rw [Url.slashes, h.kept]
  obtain ⟨c, rest, rfl, hc⟩ := h.head
  rw [List.takeWhile_cons_of_neg (by simp [isAnySlash, Path.not_isSlash hc])]
  rfl

theorem PlainReference.ofBare? (h : PlainReference cs) (base : Url) : ofBare? base cs = none := by
  rw [Url.ofBare?, h.kept]
  obtain ⟨c, rest, rfl, hc⟩ := id h.head
  obtain ⟨-, -, -, hmark, hquery⟩ := h.laws List.mem_cons_self
  rw [List.head?_cons]
  split
  · next heq => cases heq
  · next heq => exact absurd (Option.some.inj heq) hmark
  · next heq => exact absurd (Option.some.inj heq) hquery
  · rfl

/-- A plain reference is read from behind the last slash of the path. -/
theorem OnServer.join_eq {server : Authority} {path : List Char} (h : base.OnServer server path)
    (hcs : PlainReference cs) :
    base.join (String.ofList cs) = .ok (withTail base.scheme base.authority
      (.follow (pathKind base.scheme) (Path.throughSlash path)) cs) := by
  have hfile : (base.scheme == fileScheme) = false := beq_eq_false_iff_ne.mpr h.scheme.ne_file
  -- No scheme is cut off from a plain reference, so it is read against the base.
  have hread : base.join (String.ofList cs) = ofReference base cs := by
    unfold join read
    dsimp only
    rw [String.toList_ofList, hcs.trim, hcs.kept, hcs.cutScheme?]
  have hdrop : Path.drop (pathKind base.scheme) path = Path.throughSlash path := by
    rw [Path.drop, h.scheme.pathKind_eq, Bool.false_and, if_neg Bool.false_ne_true]
  have hne : (Path.throughSlash path).isEmpty = false :=
    List.isEmpty_eq_false_iff.mpr (Path.throughSlash_ne_nil h.rooted.mem)
  rw [hread, ofReference, h.path]
  dsimp only
  rw [hfile, if_neg Bool.false_ne_true, ofRelative, hcs.slashes, hcs.ofBare?, hdrop]
  dsimp only
  rw [hne]
  rfl

theorem OnServer.withTail_eq {server : Authority} {path text : List Char}
    (h : base.OnServer server path) (hcs : PlainReference cs) {place : List Char → Path}
    (hplace : place cs = ⟨text, false⟩) :
    withTail base.scheme base.authority place cs = base.moved text := by
  rw [withTail, hcs.cutTail]
  dsimp only
  rw [hplace, h.authority, Url.moved, h.authority]
  rfl

/-- Seen from a server, a plain segment stands behind the last slash of the path. -/
theorem OnServer.join_plain {server : Authority} {path : List Char}
    (h : base.OnServer server path) (hne : cs ≠ []) (hplain : ∀ c ∈ cs, Path.IsPlain c) :
    base.join (String.ofList cs) = .ok (base.moved (Path.throughSlash path ++ cs)) := by
  have hkind : (pathKind base.scheme).drives = false := by rw [h.scheme.pathKind_eq]
  obtain ⟨c, rest, hcs⟩ := List.exists_cons_of_ne_nil hne
  have href : PlainReference cs :=
    ⟨fun c hc => .inl (hplain c hc), c, rest, hcs, hplain c (hcs ▸ List.mem_cons_self)⟩
  rw [h.join_eq href, h.withTail_eq href (Path.follow_plain hkind _ hne hplain)]

/-- So does a plain segment with a slash behind it. -/
theorem OnServer.join_plain_slash {server : Authority} {path : List Char}
    (h : base.OnServer server path) (hne : cs ≠ []) (hplain : ∀ c ∈ cs, Path.IsPlain c) :
    base.join (String.ofList (cs ++ ['/'])) =
      .ok (base.moved (Path.throughSlash path ++ cs ++ ['/'])) := by
  have hkind : (pathKind base.scheme).drives = false := by rw [h.scheme.pathKind_eq]
  obtain ⟨c, rest, hcs⟩ := List.exists_cons_of_ne_nil hne
  have href : PlainReference (cs ++ ['/']) := by
    have hc : c ∈ cs := hcs ▸ List.mem_cons_self
    refine ⟨?_, c, rest ++ ['/'], by rw [hcs, List.cons_append], hplain c hc⟩
    intro d hd
    obtain hd | hd := List.mem_append.mp hd
    · exact .inl (hplain d hd)
    · exact .inr (List.mem_singleton.mp hd)
  rw [h.join_eq href, h.withTail_eq href (Path.follow_plain_slash hkind _ hne hplain)]

end Outlays.Url
