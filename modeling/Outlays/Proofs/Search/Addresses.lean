import Outlays.Proofs.Web.Addresses
import Outlays.Search.Request

/-!
# Where requests to the search index go

An index is known by the address of a server and by a name, and every request goes to an address
below that of the index. The name is put behind the last slash of the server's path. That is below
the server's address if its path ends in a slash. If it does not, the last segment of the path gives
way to the name, so that an index below `http://search/es` is looked for at
`http://search/transactions/`.

## Main definitions

* `SearchIndex.Names` — a text that names an index, perhaps between slashes
* `SearchIndex.pathUnder` — the path of a request below the path of a server

## Main results

* `SearchIndex.address_under_base_iff` — where requests go, and when that is below the server
-/

namespace Outlays.SearchIndex

variable {base : Url} {given : String} {name path : List Char}

/-- The text names an index: a segment of plain characters, perhaps with slashes around it. -/
structure Names (given : String) (name : List Char) : Prop where
  nonempty : name ≠ []
  plain : ∀ c ∈ name, Path.IsPlain c
  between : ∃ before after : ℕ,
    given.toList = List.replicate before '/' ++ name ++ List.replicate after '/'

/-- The path of a request below a path, whether that ends in a slash or not. -/
def pathUnder (path name : List Char) (request : SearchRequest) : List Char :=
  (if Path.endsInSlash path then path.dropLast else path) ++
    '/' :: (name ++ '/' :: request.endpoint.toList)

/-- The path of a request behind the last slash of a path. -/
def pathBehind (path name : List Char) (request : SearchRequest) : List Char :=
  Path.throughSlash path ++ (name ++ '/' :: request.endpoint.toList)

/-- What is behind the last slash of a path is below the path if that ends in a slash. -/
theorem pathBehind_eq_pathUnder_iff {request : SearchRequest} (h : Path.Rooted path) :
    pathBehind path name request = pathUnder path name request ↔ Path.endsInSlash path = true := by
  constructor
  · intro heq
    -- Otherwise the one has a segment more than the other, and is longer.
    by_contra hends
    rw [pathBehind, pathUnder, if_neg hends] at heq
    have hlength := congrArg List.length heq
    have hparts := congrArg List.length (Path.throughSlash_append_lastSegment path)
    simp only [List.length_append, List.length_cons] at hlength hparts
    omega
  · intro hends
    obtain ⟨front, rfl⟩ := Path.endsInSlash_iff.mp hends
    rw [pathBehind, pathUnder, if_pos hends, Path.throughSlash_closed, List.dropLast_concat,
      List.append_assoc, List.singleton_append]

theorem plain_endpoint (request : SearchRequest) :
    request.endpoint.toList ≠ [] ∧ ∀ c ∈ request.endpoint.toList, Path.IsPlain c := by
  have hall : ∀ text ∈ ["_count", "_search"],
      text.toList ≠ [] ∧ text.toList.all (fun c => decide (Path.IsPlain c)) = true := by
    decide
  have hrequest : request.endpoint ∈ ["_count", "_search"] := by
    cases request with
    | count query => exact List.mem_cons_self
    | groups query grouping | totals query grouping size =>
      exact List.mem_cons_of_mem _ List.mem_cons_self
  obtain ⟨hne, hplain⟩ := hall _ hrequest
  exact ⟨hne, Path.isPlain_of_all hplain⟩

theorem dropWhile_slashes (before : ℕ) {c : Char} (hc : Path.IsPlain c) (rest : List Char) :
    (List.replicate before '/' ++ c :: rest).dropWhile (· == '/') = c :: rest := by
  have hslash := Path.not_isSlash hc false
  rw [List.dropWhile_append_of_pos (by simp [List.mem_replicate]), List.dropWhile_cons_of_neg]
  simpa [Path.isSlash] using hslash

/-- Slashes around the name make no difference. -/
theorem Names.trimmed (h : Names given name) :
    ((given.toList.dropWhile (· == '/')).reverse.dropWhile (· == '/')).reverse = name := by
  obtain ⟨before, after, hgiven⟩ := h.between
  obtain ⟨c, rest, hfirst⟩ := List.exists_cons_of_ne_nil h.nonempty
  obtain ⟨d, front, hlast⟩ := List.exists_cons_of_ne_nil (List.reverse_ne_nil_iff.mpr h.nonempty)
  have hc : Path.IsPlain c := h.plain c (hfirst ▸ List.mem_cons_self)
  have hd : Path.IsPlain d := h.plain d (List.mem_reverse.mp (hlast ▸ List.mem_cons_self))
  rw [hgiven, List.append_assoc, hfirst, List.cons_append, dropWhile_slashes before hc,
    ← List.cons_append, ← hfirst, List.reverse_append, List.reverse_replicate, hlast,
    dropWhile_slashes after hd, ← hlast, List.reverse_reverse]

/-- The index is at its name, behind the last slash of the server's path. -/
theorem make_eq_ok {server : Authority} (h : base.OnServer server path) (hname : Names given name) :
    make base given = .ok ⟨base.moved (Path.throughSlash path ++ name ++ ['/'])⟩ := by
  rw [make, hname.trimmed, h.join_plain_slash hname.nonempty hname.plain]

/-- The address at a path of the server, without the user. -/
def target (base : Url) (server : Authority) (path : List Char) : Url where
  scheme := base.scheme
  authority := some { server with user := none }
  path := .rooted path
  query := none
  fragment := none

/-- What comes of a request to an address. -/
def asked (u : Url) : Except Failure Url :=
  if isAskable u then .ok u
  else .error (.unreachable .search s!"builder error for url ({u.render})")

/-- A request goes to the path of the index, with its own endpoint behind it. -/
theorem address_eq {server : Authority} (h : base.OnServer server path) (request : SearchRequest) :
    address ⟨base.moved (Path.throughSlash path ++ name ++ ['/'])⟩ request =
      asked (target base server (pathBehind path name request)) := by
  have hmoved := h.moved ((h.rooted.throughSlash.append name).append ['/'])
  obtain ⟨hne, hplain⟩ := plain_endpoint request
  have hjoin := hmoved.join_plain hne hplain
  have hpath : Path.throughSlash path ++ name ++ ['/'] ++ request.endpoint.toList =
      pathBehind path name request := by
    rw [pathBehind, List.append_assoc, List.append_assoc, List.singleton_append]
  have htarget : (base.moved (pathBehind path name request)).withoutUser =
      target base server (pathBehind path name request) := by
    rw [Url.withoutUser, Url.moved, h.authority]
    rfl
  rw [String.ofList_toList, Path.throughSlash_closed, hpath] at hjoin
  rw [address, hjoin, ← htarget]
  rfl

/-- At every server an index can be made of every name, and each request goes to the server, behind
the last slash of its path. That is below the path of the server if and only if the path ends in a
slash; otherwise the last segment of the path is lost. -/
theorem address_under_base_iff {text : String} (hbase : Url.parse text = .ok base)
    (hscheme : Url.IsHttp base.scheme) (hname : Names given name) :
    ∃ server path index, base.OnServer server path ∧ make base given = .ok index ∧
      ∀ request,
        index.address request = asked (target base server (pathBehind path name request)) ∧
        (pathBehind path name request = pathUnder path name request ↔
          Path.endsInSlash path = true) := by
  obtain ⟨server, path, h⟩ := Url.exists_onServer_of_parse hbase hscheme
  exact ⟨server, path, _, h, make_eq_ok h hname, fun request =>
    ⟨address_eq h request, pathBehind_eq_pathUnder_iff h.rooted⟩⟩

/-- A server with a path that ends in a slash. -/
def cluster : Url where
  scheme := ['h', 't', 't', 'p']
  authority := some ⟨none, ['s', 'e', 'a', 'r', 'c', 'h'], some 9200⟩
  path := .rooted ['/', 'e', 's', '/']
  query := none
  fragment := none

theorem address_under_base_iff_cluster :
    Url.parse "http://search:9200/es/" = .ok cluster ∧ Url.IsHttp cluster.scheme ∧
    Names "/transactions/" "transactions".toList ∧
    ∃ server path index, cluster.OnServer server path ∧ make cluster "/transactions/" = .ok index ∧
      ∀ request,
        index.address request =
          asked (target cluster server (pathBehind path "transactions".toList request)) ∧
        (pathBehind path "transactions".toList request =
          pathUnder path "transactions".toList request ↔ Path.endsInSlash path = true) := by
  have hbase : Url.parse "http://search:9200/es/" = .ok cluster := by decide +kernel
  have hname : Names "/transactions/" "transactions".toList :=
    ⟨by decide, Path.isPlain_of_all (by decide), 1, 1, by decide⟩
  exact ⟨hbase, .inl rfl, hname, address_under_base_iff hbase (.inl rfl) hname⟩

/-- The same server without the slash at the end. A count goes past its path. -/
theorem not_under_base_withoutSlash :
    Url.parse "http://search:9200/es" = .ok { cluster with path := .rooted ['/', 'e', 's'] } ∧
    Names "transactions" "transactions".toList ∧
    ((make { cluster with path := .rooted ['/', 'e', 's'] } "transactions").bind fun index =>
      index.address (.count (.all [] []))) =
        .ok { cluster with path := .rooted "/transactions/_count".toList } ∧
    pathUnder ['/', 'e', 's'] "transactions".toList (.count (.all [] [])) =
      "/es/transactions/_count".toList := by
  have hname : Names "transactions" "transactions".toList :=
    ⟨by decide, Path.isPlain_of_all (by decide), 0, 0, by decide⟩
  exact ⟨by decide +kernel, hname, by decide +kernel, by decide⟩

end Outlays.SearchIndex
