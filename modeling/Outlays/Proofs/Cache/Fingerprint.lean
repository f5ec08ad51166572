import Outlays.Proofs.Text.Cuts
import Outlays.Proofs.Text.Sorted
import Outlays.Web.Request

/-!
# What a fingerprint identifies

The fingerprint of a request is the digest of its material: the method, the path and the sorted
query, each ended by a zero byte, and then the body. Where the parts hold no zero byte themselves,
the material can be cut again, so it identifies the parts. Sorting forgets the order of the pairs
of a query and nothing else, and nothing that reads a query looks at their order: a name may stand
once, and the pairs under other names are passed over.

So two requests with one fingerprint ask for the same, unless the digest takes two different
materials to the same bytes. That it does not is assumed only of the two materials at hand.

## Main definitions

* `WebRequest.ZeroFree` — no zero byte in the parts that end with one
* `WebRequest.material` — the bytes whose digest is the fingerprint at an endpoint

## Main results

* `CacheKey.queryPairs_canonicalQuery`, `CacheKey.canonicalQuery_eq_iff` — sorting a query keeps
  its pairs, and forgets only their order
* `CacheKey.material_eq_iff` — the parts that a material stands for
* `Endpoint.call_eq_of_perm` — the order of the pairs does not count
* `WebRequest.fingerprint_identifies` — the three together
-/

namespace Outlays

/-! ## Texts as bytes -/

namespace Text

/-- Texts with the same bytes are the same. -/
theorem encode_injective : Function.Injective encode := by
  have hbytes (s : String) : (encode s).toByteArray = s.toByteArray := by
    conv_rhs => rw [← String.ofList_toList (s := s), String.toByteArray_ofList]
    rfl
  intro s t h
  rw [← String.toByteArray_inj, ← hbytes, ← hbytes, h]

/-- A byte of a text is a byte of one of its characters. -/
theorem mem_encode_iff {b : UInt8} {s : String} :
    b ∈ encode s ↔ ∃ c ∈ s.toList, b ∈ String.utf8EncodeChar c :=
  List.mem_flatMap

end Text

namespace CacheKey

/-! ## Sorted queries -/

variable {query other : String}

/-- A pair is a piece of the query, and not empty. -/
theorem mem_queryPairs_iff {p : String} :
    p ∈ queryPairs query ↔ p.toList ∈ query.toList.splitOn '&' ∧ p.toList ≠ [] := by
  simp only [queryPairs, List.mem_map, List.mem_filter, Bool.not_eq_true',
    List.isEmpty_eq_false_iff]
  constructor
  · rintro ⟨cs, hcs, rfl⟩
    rwa [String.toList_ofList]
  · intro h
    exact ⟨p.toList, h, String.ofList_toList⟩

/-- A sorted query has the same pairs. -/
theorem queryPairs_canonicalQuery (query : String) :
    queryPairs (canonicalQuery query) = Text.sorted (queryPairs query) := by
  -- What is joined with a separator is cut there and nowhere else.
  have hpairs : ∀ p ∈ Text.sorted (queryPairs query), '&' ∉ p.toList ∧ p.toList ≠ [] := by
    intro p hp
    obtain ⟨hpiece, hne⟩ := mem_queryPairs_iff.mp ((Text.sorted_perm _).mem_iff.mp hp)
    exact ⟨fun h => (mem_and_ne_of_mem_splitOn hpiece h).2 rfl, hne⟩
  rw [canonicalQuery]
  generalize Text.sorted (queryPairs query) = pairs at hpairs
  by_cases hnil : pairs = []
  · subst hnil
    rfl
  · have hsplit : (String.intercalate "&" pairs).toList.splitOn '&' = pairs.map String.toList := by
      rw [String.toList_intercalate]
      refine List.splitOn_intercalate '&' ?_ (by simpa using hnil)
      simpa using fun p hp => (hpairs p hp).1
    have hfilter : (pairs.map String.toList).filter (!·.isEmpty) = pairs.map String.toList := by
      rw [List.filter_eq_self]
      simpa using fun p hp => (hpairs p hp).2
    rw [queryPairs, hsplit, hfilter, List.map_map]
    exact (List.map_congr_left fun p _ => String.ofList_toList).trans (List.map_id pairs)

/-- Sorting a query forgets the order of its pairs, and nothing else that counts. -/
theorem canonicalQuery_eq_iff :
    canonicalQuery query = canonicalQuery other ↔ (queryPairs query).Perm (queryPairs other) := by
  constructor
  · intro h
    rw [← Text.sorted_eq_iff, ← queryPairs_canonicalQuery, ← queryPairs_canonicalQuery, h]
  · intro h
    rw [canonicalQuery, canonicalQuery, Text.sorted_eq_iff.mpr h]

/-- Sorting a query brings in no zero byte. -/
theorem zero_not_mem_canonicalQuery (h : 0 ∉ Text.encode query) :
    0 ∉ Text.encode (canonicalQuery query) := by
  intro hzero
  obtain ⟨c, hc, hbyte⟩ := Text.mem_encode_iff.mp hzero
  rw [canonicalQuery, String.toList_intercalate] at hc
  -- The byte would belong to a separator, or to a pair and so to the query itself.
  obtain rfl | ⟨piece, hpiece, hc⟩ := eq_or_exists_mem_of_mem_intercalate hc
  · revert hbyte
    decide
  · obtain ⟨p, hp, rfl⟩ := List.mem_map.mp hpiece
    obtain ⟨hsplit, -⟩ := mem_queryPairs_iff.mp ((Text.sorted_perm _).mem_iff.mp hp)
    exact h (Text.mem_encode_iff.mpr ⟨c, (mem_and_ne_of_mem_splitOn hsplit hc).1, hbyte⟩)

/-! ## Material -/

/-- Material is cut at its first three zero bytes, so it identifies the parts that it was made
from. The body comes last and may hold anything. -/
theorem material_eq_iff {method path method' path' : String} {body body' : List UInt8}
    (hmethod : 0 ∉ Text.encode method) (hmethod' : 0 ∉ Text.encode method')
    (hpath : 0 ∉ Text.encode path) (hpath' : 0 ∉ Text.encode path')
    (hquery : 0 ∉ Text.encode query) (hother : 0 ∉ Text.encode other) :
    material method path query body = material method' path' other body' ↔
      method = method' ∧ path = path' ∧ (queryPairs query).Perm (queryPairs other) ∧
        body = body' := by
  have hsorted := zero_not_mem_canonicalQuery hquery
  have hsorted' := zero_not_mem_canonicalQuery hother
  simp only [material, List.append_assoc, List.cons_append, List.nil_append]
  rw [append_cons_eq_append_cons_iff hmethod hmethod', append_cons_eq_append_cons_iff hpath hpath',
    append_cons_eq_append_cons_iff hsorted hsorted']
  simp only [Text.encode_injective.eq_iff, canonicalQuery_eq_iff]

end CacheKey

/-! ## Digests as text -/

/-- The digits of two bytes are the same only where the bytes are. -/
theorem Digest.digitChars_inj {b b' : UInt8} (hhigh : Nat.digitChar (b.toNat / 16) =
    Nat.digitChar (b'.toNat / 16)) (hlow : Nat.digitChar (b.toNat % 16) =
    Nat.digitChar (b'.toNat % 16)) : b = b' := by
  have hdigit : ∀ n < 16, ∀ m < 16, Nat.digitChar n = Nat.digitChar m → n = m := by decide
  have hb := b.toNat_lt
  have hb' := b'.toNat_lt
  have hdiv := hdigit _ (by omega) _ (by omega) hhigh
  have hmod := hdigit _ (Nat.mod_lt _ (by decide)) _ (Nat.mod_lt _ (by decide)) hlow
  rw [← UInt8.toNat_inj]
  omega

/-- Bytes are read off their digits. -/
theorem Digest.hex_injective : Function.Injective hex := by
  intro bytes others h
  rw [hex, hex, String.ofList_inj] at h
  induction bytes generalizing others with
  | nil =>
    cases others with
    | nil => rfl
    | cons b others => cases h
  | cons b bytes ih =>
    cases others with
    | nil => cases h
    | cons b' others =>
      simp only [List.flatMap_cons, List.cons_append, List.nil_append, List.cons.injEq] at h
      obtain ⟨hhigh, hlow, hrest⟩ := h
      rw [Digest.digitChars_inj hhigh hlow, ih hrest]

/-! ## The order of pairs -/

namespace Form

/-- The named values of a query are read off its pairs. -/
theorem pairs_eq_map (query : String) :
    pairs query = (CacheKey.queryPairs query).map fun p => pair p.toList := by
  simp only [pairs, CacheKey.queryPairs, List.map_map]
  refine List.map_congr_left fun cs _ => ?_
  rw [Function.comp_apply, String.toList_ofList]

/-- The value under a name does not depend on the order: there is one at most, or a refusal. -/
theorem text?_eq_of_perm {form form' : List (String × String)} (h : form.Perm form') :
    text? form = text? form' := by
  funext name
  have hvalues := (h.filter (·.1 == name)).map (·.2)
  rw [text?, text?]
  generalize (form.filter (·.1 == name)).map (·.2) = values at hvalues
  generalize (form'.filter (·.1 == name)).map (·.2) = values' at hvalues
  -- How many values there are is the same on both sides, and more than one are refused.
  match values, values' with
  | [], [] => rfl
  | [v], [v'] =>
    rw [List.perm_singleton, List.singleton_inj] at hvalues
    rw [hvalues]
  | _ :: _ :: _, _ :: _ :: _ => rfl
  | [], _ :: _ => cases hvalues.length_eq
  | _ :: _, [] => cases hvalues.length_eq
  | [_], _ :: _ :: _ => cases hvalues.length_eq
  | _ :: _ :: _, [_] => cases hvalues.length_eq

end Form

/-- What a request asks for does not depend on the order of the pairs of its query. -/
theorem Endpoint.call_eq_of_perm {query other : String}
    (h : (CacheKey.queryPairs query).Perm (CacheKey.queryPairs other)) (e : Endpoint)
    (captures : List String) (body : List UInt8) :
    e.call captures query body = e.call captures other body := by
  have htext : Form.text? (Form.pairs query) = Form.text? (Form.pairs other) := by
    rw [Form.pairs_eq_map, Form.pairs_eq_map]
    exact Form.text?_eq_of_perm (h.map _)
  simp only [call, Form.period, Form.listing, Form.value?, htext]

/-- Where the body plays no part in what a request asks for, another body changes nothing. -/
theorem Endpoint.call_eq_of_takesBody_eq_false {e : Endpoint} (h : e.takesBody = false)
    (captures : List String) (query : String) (body body' : List UInt8) :
    e.call captures query body = e.call captures query body' := by
  cases e with
  | accountCount => cases h
  | downloadCount => cases h
  | _ =>
    -- No endpoint has more than three open segments.
    rcases captures with _ | ⟨first, _ | ⟨second, _ | ⟨third, _ | _⟩⟩⟩ <;> rfl

/-! ## Requests with one fingerprint -/

namespace WebRequest

/-- The parts that end with a zero byte hold none. -/
structure ZeroFree (r : WebRequest) : Prop where
  method : 0 ∉ Text.encode r.method
  path : 0 ∉ Text.encode r.path
  query : 0 ∉ Text.encode r.query

/-- The body as it counts at an endpoint. -/
def countedBody (r : WebRequest) (e : Endpoint) : List UInt8 := if e.takesBody then r.body else []

/-- The bytes whose digest is the fingerprint of a request to an endpoint. -/
def material (r : WebRequest) (e : Endpoint) : List UInt8 :=
  CacheKey.material r.method r.path r.query (r.countedBody e)

/-- Fingerprints are the same only where the digests are. -/
theorem sha256_material_eq_of_key_eq {r r' : WebRequest} {e e' : Endpoint}
    (h : r.key e = r'.key e') :
    Digest.sha256 (r.material e) = Digest.sha256 (r'.material e') := by
  -- All fingerprints begin with the same version.
  have htext := (String.append_right_inj _).mp (CacheKey.mk.inj h)
  exact Digest.hex_injective htext

/-- At a route, requests whose material is the same have the same route and ask for the same. -/
theorem call_eq_of_material_eq {r r' : WebRequest} {e e' : Endpoint}
    {captures captures' : List String} (hfree : r.ZeroFree) (hfree' : r'.ZeroFree)
    (hroute : findRoute? r.method r.path = some (e, captures))
    (hroute' : findRoute? r'.method r'.path = some (e', captures'))
    (h : r.material e = r'.material e') :
    e = e' ∧ captures = captures' ∧
      e.call captures r.query r.body = e'.call captures' r'.query r'.body := by
  obtain ⟨hmethod, hpath, hpairs, hbody⟩ := (CacheKey.material_eq_iff hfree.method hfree'.method
    hfree.path hfree'.path hfree.query hfree'.query).mp h
  rw [hmethod, hpath, hroute'] at hroute
  obtain ⟨rfl, rfl⟩ := Prod.mk.inj (Option.some.inj hroute)
  refine ⟨rfl, rfl, ?_⟩
  rw [Endpoint.call_eq_of_perm hpairs]
  -- The bodies are the same where they count.
  by_cases htakes : e'.takesBody = true
  · rw [countedBody, countedBody, if_pos htakes, if_pos htakes] at hbody
    rw [hbody]
  · exact Endpoint.call_eq_of_takesBody_eq_false (by simpa using htakes) _ _ _ _

/-- Material identifies the method, the path, the pairs of the query without their order, and the
body. Queries with the same pairs are both refused at an endpoint, or ask it for the same. Hence
two requests with one fingerprint have one route and ask for the same there, or are both refused,
unless their digests collide. -/
theorem fingerprint_identifies :
    (∀ r r' : WebRequest, r.ZeroFree → r'.ZeroFree →
      (CacheKey.material r.method r.path r.query r.body =
          CacheKey.material r'.method r'.path r'.query r'.body ↔
        r.method = r'.method ∧ r.path = r'.path ∧
          (CacheKey.queryPairs r.query).Perm (CacheKey.queryPairs r'.query) ∧
          r.body = r'.body)) ∧
    (∀ (e : Endpoint) (captures : List String) (body : List UInt8) (query query' : String),
      (CacheKey.queryPairs query).Perm (CacheKey.queryPairs query') →
        (e.call captures query body).toOption = (e.call captures query' body).toOption) ∧
    ∀ (r r' : WebRequest) (e e' : Endpoint) (captures captures' : List String),
      r.ZeroFree → r'.ZeroFree →
      findRoute? r.method r.path = some (e, captures) →
      findRoute? r'.method r'.path = some (e', captures') →
      (Digest.sha256 (r.material e) = Digest.sha256 (r'.material e') →
        r.material e = r'.material e') →
      r.key e = r'.key e' →
        e = e' ∧ captures = captures' ∧
          (e.call captures r.query r.body).toOption =
            (e'.call captures' r'.query r'.body).toOption := by
  refine ⟨fun r r' hfree hfree' => ?_, fun e captures body query query' hpairs => ?_, ?_⟩
  · exact CacheKey.material_eq_iff hfree.method hfree'.method hfree.path hfree'.path hfree.query
      hfree'.query
  · rw [Endpoint.call_eq_of_perm hpairs]
  · intro r r' e e' captures captures' hfree hfree' hroute hroute' hcollide hkey
    have hmaterial := hcollide (sha256_material_eq_of_key_eq hkey)
    obtain ⟨he, hcaptures, hcall⟩ := call_eq_of_material_eq hfree hfree' hroute hroute' hmaterial
    exact ⟨he, hcaptures, congrArg Except.toOption hcall⟩

/-- A request for the children of a recipient, with a query. -/
def askingChildren (query : String) : WebRequest :=
  ⟨"GET", "/api/v2/recipient/children/001006360/", query, []⟩

theorem zeroFree_askingChildren {query : String} (h : 0 ∉ Text.encode query) :
    (askingChildren query).ZeroFree := by
  refine ⟨?_, ?_, h⟩
  · show 0 ∉ Text.encode "GET"
    decide
  · show 0 ∉ Text.encode "/api/v2/recipient/children/001006360/"
    decide

theorem findRoute?_askingChildren (query : String) :
    findRoute? (askingChildren query).method (askingChildren query).path =
      some (.children, ["001006360"]) := by
  show findRoute? "GET" "/api/v2/recipient/children/001006360/" = some (.children, ["001006360"])
  decide +kernel

/-- Two requests with the pairs in another order, and an empty pair in one of them. -/
theorem fingerprint_identifies_reordered :
    (askingChildren "year=2020&lang=en").key .children =
        (askingChildren "lang=en&&year=2020").key .children ∧
      (Endpoint.call .children ["001006360"] "year=2020&lang=en" []).toOption =
        (Endpoint.call .children ["001006360"] "lang=en&&year=2020" []).toOption := by
  have hfree : (askingChildren "year=2020&lang=en").ZeroFree :=
    zeroFree_askingChildren (by decide)
  have hfree' : (askingChildren "lang=en&&year=2020").ZeroFree :=
    zeroFree_askingChildren (by decide)
  have hmaterial : (askingChildren "year=2020&lang=en").material .children =
      (askingChildren "lang=en&&year=2020").material .children := by
    refine (fingerprint_identifies.1 _ _ hfree hfree').mpr ⟨rfl, rfl, ?_, rfl⟩
    decide +kernel
  have hkey : (askingChildren "year=2020&lang=en").key .children =
      (askingChildren "lang=en&&year=2020").key .children :=
    congrArg (fun m => CacheKey.mk ("response:v1:" ++ Digest.hex (Digest.sha256 m))) hmaterial
  have hidentified := fingerprint_identifies.2.2 _ _ .children .children _ _ hfree hfree'
    (findRoute?_askingChildren _) (findRoute?_askingChildren _) (fun _ => hmaterial) hkey
  exact ⟨hkey, hidentified.2.2⟩

end WebRequest

end Outlays
