import Mathlib.Data.List.Forall2
import Mathlib.Data.List.Pairwise
import Outlays.Proofs.Web.Escapes

/-!
# Which route a request takes

A route matches a request if it has its method and if the segments of the path match its patterns,
one by one. Two routes cannot match one request where their methods or their numbers of segments
differ, or where one has a fixed text that the other has no room for in this place. Any two of the
routes are apart in this way, so that it does not matter in which order they are looked through.

The paths of data end in a slash. Slashes stay encoded when a path is decoded for matching, so the
slash stands at the end of the path itself.

## Main definitions

* `SegmentPattern.Admits`, `Route.Matches` — what patterns and routes match
* `SegmentPattern.Apart`, `Route.Apart` — patterns and routes that have nothing in common
* `Route.first` — the endpoint of the first route that matches

## Main results

* `Route.captures?_eq_some_iff` — what is captured of a request
* `Route.Apart.not_matches`, `Route.pairwise_apart_routes` — no two routes match one request
* `Route.exists_of_findRoute?` — the route of a request
* `Route.unambiguous` — all of it
-/

namespace Outlays

/-- The first element with a result is the only one, where there are no two. -/
theorem findSome?_eq_some_iff_of_unique {α β : Type} {f : α → Option β} {xs : List α}
    (h : ∀ x ∈ xs, ∀ x' ∈ xs, (f x).isSome → (f x').isSome → x = x') {b : β} :
    xs.findSome? f = some b ↔ ∃ x ∈ xs, f x = some b := by
  constructor
  · exact List.exists_of_findSome?_eq_some
  · rintro ⟨x, hx, hb⟩
    have hsome : (xs.findSome? f).isSome :=
      List.findSome?_isSome_iff.mpr ⟨x, hx, Option.isSome_of_eq_some hb⟩
    obtain ⟨b', hfound⟩ := Option.isSome_iff_exists.mp hsome
    obtain ⟨x', hx', hb'⟩ := List.exists_of_findSome?_eq_some hfound
    obtain rfl := h x hx x' hx' (Option.isSome_of_eq_some hb) (Option.isSome_of_eq_some hb')
    rw [hfound, ← hb', hb]

namespace SegmentPattern

variable {p q : SegmentPattern} {segment : List Char}

/-! ## Patterns -/

/-- The segment matches the pattern. -/
def Admits : SegmentPattern → List Char → Prop
  | .fixed text, segment => segment = text.toList
  | .free, segment => segment ≠ []
  | .digits least most, segment =>
    least ≤ segment.length ∧ segment.length ≤ most ∧ ∀ c ∈ segment, Text.isDigit c = true

instance (p : SegmentPattern) (segment : List Char) : Decidable (p.Admits segment) :=
  match p with
  | .fixed text => inferInstanceAs (Decidable (segment = text.toList))
  | .free => inferInstanceAs (Decidable (segment ≠ []))
  | .digits least most => inferInstanceAs (Decidable (least ≤ segment.length ∧
      segment.length ≤ most ∧ ∀ c ∈ segment, Text.isDigit c = true))

/-- The pattern leaves its segment open. -/
def isOpen : SegmentPattern → Bool
  | .fixed _ => false
  | _ => true

theorem capture?_eq_some_iff {cs : List (List Char)} : p.capture? segment = some cs ↔
    p.Admits segment ∧ cs = if p.isOpen then [segment] else [] := by
  have hcapture : p.capture? segment =
      if p.Admits segment then some (if p.isOpen then [segment] else []) else none := by
    cases p with
    | fixed text => simp [capture?, Admits, isOpen]
    | free => cases segment <;> simp [capture?, Admits, isOpen]
    | digits least most => simp [capture?, Admits, isOpen, and_assoc]
  rw [hcapture]
  split
  · next h => rw [Option.some.injEq, eq_comm, and_iff_right h]
  · next h => simp [h]

/-- One of the patterns is a text that the other does not match. -/
def Apart : SegmentPattern → SegmentPattern → Prop
  | .fixed text, q => ¬ q.Admits text.toList
  | p, .fixed text => ¬ p.Admits text.toList
  | _, _ => False

instance : DecidableRel Apart := fun p q =>
  match p, q with
  | .fixed text, q => inferInstanceAs (Decidable ¬ q.Admits text.toList)
  | .free, .fixed text => inferInstanceAs (Decidable ¬ Admits .free text.toList)
  | .digits least most, .fixed text =>
    inferInstanceAs (Decidable ¬ (digits least most).Admits text.toList)
  | .free, .free | .free, .digits _ _ | .digits _ _, .free | .digits _ _, .digits _ _ =>
    inferInstanceAs (Decidable False)

theorem Apart.not_admits (h : p.Apart q) (hp : p.Admits segment) : ¬ q.Admits segment := by
  intro hq
  cases p with
  | fixed text =>
    obtain rfl : segment = text.toList := hp
    exact h hq
  | _ =>
    cases q with
    | fixed text =>
      obtain rfl : segment = text.toList := hq
      exact h hp
    | _ => exact h

end SegmentPattern

namespace Route

open SegmentPattern (Admits)

variable {r r' : Route} {method path : String} {segments : List (List Char)}
  {ps : List SegmentPattern}

/-! ## Routes -/

/-- The segments that patterns leave open. -/
def opened (ps : List SegmentPattern) (segments : List (List Char)) : List (List Char) :=
  ((ps.zip segments).filter (·.1.isOpen)).map (·.2)

theorem opened_cons (p : SegmentPattern) (ps : List SegmentPattern) (s : List Char)
    (segments : List (List Char)) :
    opened (p :: ps) (s :: segments) =
      (if p.isOpen then [s] else []) ++ opened ps segments := by
  cases hp : p.isOpen <;> simp [opened, hp]

theorem captureAll?_eq_some_iff {cs : List (List Char)} : captureAll? ps segments = some cs ↔
    List.Forall₂ Admits ps segments ∧ cs = opened ps segments := by
  induction ps generalizing segments cs with
  | nil => cases segments <;> simp [captureAll?, opened, eq_comm]
  | cons p ps ih =>
    cases segments with
    | nil => simp [captureAll?]
    | cons s segments =>
      simp only [captureAll?, Option.bind_eq_bind, Option.bind_eq_some_iff, Option.pure_def,
        SegmentPattern.capture?_eq_some_iff, ih, List.forall₂_cons, Option.some.injEq]
      rw [opened_cons]
      constructor
      · rintro ⟨_, ⟨hs, rfl⟩, _, ⟨hsegments, rfl⟩, rfl⟩
        exact ⟨⟨hs, hsegments⟩, rfl⟩
      · rintro ⟨⟨hs, hsegments⟩, rfl⟩
        exact ⟨_, ⟨hs, rfl⟩, _, ⟨hsegments, rfl⟩, rfl⟩

/-- The open segments match the open patterns. -/
theorem forall₂_opened (h : List.Forall₂ Admits ps segments) :
    List.Forall₂ Admits (ps.filter (·.isOpen)) (opened ps segments) := by
  induction h with
  | nil => exact .nil
  | @cons p s ps segments hs _ ih =>
    rw [opened_cons]
    cases hp : p.isOpen with
    | true => simpa [hp] using ⟨hs, ih⟩
    | false => simpa [hp] using ih

/-- The route has the method of the request, and patterns that its segments match. -/
def Matches (r : Route) (method : String) (segments : List (List Char)) : Prop :=
  r.method = method ∧ List.Forall₂ Admits r.segments segments

theorem captures?_eq_some_iff {cs : List (List Char)} : r.captures? method segments = some cs ↔
    r.Matches method segments ∧ cs = opened r.segments segments := by
  rw [captures?, Matches, and_assoc, ← captureAll?_eq_some_iff]
  split <;> simp [*]

/-- The routes differ in their methods or in their numbers of segments, or have patterns in one
place that have nothing in common. -/
def Apart (r r' : Route) : Prop :=
  r.method ≠ r'.method ∨ r.segments.length ≠ r'.segments.length ∨
    ∃ pq ∈ r.segments.zip r'.segments, pq.1.Apart pq.2

instance : DecidableRel Apart := fun _ _ => inferInstanceAs (Decidable (_ ∨ _))

theorem Apart.not_matches (h : r.Apart r') (hr : r.Matches method segments) :
    ¬ r'.Matches method segments := by
  rintro ⟨hmethod, hsegments⟩
  obtain hne | hne | ⟨⟨p, q⟩, hpq, hapart⟩ := h
  · exact hne (hr.1.trans hmethod.symm)
  · exact hne (hr.2.length_eq.trans hsegments.length_eq.symm)
  · -- The two patterns are in one place, and so would match one segment.
    obtain ⟨i, hi, hget⟩ := List.mem_iff_getElem.mp hpq
    rw [List.length_zip] at hi
    obtain ⟨rfl, rfl⟩ := Prod.mk.inj (List.getElem_zip.symm.trans hget)
    have hlength := hr.2.length_eq
    exact hapart.not_admits (hr.2.get (by omega) (by omega)) (hsegments.get (by omega) (by omega))

theorem pairwise_apart_routes : routes.Pairwise Apart := by
  decide +kernel

/-- Of all routes, one at most matches a request. -/
theorem eq_of_matches (hr : r ∈ routes) (hr' : r' ∈ routes) (h : r.Matches method segments)
    (h' : r'.Matches method segments) : r = r' := by
  -- Of two routes in the table, one comes first; but equality does not mind which.
  have hpairwise : routes.Pairwise fun r r' => r.Matches method segments →
      r'.Matches method segments → r = r' :=
    pairwise_apart_routes.imp fun hapart h h' => absurd h' (hapart.not_matches h)
  have : Std.Symm fun r r' : Route => r.Matches method segments →
      r'.Matches method segments → r = r' := ⟨fun _ _ heq h h' => (heq h' h).symm⟩
  exact hpairwise.forall_of_forall (fun _ _ _ _ => rfl) hr hr' h h'

theorem eq_of_isSome_captures? (hr : r ∈ routes) (hr' : r' ∈ routes)
    (h : (r.captures? method segments).isSome) (h' : (r'.captures? method segments).isSome) :
    r = r' := by
  obtain ⟨cs, h⟩ := Option.isSome_iff_exists.mp h
  obtain ⟨cs', h'⟩ := Option.isSome_iff_exists.mp h'
  exact eq_of_matches hr hr' (captures?_eq_some_iff.mp h).1 (captures?_eq_some_iff.mp h').1

/-! ## The order of routes -/

/-- The endpoint of the first of the routes that matches, with the segments that it leaves open. -/
def first (rs : List Route) (method path : String) : Option (Endpoint × List String) :=
  rs.findSome? fun r =>
    (r.captures? method ((routedPath path).splitOn '/')).map fun cs =>
      (r.endpoint, cs.map captureText)

/-- What is found among routes is what the route that matches leaves open. -/
theorem first_eq_some_iff {rs : List Route} (hrs : rs ⊆ routes) {e : Endpoint}
    {captures : List String} : first rs method path = some (e, captures) ↔
      ∃ r ∈ rs, r.Matches method ((routedPath path).splitOn '/') ∧ r.endpoint = e ∧
        captures = (opened r.segments ((routedPath path).splitOn '/')).map captureText := by
  rw [first, findSome?_eq_some_iff_of_unique]
  · refine exists_congr fun r => and_congr_right fun _ => ?_
    simp only [Option.map_eq_some_iff, captures?_eq_some_iff, Prod.mk.injEq]
    constructor
    · rintro ⟨_, ⟨hmatches, rfl⟩, rfl, rfl⟩
      exact ⟨hmatches, rfl, rfl⟩
    · rintro ⟨hmatches, rfl, rfl⟩
      exact ⟨_, ⟨hmatches, rfl⟩, rfl, rfl⟩
  · intro r hr r' hr' h h'
    rw [Option.isSome_map] at h h'
    exact eq_of_isSome_captures? (hrs hr) (hrs hr') h h'

/-- It does not matter in which order routes are looked through. -/
theorem first_eq_of_perm {rs : List Route} (h : rs.Perm routes) (method path : String) :
    first rs method path = findRoute? method path := by
  refine Option.ext fun found => ?_
  have hsame : first routes method path = findRoute? method path := rfl
  rw [← hsame, first_eq_some_iff h.subset, first_eq_some_iff (List.Subset.refl _)]
  simp only [h.mem_iff]

theorem exists_of_findRoute? {e : Endpoint} {captures : List String}
    (h : findRoute? method path = some (e, captures)) :
    ∃ r ∈ routes, r.Matches method ((routedPath path).splitOn '/') ∧ r.endpoint = e ∧
      captures = (opened r.segments ((routedPath path).splitOn '/')).map captureText :=
  (first_eq_some_iff (List.Subset.refl _)).mp h

/-! ## Segments of digits -/

/-- A segment of digits has no percent sign, and so it is captured as it stands. -/
theorem captureText_of_digits {least most : Nat} {segment : List Char}
    (h : (SegmentPattern.digits least most).Admits segment) :
    (captureText segment).toList = segment := by
  have hpercent : 37 ∉ Text.encodeChars segment := by
    intro hmem
    obtain ⟨c, hc, hbyte⟩ := List.mem_flatMap.mp hmem
    have hchar := Text.toNat_eq_of_mem_utf8EncodeChar hbyte (by decide)
    obtain rfl : c = '%' := Char.toNat_inj.mp hchar
    exact absurd (h.2.2 '%' hc) (by decide)
  rw [captureText, Percent.decode_eq_self hpercent, Text.decodeLossy_encodeChars,
    String.toList_ofList]

/-- Where all open patterns are of digits, such digits are captured. -/
theorem forall₂_captures (h : r.Matches method segments)
    (hdigits : ∀ p ∈ r.segments.filter (·.isOpen), ∃ least most, p = .digits least most) :
    List.Forall₂ (fun p (t : String) => p.Admits t.toList) (r.segments.filter (·.isOpen))
      ((opened r.segments segments).map captureText) := by
  rw [List.forall₂_map_right_iff]
  have hopened := (List.forall₂_and_left _ _).mpr ⟨hdigits, forall₂_opened h.2⟩
  refine hopened.imp ?_
  rintro _ segment ⟨⟨least, most, rfl⟩, hsegment⟩
  rwa [captureText_of_digits hsegment]

/-! ## Slashes -/

/-- A text with an empty piece behind its last `c` ends in `c`. -/
theorem getLast?_of_splitOn {cs : List Char} {c : Char} (h : (cs.splitOn c).getLast? = some [])
    (hlength : 2 ≤ (cs.splitOn c).length) : cs.getLast? = some c := by
  have hjoined : [c].intercalate (cs.splitOn c) = cs := List.intercalate_splitOn c
  rw [← hjoined]
  generalize cs.splitOn c = pieces at h hlength
  induction pieces with
  | nil => cases h
  | cons piece pieces ih =>
    cases pieces with
    | nil => exact absurd hlength (by simp)
    | cons next pieces =>
      rw [List.intercalate_cons_of_ne_nil (List.cons_ne_nil _ _), List.getLast?_append,
        List.getLast?_append]
      cases pieces with
      | nil =>
        obtain rfl : next = [] := by simpa using h
        simp
      | cons _ _ =>
        rw [ih (by simpa using h) (by simp)]
        rfl

/-- Where the last pattern is an empty text, the path ends in a slash. -/
theorem Matches.getLast?_path (h : r.Matches method ((routedPath path).splitOn '/'))
    (hlast : r.segments.getLast? = some (.fixed "")) (hlength : 2 ≤ r.segments.length) :
    path.toList.getLast? = some '/' := by
  -- The last segment is empty, and there is a segment before it.
  have hempty : ((routedPath path).splitOn '/').getLast? = some [] := by
    have hreverse := List.forall₂_reverse_iff.mpr h.2
    rw [← List.head?_reverse] at hlast ⊢
    generalize r.segments.reverse = ps, ((routedPath path).splitOn '/').reverse = pieces at *
    cases hreverse with
    | nil => cases hlast
    | cons hadmits _ =>
      obtain rfl := Option.some.inj hlast
      exact congrArg some hadmits
  have hslash := getLast?_of_splitOn hempty (h.2.length_eq ▸ hlength)
  -- Neither the reading of bytes nor the decoding of escapes puts a slash at the end.
  obtain ⟨b, hb, hnat⟩ := Text.exists_getLast?_of_decodeLossy (by decide) hslash
  obtain rfl : b = 47 := UInt8.toNat_inj.mp hnat
  have hkept := Percent.getLast?_of_decodeExcept (show isKeptEncoded 47 = true from rfl) hb
  obtain ⟨c, hc, hchar⟩ := Text.exists_getLast?_of_encodeChars (by decide) hkept
  obtain rfl : c = '/' := Char.toNat_inj.mp hchar
  exact hc

/-! ## The routes of data -/

/-- What the routes to agencies leave open, and how paths of data end. -/
theorem shape_of_mem_routes : ∀ r ∈ routes,
    (r.endpoint = .periods ∨ r.endpoint = .differences →
      r.segments.filter (·.isOpen) = [.digits 3 4]) ∧
    (r.endpoint = .publications →
      r.segments.filter (·.isOpen) = [.digits 3 4, .digits 4 4, .digits 1 2]) ∧
    (r.endpoint ≠ .ready → r.endpoint ≠ .live →
      r.segments.getLast? = some (.fixed "") ∧ 2 ≤ r.segments.length) := by
  decide +kernel

/-- A request matches one route at most, whatever the order of routes. The routes to agencies leave
digits open, in the numbers that they ask for, and the path of a request for data ends in a
slash. -/
theorem unambiguous (method path : String) :
    (∀ r ∈ routes, ∀ r' ∈ routes, (r.captures? method ((routedPath path).splitOn '/')).isSome →
      (r'.captures? method ((routedPath path).splitOn '/')).isSome → r = r') ∧
    (∀ rs : List Route, rs.Perm routes → first rs method path = findRoute? method path) ∧
    ∀ (e : Endpoint) (captures : List String), findRoute? method path = some (e, captures) →
      (e = .periods ∨ e = .differences → ∃ code, captures = [code] ∧
        (SegmentPattern.digits 3 4).Admits code.toList) ∧
      (e = .publications → ∃ code year period, captures = [code, year, period] ∧
        (SegmentPattern.digits 3 4).Admits code.toList ∧
        (SegmentPattern.digits 4 4).Admits year.toList ∧
        (SegmentPattern.digits 1 2).Admits period.toList) ∧
      (e ≠ .ready → e ≠ .live → path.toList.getLast? = some '/') := by
  refine ⟨fun r hr r' hr' => eq_of_isSome_captures? hr hr', fun rs hrs => first_eq_of_perm hrs _ _, ?_⟩
  intro e captures h
  obtain ⟨r, hr, hmatches, rfl, rfl⟩ := exists_of_findRoute? h
  obtain ⟨hcode, hhistory, hdata⟩ := shape_of_mem_routes r hr
  refine ⟨fun he => ?_, fun he => ?_, fun hready hlive => ?_⟩
  · have hopen := hcode he
    have hcaptures := forall₂_captures hmatches (by simp [hopen])
    rw [hopen] at hcaptures
    simp only [List.forall₂_cons_left_iff, List.forall₂_nil_left_iff] at hcaptures
    obtain ⟨code, _, hcode, rfl, heq⟩ := hcaptures
    exact ⟨code, heq, hcode⟩
  · have hopen := hhistory he
    have hcaptures := forall₂_captures hmatches (by simp [hopen])
    rw [hopen] at hcaptures
    simp only [List.forall₂_cons_left_iff, List.forall₂_nil_left_iff] at hcaptures
    obtain ⟨code, _, hcode, ⟨year, _, hyear, ⟨period, _, hperiod, rfl, rfl⟩, rfl⟩, heq⟩ := hcaptures
    exact ⟨code, year, period, heq, hcode, hyear, hperiod⟩
  · obtain ⟨hlast, hlength⟩ := hdata hready hlive
    exact hmatches.getLast?_path hlast hlength

/-- The publications of an agency, by a path with Arabic digits for the year. -/
theorem unambiguous_publications :
    findRoute? "GET" "/api/v2/reporting/agencies/097/%D9%A2%D9%A0%D9%A2%D9%A0/6/submission_history/"
      = some (.publications, ["097", "٢٠٢٠", "6"]) ∧
    ∃ code year period, ["097", "٢٠٢٠", "6"] = [code, year, period] ∧
      (SegmentPattern.digits 3 4).Admits code.toList ∧
      (SegmentPattern.digits 4 4).Admits year.toList ∧
      (SegmentPattern.digits 1 2).Admits period.toList := by
  have hfound : findRoute? "GET"
      "/api/v2/reporting/agencies/097/%D9%A2%D9%A0%D9%A2%D9%A0/6/submission_history/" =
        some (.publications, ["097", "٢٠٢٠", "6"]) := by
    decide +kernel
  obtain ⟨-, hhistory, -⟩ := (unambiguous "GET" _).2.2 _ _ hfound
  exact ⟨hfound, hhistory rfl⟩

end Route

end Outlays
