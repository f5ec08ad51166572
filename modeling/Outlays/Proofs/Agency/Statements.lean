import Outlays.Proofs.Agency.Listings
import Outlays.Proofs.Cache.Fingerprint
import Outlays.Proofs.Calendar.Written
import Outlays.Proofs.Web.Rendered

/-!
# Where an assurance statement is

The address of a statement is that of all files with six more segments: two fixed ones, the year,
the period, the code of the agency, and the name of the file, which has the name of the agency in
it. Whatever the agency is called, its name stays within the last segment. Nothing that a name can
hold ends a segment or the path, no segment stands for a place above, and percent-decoding gives
each segment back as it was.

## Main definitions

* `OneLine` — a text without tabs and line ends, which addresses drop
* `Url.LeadsTo` — the path of one address goes on from that of another, by these segments
* `Assurance.fileName` — the name of a statement

## Main results

* `Url.exists_leadsTo_of_extend?` — segments that are pushed are the last segments of the path
* `Assurance.statement_leadsTo` — the address of a statement, and the rows that show it
-/

namespace Outlays

/-! ## Texts in addresses -/

/-- The text has no tab and no line end. -/
def OneLine (s : String) : Prop := ∀ c ∈ s.toList, c ≠ '\t' ∧ c ≠ '\n' ∧ c ≠ '\r'

instance : DecidablePred OneLine := fun s =>
  List.decidableBAll (fun c => c ≠ '\t' ∧ c ≠ '\n' ∧ c ≠ '\r') s.toList

/-- The text is made of plain characters, and there is one. -/
structure PlainText (s : String) : Prop where
  nonempty : s.toList ≠ []
  plain : ∀ c ∈ s.toList, Path.IsPlain c

variable {s t : String}

theorem OneLine.isIgnored (h : OneLine s) : ∀ c ∈ s.toList, Path.isIgnored c = false := by
  intro c hc
  obtain ⟨htab, hfeed, hreturn⟩ := h c hc
  simp [Path.isIgnored, htab, hfeed, hreturn]

theorem OneLine.append (hs : OneLine s) (ht : OneLine t) : OneLine (s ++ t) := by
  intro c hc
  rw [String.toList_append, List.mem_append] at hc
  exact hc.elim (hs c) (ht c)

theorem PlainText.oneLine (h : PlainText s) : OneLine s := by
  intro c hc
  obtain ⟨⟨hblank, -⟩, -⟩ := (h.plain c hc).laws
  refine ⟨?_, ?_, ?_⟩ <;> rintro rfl <;> exact absurd hblank (by decide)

theorem PlainText.startsPlain (h : PlainText s) : Path.StartsPlain s := by
  obtain ⟨c, rest, hs⟩ := List.exists_cons_of_ne_nil h.nonempty
  exact ⟨c, rest, hs, h.plain c (hs ▸ List.mem_cons_self)⟩

theorem startsPlain_append (h : Path.StartsPlain s) (t : String) : Path.StartsPlain (s ++ t) := by
  obtain ⟨c, rest, hs, hc⟩ := h
  exact ⟨c, rest ++ t.toList, by rw [String.toList_append, hs, List.cons_append], hc⟩

theorem PlainText.append (hs : PlainText s) (ht : PlainText t) : PlainText (s ++ t) := by
  constructor
  case nonempty => simp [hs.nonempty]
  case plain =>
    intro c hc
    rw [String.toList_append, List.mem_append] at hc
    exact hc.elim (hs.plain c) (ht.plain c)

theorem isPlain_of_isDigit {c : Char} (h : c.isDigit = true) : Path.IsPlain c := by
  simp [Path.IsPlain, Char.isAlphanum, h]

theorem plainText_nat (n : ℕ) : PlainText (toString n) := by
  constructor
  case nonempty => simp [Nat.toString_eq_repr, Nat.repr_eq_ofList_toDigits, Nat.toDigits_ne_nil]
  case plain =>
    intro c hc
    rw [Nat.toString_eq_repr, Nat.repr_eq_ofList_toDigits, String.toList_ofList] at hc
    exact isPlain_of_isDigit (Nat.isDigit_of_mem_toDigits (by omega) (by omega) hc)

/-- A number is written in digits, perhaps with a hyphen in front. -/
theorem plainText_int (n : Int) : PlainText (toString n) := by
  cases n with
  | ofNat n => exact plainText_nat n
  | negSucc n =>
    have hsign : PlainText "-" := ⟨by decide, Path.isPlain_of_all (by decide)⟩
    exact hsign.append (plainText_nat (n + 1))

/-! ## Addresses that go on -/

namespace Url

/-- The address goes on from that of another one: the path has further segments, which
percent-decode to these texts, in place of an empty one at the end. All else is the same. No
character of a new segment is outside of ASCII or ends the segment. -/
structure LeadsTo (files u : Url) (names : List String) : Prop where
  scheme : u.scheme = files.scheme
  authority : u.authority = files.authority
  query : u.query = files.query
  fragment : u.fragment = files.fragment
  path : ∃ base path more, files.path = .rooted base ∧ u.path = .rooted path ∧
    Path.Rooted path ∧ Path.segments path = Path.stem (Path.segments base) ++ more ∧
    more.map captureText = names ∧
    ∀ segment ∈ more, ∀ c ∈ segment, c.toNat < 0x80 ∧ c ∉ ['/', '?', '#']

theorem map_captureText_pushed {kind : PathKind} {more : List String}
    (hmore : ∀ segment ∈ more, OneLine segment) :
    (Path.pushed kind more).map captureText = more := by
  rw [Path.pushed, List.map_map]
  refine (List.map_congr_left fun segment hsegment => ?_).trans (List.map_id more)
  exact captureText_written kind.web (hmore segment hsegment).isIgnored

theorem mem_pushed {kind : PathKind} {more : List String} {segment : List Char}
    (hsegment : segment ∈ Path.pushed kind more) {c : Char} (hc : c ∈ segment) :
    c.toNat < 0x80 ∧ c ∉ ['/', '?', '#'] := by
  obtain ⟨text, -, rfl⟩ := List.mem_map.mp hsegment
  exact mem_written hc

theorem mem_of_mem_stem {parts : List (List Char)} {part : List Char}
    (h : part ∈ Path.stem parts) : part ∈ parts := by
  unfold Path.stem at h
  split at h
  · exact List.dropLast_subset parts h
  · exact h

/-- Segments that are pushed are the last segments of the path. -/
theorem exists_leadsTo_of_extend? {files : Url} {server : Authority} {base : List Char}
    (h : files.OnServer server base) (hinner : ∀ s ∈ (Path.segments base).dropLast, s ≠ [])
    {more : List String} (hne : more ≠ []) (hstart : ∀ s ∈ more, Path.StartsPlain s)
    (hline : ∀ s ∈ more, OneLine s) : ∃ u, files.extend? more = some u ∧ files.LeadsTo u more := by
  have hkind : (pathKind files.scheme).drives = false := by rw [h.scheme.pathKind_eq]
  have hparts : Path.segments base ≠ [] := List.splitOn_ne_nil _ _
  have hslash : ∀ part ∈ Path.segments base, '/' ∉ part :=
    fun part hpart hmem => (mem_and_ne_of_mem_splitOn hpart hmem).2 rfl
  have hpath := Path.extend_eq hkind hparts hinner hslash hne hstart
  rw [Path.joined_segments h.rooted] at hpath
  -- No segment has a slash in it, so that splitting the path at slashes gives them all back.
  have hall : ∀ part ∈ Path.stem (Path.segments base) ++ Path.pushed (pathKind files.scheme) more,
      '/' ∉ part := by
    intro part hpart hmem
    obtain hpart | hpart := List.mem_append.mp hpart
    · exact hslash part (mem_of_mem_stem hpart) hmem
    · exact (mem_pushed hpart hmem).2 (by simp)
  have hnonempty : Path.stem (Path.segments base) ++ Path.pushed (pathKind files.scheme) more ≠
      [] := by
    simp [Path.pushed, hne]
  refine ⟨{ files with path := .rooted (Path.extend (pathKind files.scheme) base more) }, ?_, ?_⟩
  · rw [extend?, h.path]
  · refine ⟨rfl, rfl, rfl, rfl, base, _, Path.pushed (pathKind files.scheme) more, h.path, rfl, ?_,
      ?_, map_captureText_pushed hline, ?_⟩
    · rw [hpath, Path.joined_eq_intercalate hnonempty]
      exact ⟨_, rfl⟩
    · rw [hpath, Path.segments_joined hnonempty hall]
    · exact fun segment hsegment c hc => mem_pushed hsegment hc

/-- A path that goes on has no mark in it either. -/
theorem LeadsTo.isWritten {files u : Url} {names : List String} {server : Authority}
    {base : List Char} (h : files.LeadsTo u names) (hfiles : files.IsWritten server base) :
    ∃ path, u.IsWritten server path := by
  obtain ⟨base', path, more, hbase, hpath, hrooted, hsegments, -, hmore⟩ := h.path
  obtain rfl : base = base' := UrlPath.rooted.inj (hfiles.onServer.path.symm.trans hbase)
  refine ⟨path, ⟨h.scheme ▸ hfiles.onServer.scheme, h.authority.trans hfiles.onServer.authority,
    hpath, hrooted⟩, hfiles.server, fun c hc => ?_, h.query ▸ hfiles.query⟩
  rw [← Path.joined_segments hrooted, hsegments] at hc
  obtain ⟨segment, hsegment, hc⟩ := List.mem_flatMap.mp hc
  obtain rfl | hc := List.mem_cons.mp hc
  · decide
  obtain hsegment | hsegment := List.mem_append.mp hsegment
  · have hdropped := (mem_and_ne_of_mem_splitOn (mem_of_mem_stem hsegment) hc).1
    exact hfiles.path c (List.mem_of_mem_drop hdropped)
  · exact fun hmem => (hmore segment hsegment c hc).2 (List.mem_cons_of_mem '/' hmem)

end Url

/-! ## Statements -/

namespace Assurance

/-- The agency's name, with its abbreviation in brackets. -/
def agencyText (name : String) : Option String → String
  | some short => name ++ " (" ++ short ++ ")"
  | none => name

/-- The name of a statement. -/
def fileName (year period : Int) (code name : String) (abbreviation : Option String) : String :=
  let month := "P" ++ twoDigits period
  toString year ++ "-" ++ month ++ "-" ++ code ++ "_" ++ agencyText name abbreviation ++
    "-Assurance_Statement.txt"

theorem segments_eq (year period : Int) (code name : String) (abbreviation : Option String) :
    segments year period code name abbreviation =
      ["agency_submissions", "Raw DATA Act Files", toString year, "P" ++ twoDigits period, code,
        fileName year period code name abbreviation] := by
  cases abbreviation with
  | none => rfl
  | some short => rfl

theorem plainText_twoDigits (n : Int) : PlainText (twoDigits n) := by
  unfold twoDigits
  split
  · exact plainText_int n
  · exact ⟨Date.padded_ne_nil 2 _, fun c hc => isPlain_of_isDigit (Date.isDigit_of_mem_padded hc)⟩

theorem plainText_code {code : String} (h : isToptierCode code = true) : PlainText code := by
  simp only [isToptierCode, Bool.and_eq_true, Bool.or_eq_true, beq_iff_eq, List.all_eq_true] at h
  refine ⟨?_, fun c hc => isPlain_of_isDigit (h.2 c hc)⟩
  rintro hnil
  simp [hnil] at h

variable {year period : Int} {code name : String} {abbreviation : Option String}

theorem startsPlain_fileName :
    Path.StartsPlain (fileName year period code name abbreviation) := by
  -- The name starts with the year, whatever is put behind it.
  have hyear := (plainText_int year).startsPlain
  unfold fileName
  repeat refine startsPlain_append ?_ _
  exact hyear

theorem oneLine_agencyText (hname : OneLine name) (hshort : ∀ short ∈ abbreviation, OneLine short) :
    OneLine (agencyText name abbreviation) := by
  have hopen : OneLine " (" := by decide
  have hclose : OneLine ")" := by decide
  cases abbreviation with
  | none => exact hname
  | some short => exact ((hname.append hopen).append (hshort short rfl)).append hclose

theorem oneLine_month : OneLine ("P" ++ twoDigits period) :=
  .append (by decide) (plainText_twoDigits period).oneLine

theorem oneLine_fileName (hcode : isToptierCode code = true) (hname : OneLine name)
    (hshort : ∀ short ∈ abbreviation, OneLine short) :
    OneLine (fileName year period code name abbreviation) := by
  have hyear := (plainText_int year).oneLine
  have hhyphen : OneLine "-" := by decide
  have hline : OneLine "_" := by decide
  have hending : OneLine "-Assurance_Statement.txt" := by decide
  have hmonth : OneLine ("P" ++ twoDigits period) := oneLine_month
  have hfront := ((hyear.append hhyphen).append hmonth).append hhyphen
  have hcoded := (hfront.append (plainText_code hcode).oneLine).append hline
  exact (hcoded.append (oneLine_agencyText hname hshort)).append hending

theorem startsPlain_segments (hcode : isToptierCode code = true) :
    ∀ s ∈ segments year period code name abbreviation, Path.StartsPlain s := by
  have hmonth : PlainText "P" := ⟨by decide, Path.isPlain_of_all (by decide)⟩
  simp only [segments_eq, List.forall_mem_cons]
  refine ⟨?_, ?_, ?_, ?_, ?_, ?_, fun s hs => absurd hs List.not_mem_nil⟩
  · exact ⟨'a', "gency_submissions".toList, by decide, by decide⟩
  · exact ⟨'R', "aw DATA Act Files".toList, by decide, by decide⟩
  · exact (plainText_int year).startsPlain
  · exact (hmonth.append (plainText_twoDigits period)).startsPlain
  · exact (plainText_code hcode).startsPlain
  · exact startsPlain_fileName

theorem oneLine_segments (hcode : isToptierCode code = true) (hname : OneLine name)
    (hshort : ∀ short ∈ abbreviation, OneLine short) :
    ∀ s ∈ segments year period code name abbreviation, OneLine s := by
  simp only [segments_eq, List.forall_mem_cons]
  refine ⟨by decide, by decide, ?_, ?_, ?_, ?_, fun s hs => absurd hs List.not_mem_nil⟩
  · exact (plainText_int year).oneLine
  · exact oneLine_month
  · exact (plainText_code hcode).oneLine
  · exact oneLine_fileName hcode hname hshort

theorem ofRecord?_eq (files : Url) (r : PeriodRecord) :
    ofRecord? files r =
      if r.recentPublicationDate.isSome then
        url? files r.fiscalYear r.fiscalPeriod r.toptierCode r.agencyName r.abbreviation
      else none := by
  unfold ofRecord?
  cases r.recentPublicationDate <;> rfl

/-- The statement of a record has an address, and that is below the address of all files: its path
goes on with the six segments of the statement, whatever the agency is called. The text of the
address spells it, and no other one. The rows that show the record have that text in them exactly if
the record has been published. -/
theorem statement_leadsTo {text : String} {files : Url} (hfiles : Url.parse text = .ok files)
    (hscheme : Url.IsHttp files.scheme)
    (hinner : ∀ base, files.path = .rooted base → ∀ s ∈ (Path.segments base).dropLast, s ≠ [])
    {r : PeriodRecord} (hcode : isToptierCode r.toptierCode = true) (hname : OneLine r.agencyName)
    (hshort : ∀ short ∈ r.abbreviation, OneLine short) :
    ∃ u, url? files r.fiscalYear r.fiscalPeriod r.toptierCode r.agencyName r.abbreviation = some u ∧
      files.LeadsTo u ["agency_submissions", "Raw DATA Act Files", toString r.fiscalYear,
        "P" ++ twoDigits r.fiscalPeriod, r.toptierCode,
        fileName r.fiscalYear r.fiscalPeriod r.toptierCode r.agencyName r.abbreviation] ∧
      (∀ v, Url.Spells u.render v ↔ v = u) ∧
      (∀ year period filter,
        ((Subject.agencies year period filter).shown files r).cell? "assurance_statement_url" =
          some (.text (if r.recentPublicationDate.isSome then some u.render else none))) ∧
      ∀ code, ((Subject.periods code).shown files r).cell? "assurance_statement_url" =
        some (.text (if r.recentPublicationDate.isSome then some u.render else none)) := by
  obtain ⟨server, base, h⟩ := Url.exists_isWritten_of_parse hfiles hscheme
  obtain ⟨u, hu, hleads⟩ := Url.exists_leadsTo_of_extend? h.onServer (hinner base h.onServer.path)
    (List.cons_ne_nil _ _) (startsPlain_segments hcode) (oneLine_segments hcode hname hshort)
  obtain ⟨path, hwritten⟩ := hleads.isWritten h
  have hspells := Url.spells_render hwritten
  refine ⟨u, hu, segments_eq .. ▸ hleads, fun v => ⟨fun h => h.unique hspells, ?_⟩, ?_⟩
  · rintro rfl
    exact hspells
  have hstatement : (ofRecord? files r).map Url.render =
      if r.recentPublicationDate.isSome then some u.render else none := by
    rw [ofRecord?_eq, show url? files r.fiscalYear r.fiscalPeriod r.toptierCode r.agencyName
      r.abbreviation = some u from hu]
    split
    · rfl
    · rfl
  rw [← hstatement]
  exact ⟨fun _ _ _ => rfl, fun _ => rfl⟩

/-- An address with a path that ends in a slash. -/
def archive : Url where
  scheme := ['h', 't', 't', 'p', 's']
  authority := some ⟨none, ['f', 'i', 'l', 'e', 's'], none⟩
  path := .rooted ['/', 'd', 'a', 't', 'a', '/']
  query := none
  fragment := none

/-- A name with all that could end a segment or lead out of one. -/
theorem statement_leadsTo_archive :
    Url.parse "https://files/data/" = .ok archive ∧
    ∃ u, url? archive 2021 6 "089" "Arms/Control: 100% #1?" (some "../é") = some u ∧
      u.render = "https://files/data/agency_submissions/Raw%20DATA%20Act%20Files/2021/P06/089/" ++
        "2021-P06-089_Arms%2FControl:%20100%25%20%231%3F%20(..%2F%C3%A9)-Assurance_Statement.txt" ∧
      archive.LeadsTo u ["agency_submissions", "Raw DATA Act Files", "2021", "P06", "089",
        "2021-P06-089_Arms/Control: 100% #1? (../é)-Assurance_Statement.txt"] := by
  have hfiles : Url.parse "https://files/data/" = .ok archive := by decide +kernel
  have hinner : ∀ base, archive.path = .rooted base →
      ∀ s ∈ (Path.segments base).dropLast, s ≠ [] := by
    intro base hbase
    obtain rfl := UrlPath.rooted.inj hbase
    decide
  obtain ⟨u, hu, hleads, -⟩ := statement_leadsTo hfiles (.inr rfl) hinner
    (r := Subject.sampleRecord "Arms/Control: 100% #1?" "089" (some "../é") 0)
    (by decide) (by decide) (by decide)
  have hname : fileName 2021 6 "089" "Arms/Control: 100% #1?" (some "../é") =
      "2021-P06-089_Arms/Control: 100% #1? (../é)-Assurance_Statement.txt" := by
    decide +kernel
  have hrender : ∀ v ∈ url? archive 2021 6 "089" "Arms/Control: 100% #1?" (some "../é"), v.render =
    "https://files/data/agency_submissions/Raw%20DATA%20Act%20Files/2021/P06/089/" ++
    "2021-P06-089_Arms%2FControl:%20100%25%20%231%3F%20(..%2F%C3%A9)-Assurance_Statement.txt" := by
    decide +kernel
  exact ⟨hfiles, u, hu, hrender u hu, hname ▸ hleads⟩

end Assurance

end Outlays
