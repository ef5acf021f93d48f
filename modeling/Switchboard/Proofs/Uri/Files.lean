import Mathlib.Data.List.Basic
import Mathlib.Tactic.Common
import Switchboard.Proofs.Uri.Escapes
import Switchboard.Selector

/-!
# Documents in files

The URI of a file has a host, which may be empty, the path of the file with percent escapes, and
perhaps a query and a fragment.  Read as a document it has the scheme of files and exactly the
path that was escaped, whatever characters that path has, so filters see the path itself.
-/

namespace Switchboard.Uri

/-! ## URIs of files -/

/-- An optional part of a URI, after the mark that sets it off. -/
def part (mark : String) (text : Option String) : String := text.elim "" fun text => mark ++ text

/-- The parts of a URI after its path. -/
def trailer (query fragment : Option String) : String := part "?" query ++ part "#" fragment

/-- The URI of a file, from its parts as they are written. -/
def fileUri (host path : String) (query fragment : Option String) : String :=
  "file://" ++ host ++ path ++ trailer query fragment

theorem toList_fileUri (host path : String) (query fragment : Option String) :
    (fileUri host path query fragment).toList =
      'f' :: 'i' :: 'l' :: 'e' :: ':' :: '/' :: '/' ::
        (host.toList ++ (path.toList ++ (trailer query fragment).toList)) := by
  simp [fileUri, String.toList_append, List.append_assoc]

/-! ## The authority -/

theorem splitAt_of_notMem {mark : Char} {cs : List Char} (h : mark ∉ cs) :
    splitAt mark cs = [cs] := by
  induction cs with
  | nil => rfl
  | cons c cs ih =>
      rw [List.mem_cons, not_or] at h
      rw [splitAt, if_neg (Ne.symm h.1), ih h.2]

/-- A host of unreserved characters is dropped with the user and the port that it does not have. -/
theorem dropAuthority?_append
    {host rest : List Char} (h : ∀ c ∈ host, isUnreserved c = true) :
    dropAuthority? (host ++ '/' :: rest) = some ('/' :: rest) := by
  have hscan : scan isUserChar (host ++ '/' :: rest) = some (host, '/' :: rest) := by
    apply scan_append_of_unreserved h
    · intro c hc
      simp [isUserChar, isNameChar, hc]
    · exact scan_of_not_allowed (by decide) rfl
  have hcolon : ':' ∉ host := fun hmem => ne_of_isUnreserved (h _ hmem) rfl rfl
  -- Only where nothing was scanned could an address in brackets follow.
  cases host with
  | nil =>
      simp only [dropAuthority?, hscan]
      rfl
  | cons c host =>
      simp only [dropAuthority?, hscan, Option.bind_eq_bind, Option.bind_some,
        splitAt_of_notMem hcolon]
      rfl

/-! ## Query and fragment -/

section Trailer

variable {query fragment : Option String}

theorem scan_unreserved {text : String} {rest : List Char} (h : Unreserved text)
    (hstop : scan isQueryChar rest = some ([], rest)) :
    scan isQueryChar (text.toList ++ rest) = some (text.toList, rest) := by
  apply scan_append_of_unreserved h
  · intro c hc
    simp [isQueryChar, isPathChar, isNameChar, hc]
  · exact hstop

theorem trailer_none (fragment : Option String) : trailer none fragment = part "#" fragment :=
  String.empty_append

theorem toList_trailer_some (text : String) (fragment : Option String) :
    (trailer (some text) fragment).toList = '?' :: (text.toList ++ (part "#" fragment).toList) := by
  simp [trailer, part]

theorem toList_fragment (text : String) : (part "#" (some text)).toList = '#' :: text.toList := by
  simp [part]

theorem scan_fragment (fragment : Option String) {allowed : Char → Bool}
    (hmark : allowed '#' = false) :
    scan allowed (part "#" fragment).toList = some ([], (part "#" fragment).toList) := by
  cases fragment with
  | none => exact scan_nil
  | some text =>
      rw [toList_fragment]
      exact scan_of_not_allowed (by decide) hmark

theorem scan_trailer (query fragment : Option String) :
    scan isPathChar (trailer query fragment).toList =
      some ([], (trailer query fragment).toList) := by
  cases query with
  | none =>
      rw [trailer_none]
      exact scan_fragment fragment rfl
  | some text =>
      rw [toList_trailer_some]
      exact scan_of_not_allowed (by decide) rfl

theorem endsReference_fragment (h : ∀ text ∈ fragment, Unreserved text) :
    endsReference (part "#" fragment).toList = true := by
  cases fragment with
  | none => rfl
  | some text =>
      have hscan := scan_unreserved (h text rfl) scan_nil
      rw [List.append_nil] at hscan
      have hends : endsReference ('#' :: text.toList) =
          ((scan isQueryChar text.toList).map Prod.snd == some []) := rfl
      rw [toList_fragment, hends, hscan]
      rfl

/-- A query is scanned to the fragment, which may or may not be there. -/
theorem endsReference_trailer
    (hquery : ∀ text ∈ query, Unreserved text) (hfragment : ∀ text ∈ fragment, Unreserved text) :
    endsReference (trailer query fragment).toList = true := by
  have hends := endsReference_fragment hfragment
  cases query with
  | none => rwa [trailer_none]
  | some text =>
      have hscan := scan_unreserved (hquery text rfl) (scan_fragment fragment rfl)
      rw [toList_trailer_some, endsReference, hscan]
      cases fragment with
      | none => rfl
      | some text =>
          rw [toList_fragment] at hends ⊢
          exact hends

end Trailer

/-! ## The whole URI -/

section File

variable {written host : String} {query fragment : Option String}

/-- The hierarchy of a file is its path as it is written. -/
theorem takeHierarchy?_file
    {bytes : List UInt8} (hhost : Unreserved host)
    (hwritten : Escaped ('/'.toUInt8 :: bytes) written.toList)
    (hquery : ∀ text ∈ query, Unreserved text) (hfragment : ∀ text ∈ fragment, Unreserved text) :
    takeHierarchy? ('/' :: '/' ::
        (host.toList ++ (written.toList ++ (trailer query fragment).toList))) =
      some written.toList := by
  have hscan := hwritten.scan_append (scan_trailer query fragment)
  have hends := endsReference_trailer hquery hfragment
  obtain ⟨more, hslash⟩ := hwritten.exists_cons_slash
  rw [hslash] at hscan ⊢
  rw [takeHierarchy?, List.cons_append, dropAuthority?_append hhost, Option.bind_eq_bind,
    Option.bind_some, takeRootedPath?, takePath?, ← List.cons_append, hscan]
  simp only [Option.bind_eq_bind, Option.bind_some, hends]
  rfl

/-- The scheme and the path of a file are read from its URI as they are written. -/
theorem parse?_fileUri
    {bytes : List UInt8} (hhost : Unreserved host)
    (hwritten : Escaped ('/'.toUInt8 :: bytes) written.toList)
    (hquery : ∀ text ∈ query, Unreserved text) (hfragment : ∀ text ∈ fragment, Unreserved text) :
    Reference.parse? (fileUri host written query fragment) = some ⟨some "file", written⟩ := by
  have hspan : ∀ rest : List Char,
      ('f' :: 'i' :: 'l' :: 'e' :: ':' :: rest).span isSchemeChar =
        (['f', 'i', 'l', 'e'], ':' :: rest) := by
    intro rest
    rfl
  rw [Reference.parse?, toList_fileUri, hspan]
  simp only [takeHierarchy?_file hhost hwritten hquery hfragment, Option.map_some,
    String.ofList_toList]
  rfl

end File

end Switchboard.Uri

namespace Switchboard

open Uri

/-! ## Filters -/

theorem DocumentFilter.admits_iff (filter : DocumentFilter) (document : DocumentRef) :
    filter.admits document = true ↔
      (∀ language, filter.language = some language → document.language = some language) ∧
      (∀ scheme, filter.scheme = some scheme → document.scheme = some scheme) ∧
      ∀ glob, filter.pattern = some glob → glob.admits document.path = true := by
  obtain ⟨language, scheme, pattern⟩ := filter
  cases language <;> cases scheme <;> cases pattern <;> simp [admits, and_assoc]

/-- A document with the URI of a file has the path of the file, in whatever way its bytes are
written, and filters decide about it by its language, the scheme of files and that path. -/
theorem DocumentRef.file_path_survives
    {path written host : String} {query fragment : Option String} {document : DocumentRef}
    (hpath : path.toList.head? = some '/')
    (hwritten : Escaped path.toUTF8.toList written.toList)
    (hhost : Unreserved host) (hquery : ∀ text ∈ query, Unreserved text)
    (hfragment : ∀ text ∈ fragment, Unreserved text)
    (huri : document.uri = fileUri host written query fragment) :
    document.scheme = some "file" ∧ document.path = path ∧
      ∀ filter : DocumentFilter, filter.admits document = true ↔
        (∀ language, filter.language = some language → document.language = some language) ∧
        (∀ scheme, filter.scheme = some scheme → scheme = "file") ∧
        ∀ glob, filter.pattern = some glob → glob.admits path = true := by
  have hparts : document.parts = (some "file", written) := by
    obtain ⟨rest, hrest⟩ := List.head?_eq_some_iff.mp hpath
    have hbytes := Text.toList_toUTF8 path
    -- The first byte is the slash at which the authority ends.
    rw [hrest, List.flatMap_cons, Text.utf8EncodeChar_of_lt (by decide)] at hbytes
    rw [hbytes] at hwritten
    rw [DocumentRef.parts, huri, parse?_fileUri hhost hwritten hquery hfragment]
    rfl
  have hscheme : document.scheme = some "file" := by
    rw [DocumentRef.scheme, hparts]
  have hdecoded : document.path = path := by
    rw [DocumentRef.path, hparts]
    exact percentDecode_of_escaped hwritten
  refine ⟨hscheme, hdecoded, ?_⟩
  intro filter
  rw [filter.admits_iff, hscheme, hdecoded]
  simp only [Option.some_inj, eq_comm]

/-- A path with two slashes in front and with characters that mark other parts of a URI. -/
def oddPath : String := "//über uns/100% #1?:~.cs"

/-- The document at this path, with a query and a fragment. -/
def oddDocument : DocumentRef :=
  ⟨"file:////%C3%BCber%20uns/100%25%20%231%3F%3A~.cs?v2#L10", some "csharp"⟩

/-- The path is read back, and a pattern for the directory finds it. -/
theorem oddDocument_path :
    oddPath.toList.head? = some '/' ∧
      Escaped oddPath.toUTF8.toList (escapePath oddPath).toList ∧
      Unreserved "" ∧ Unreserved "v2" ∧ Unreserved "L10" ∧
      oddDocument.uri = fileUri "" (escapePath oddPath) (some "v2") (some "L10") ∧
      oddDocument.scheme = some "file" ∧ oddDocument.path = oddPath ∧
      (∃ glob, Glob.ofSource "//über uns/*.cs" = .ok glob ∧
        DocumentFilter.admits ⟨some "csharp", some "file", some glob⟩ oddDocument = true) ∧
      DocumentFilter.admits ⟨none, some "untitled", none⟩ oddDocument = false := by
  have hstart : oddPath.toList.head? = some '/' := by decide +kernel
  have hwritten := escaped_escapePath oddPath
  have hhost : Unreserved "" := by decide
  have hquery : Unreserved "v2" := by decide +kernel
  have hfragment : Unreserved "L10" := by decide +kernel
  have huri : oddDocument.uri = fileUri "" (escapePath oddPath) (some "v2") (some "L10") := by
    decide +kernel
  obtain ⟨hscheme, hpath, hfilters⟩ := DocumentRef.file_path_survives hstart hwritten hhost
    (by simpa using hquery) (by simpa using hfragment) huri
  have hglob : ∃ glob, Glob.ofSource "//über uns/*.cs" = .ok glob ∧ glob.admits oddPath = true :=
    ⟨_, rfl, by decide +kernel⟩
  obtain ⟨glob, hcompiles, hmatches⟩ := hglob
  refine ⟨hstart, hwritten, hhost, hquery, hfragment, huri, hscheme, hpath,
    ⟨glob, hcompiles, ?_⟩, ?_⟩
  · rw [hfilters]
    simp [oddDocument, hmatches]
  · rw [Bool.eq_false_iff, Ne, hfilters]
    simp

end Switchboard
