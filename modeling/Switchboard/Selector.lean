import Switchboard.Glob
import Switchboard.Json.Record
import Switchboard.Text.Quoted
import Switchboard.Uri.Percent
import Switchboard.Uri.Reference

/-!
# Document selectors

A selector scopes a handler to some documents.  It is a list of filters and
admits a document when one of them does; a filter admits a document when every
field it gives agrees.  Filters arrive in protocol form and are compiled, so
that a malformed pattern is found when the selector is built.
-/

namespace Switchboard

/-- A document as filters see it. -/
structure DocumentRef where
  uri : String
  language : Option String := none
  deriving DecidableEq, Repr

namespace DocumentRef

/-- The scheme and the path of a document's URI, both as written.  A text that
is no URI reference, or whose scheme is a drive letter, is a bare path. -/
def parts (document : DocumentRef) : Option String × String :=
  match Uri.Reference.parse? document.uri with
  | none => (none, document.uri)
  | some reference =>
      match reference.scheme with
      | none => (none, reference.path)
      | some scheme =>
          if scheme.toList.length = 1 then (none, document.uri) else (some scheme, reference.path)

/-- The scheme of the document's URI. -/
def scheme (document : DocumentRef) : Option String := document.parts.1

/-- The path of the document without percent escapes. -/
def path (document : DocumentRef) : String := Uri.percentDecode document.parts.2

end DocumentRef

/-- A filter in protocol form: each field is optional. -/
structure FilterSpec where
  language : Option String := none
  scheme : Option String := none
  pattern : Option String := none
  deriving DecidableEq, Repr, Inhabited

namespace FilterSpec

/-- The fields of a filter that are present, in JSON. -/
def toJson (spec : FilterSpec) : Json :=
  let field := fun (name : String) (value : Option String) =>
    value.toList.map fun text => (name, Json.string text)
  .ofMembers (field "language" spec.language ++ field "scheme" spec.scheme ++
    field "pattern" spec.pattern)

/-- Reads a filter. -/
def ofJson? (j : Json) : Option FilterSpec := do
  match ← j.fields? ["language", "scheme", "pattern"] with
  | [language, scheme, pattern] =>
      return {
        language := ← Json.optional Json.text? language
        scheme := ← Json.optional Json.text? scheme
        pattern := ← Json.optional Json.text? pattern }
  | _ => none

end FilterSpec

open Json.Shape in
/-- The shape of a filter in protocol form. -/
def filterShape : Json.Shape :=
  struct [free "language" .text, free "scheme" .text, free "pattern" .text]

/-- A malformed pattern in a selector. -/
structure SelectorError where
  pattern : String
  fault : Glob.Fault
  deriving DecidableEq, Repr

/-- The wording of a selector error. -/
def SelectorError.message (error : SelectorError) : String :=
  "invalid document selector pattern " ++ Text.quoted error.pattern

/-- A compiled filter. -/
structure DocumentFilter where
  language : Option String := none
  scheme : Option String := none
  pattern : Option Glob := none
  deriving DecidableEq, Repr

namespace DocumentFilter

/-- Compiles a filter. -/
def ofSpec (spec : FilterSpec) : Except SelectorError DocumentFilter :=
  match spec.pattern with
  | none => .ok { language := spec.language, scheme := spec.scheme }
  | some source =>
      match Glob.ofSource source with
      | .ok glob => .ok ⟨spec.language, spec.scheme, some glob⟩
      | .error fault => .error ⟨source, fault⟩

/-- The protocol form of a filter. -/
def toSpec (filter : DocumentFilter) : FilterSpec :=
  ⟨filter.language, filter.scheme, filter.pattern.map Glob.source⟩

/-- Whether a document satisfies every field of the filter. -/
def admits (filter : DocumentFilter) (document : DocumentRef) : Bool :=
  (match filter.language with
    | none => true
    | some language => document.language == some language) &&
  (match filter.scheme with
    | none => true
    | some scheme => document.scheme == some scheme) &&
  (match filter.pattern with
    | none => true
    | some glob => glob.admits document.path)

/-- The filter in words: its fields joined by commas, or a star for none. -/
def display (filter : DocumentFilter) : String :=
  let field := fun (name : String) (value : Option String) =>
    value.toList.map fun text => name ++ "=" ++ text
  match field "language" filter.language ++ field "scheme" filter.scheme ++
      field "pattern" (filter.pattern.map Glob.source) with
  | [] => "*"
  | parts => ",".intercalate parts

/-- The order of optional texts: an absent one comes first. -/
def compareText : Option String → Option String → Ordering
  | none, none => .eq
  | none, some _ => .lt
  | some _, none => .gt
  | some a, some b => compareOfLessAndEq a b

/-- Whether a filter comes before another: by language, then scheme, then pattern. -/
def before (a b : DocumentFilter) : Bool :=
  (compareText a.language b.language).then
    ((compareText a.scheme b.scheme).then
      (compareText (a.pattern.map Glob.source) (b.pattern.map Glob.source))) == .lt

theorem toSpec_ofSpec {spec : FilterSpec} {filter : DocumentFilter}
    (h : ofSpec spec = .ok filter) : filter.toSpec = spec := by
  obtain ⟨language, scheme, pattern⟩ := spec
  cases pattern with
  | none =>
      simp only [ofSpec, Except.ok.injEq] at h
      simp [← h, toSpec]
  | some source =>
      simp only [ofSpec] at h
      split at h
      next glob hglob =>
        simp only [Except.ok.injEq] at h
        simp [← h, toSpec, Glob.source_ofSource hglob]
      next => simp at h

end DocumentFilter

/-- A list of filters; it admits what one of them admits. -/
abbrev DocumentSelector := List DocumentFilter

namespace DocumentSelector

/-- Compiles every filter of a selector; the first malformed pattern is the error. -/
def ofSpecs : List FilterSpec → Except SelectorError DocumentSelector
  | [] => .ok []
  | spec :: rest =>
      match DocumentFilter.ofSpec spec with
      | .error error => .error error
      | .ok filter => (ofSpecs rest).map (filter :: ·)

/-- The protocol form of a selector. -/
def toSpecs (selector : DocumentSelector) : List FilterSpec := selector.map DocumentFilter.toSpec

/-- Whether one of the filters admits a document. -/
def admits (selector : DocumentSelector) (document : DocumentRef) : Bool :=
  selector.any fun filter => filter.admits document

/-- The protocol form of a selector in JSON. -/
def toJson (selector : DocumentSelector) : Json :=
  .array (selector.toSpecs.map FilterSpec.toJson)

end DocumentSelector

end Switchboard
