import Switchboard.Json.Record
import Switchboard.Text.Lines

/-!
# Open documents and their changes

A document is a text with a version and a language.  Its text changes by full
replacements and by replacements of a range between two positions.
-/

namespace Switchboard

open Text (Position)

/-- A stretch of a text between two positions. -/
structure Range where
  start : Position
  stop : Position
  deriving DecidableEq, Repr

/-- A change of a document's text; without a range it replaces everything. -/
structure ContentChange where
  range : Option Range
  text : String
  deriving DecidableEq, Repr

namespace ContentChange

open Json

/-- Reads a position. -/
def readPosition? (j : Json) : Option Position := do
  match ← j.fields? ["line", "character"] with
  | [line, character] =>
      return ⟨← required natural32? line, ← required natural32? character⟩
  | _ => none

/-- Reads a range. -/
def readRange? (j : Json) : Option Range := do
  match ← j.fields? ["start", "end"] with
  | [start, stop] => return ⟨← required readPosition? start, ← required readPosition? stop⟩
  | _ => none

/-- Reads a change.  The length of the replaced range may be given and is not used. -/
def ofJson? (j : Json) : Option ContentChange := do
  match ← j.fields? ["range", "rangeLength", "text"] with
  | [range, rangeLength, text] =>
      let range ← optional readRange? range
      let _ ← optional natural32? rangeLength
      return ⟨range, ← required text? text⟩
  | _ => none

/-- Reads a list of changes. -/
def listOfJson? : Json → Option (List ContentChange) := listOf? ofJson?

/-- The text after a change.  A range whose end comes before its start is empty. -/
def apply (change : ContentChange) (text : List Char) : List Char :=
  match change.range with
  | none => change.text.toList
  | some range =>
      let start := Text.charIndex text range.start
      let stop := max start (Text.charIndex text range.stop)
      text.take start ++ change.text.toList ++ text.drop stop

end ContentChange

/-- An open document. -/
structure Document where
  text : String
  version : Int
  language : String
  deriving DecidableEq, Repr

namespace Document

/-- The number of lines. -/
def lineCount (document : Document) : Nat := Text.lineCount document.text.toList

/-- Applies changes one after the other and takes a new version. -/
def applyChanges (document : Document) (changes : List ContentChange) (version : Int) : Document :=
  { document with
    text := String.ofList (changes.foldl (fun text change => change.apply text) document.text.toList)
    version := version }

end Document

end Switchboard
