import Switchboard.Document.Basic
import Switchboard.Handler
import Switchboard.Uri.Reference

/-!
# Notices about documents

The notifications by which an editor reports on a document: opened, changed,
closed and saved, and the announcements of a save.  A notice is read from a
method and its parameters.
-/

namespace Switchboard

/-- A notice about a document. -/
inductive SyncNotice where
  | opened (uri language : String) (version : Int) (text : String)
  | changed (uri : String) (version : Int) (changes : List ContentChange)
  | closed (uri : String)
  | saved (uri : String) (text : Option String)
  /-- The document is about to be saved. -/
  | saving (uri : String) (reason : Int)
  deriving DecidableEq, Repr

namespace SyncNotice

open Json

/-- Reads the URI of a document. -/
def readUri? (j : Json) : Option String := do
  let uri ← j.text?
  if Uri.isReference uri then return uri else none

/-- Reads a document's identifier. -/
def readIdentifier? (j : Json) : Option String := do
  match ← j.fields? ["uri"] with
  | [uri] => required readUri? uri
  | _ => none

/-- Reads the parameters of an opening. -/
def readOpened? (params : Json) : Option SyncNotice := do
  match ← params.fields? ["textDocument"] with
  | [document] =>
      match ← (← document).fields? ["uri", "languageId", "version", "text"] with
      | [uri, language, version, text] =>
          return .opened (← required readUri? uri) (← required text? language)
            (← required integer32? version) (← required text? text)
      | _ => none
  | _ => none

/-- Reads the parameters of a change. -/
def readChanged? (params : Json) : Option SyncNotice := do
  match ← params.fields? ["textDocument", "contentChanges"] with
  | [document, changes] =>
      match ← (← document).fields? ["uri", "version"] with
      | [uri, version] =>
          return .changed (← required readUri? uri) (← required integer32? version)
            (← required ContentChange.listOfJson? changes)
      | _ => none
  | _ => none

/-- Reads the parameters of a closing. -/
def readClosed? (params : Json) : Option SyncNotice := do
  match ← params.fields? ["textDocument"] with
  | [document] => return .closed (← required readIdentifier? document)
  | _ => none

/-- Reads the parameters of a save. -/
def readSaved? (params : Json) : Option SyncNotice := do
  match ← params.fields? ["textDocument", "text"] with
  | [document, text] =>
      return .saved (← required readIdentifier? document) (← optional text? text)
  | _ => none

/-- Reads the parameters of the announcement of a save. -/
def readSaving? (params : Json) : Option SyncNotice := do
  match ← params.fields? ["textDocument", "reason"] with
  | [document, reason] =>
      return .saving (← required readIdentifier? document) (← required integer32? reason)
  | _ => none

/-- The reader for the parameters of a method, if the method is a notice. -/
def reader? (method : String) : Option (Json → Option SyncNotice) :=
  match method with
  | "textDocument/didOpen" => some readOpened?
  | "textDocument/didChange" => some readChanged?
  | "textDocument/didClose" => some readClosed?
  | "textDocument/didSave" => some readSaved?
  | "textDocument/willSave" => some readSaving?
  | "textDocument/willSaveWaitUntil" => some readSaving?
  | _ => none

end SyncNotice

end Switchboard
