import Switchboard.Document.Basic
import Switchboard.Ordered

/-!
# The store of open documents

The documents that are open, by URI.
-/

namespace Switchboard

/-- The open documents, by URI. -/
abbrev DocumentStore := Table Document

namespace DocumentStore

/-- The document at a URI. -/
def get? (store : DocumentStore) (uri : String) : Option Document := Table.find? store uri

/-- Opens a document; one that was open at the URI is replaced. -/
def opened (store : DocumentStore) (uri : String) (document : Document) : DocumentStore :=
  Table.insert uri document store

/-- Closes a document, and tells whether it was open. -/
def closed (store : DocumentStore) (uri : String) : Bool × DocumentStore :=
  ((store.get? uri).isSome, Table.erase uri store)

/-- Changes an open document, and tells whether it was open. -/
def changed (store : DocumentStore) (uri : String) (changes : List ContentChange)
    (version : Int) : Bool × DocumentStore :=
  match store.get? uri with
  | none => (false, store)
  | some document => (true, Table.insert uri (document.applyChanges changes version) store)

/-- The language of an open document. -/
def language? (store : DocumentStore) (uri : String) : Option String :=
  (store.get? uri).map Document.language

end DocumentStore

end Switchboard
