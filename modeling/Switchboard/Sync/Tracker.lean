import Switchboard.Document.Store
import Switchboard.Registry.Snapshot
import Switchboard.Sync.Notice

/-!
# Tracking documents

How the store of open documents follows the notices of an editor.  A document is
opened in the store only when the filter of some registered handler admits it;
changes, saves and closings of other documents leave no trace.
-/

namespace Switchboard

namespace DocumentStore

/-- The store after a notice, given the filters that decide what is tracked. -/
def track (filters : List DocumentFilter) (store : DocumentStore) : SyncNotice → DocumentStore
  | .opened uri language version text =>
      if filters.any fun filter => filter.admits ⟨uri, some language⟩ then
        store.opened uri ⟨text, version, language⟩
      else store
  | .changed uri version changes => (store.changed uri changes version).2
  | .closed uri => (store.closed uri).2
  | .saved uri (some text) =>
      match store.get? uri with
      | none => store
      | some document => (store.changed uri [⟨none, text⟩] document.version).2
  | .saved _ none => store
  | .saving _ _ => store

/-- Whether a method changes the store. -/
def tracksMethod (method : String) : Bool :=
  method ∈ ["textDocument/didOpen", "textDocument/didChange", "textDocument/didClose",
    "textDocument/didSave"]

/-- The store after a message, which is an error when its parameters do not read. -/
def observe (snapshot : Snapshot) (store : DocumentStore) (method : String) (params : Json) :
    Except HandlerError DocumentStore :=
  if tracksMethod method then
    match (SyncNotice.reader? method).bind fun read => read params with
    | some notice => .ok (store.track snapshot.documentFilters notice)
    | none => .error .malformed
  else .ok store

end DocumentStore

end Switchboard
