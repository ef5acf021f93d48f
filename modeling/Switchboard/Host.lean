import Switchboard.Document.Store
import Switchboard.Registry.Desk
import Switchboard.Registry.Snapshot
import Switchboard.Sync.Notice

/-!
# Serving a call

A host holds what handlers can reach while they run: the registry with its
registrations, the open documents, and the state of the embedding application.
A call to a built-in handler is served here.  How the application's own handlers
serve theirs is a parameter: they see the whole host, and may change the
registry and the application's state, but not the documents.
-/

namespace Switchboard

/-- What handlers can reach while they run. -/
structure Host (σ : Type) where
  desk : Desk := {}
  documents : DocumentStore := []
  /-- The state of the embedding application. -/
  app : σ

/-- How an embedding application serves the calls to its own handlers: given the
handler, the method, the parameters and the host, it returns an outcome with the
new registry and the new state of the application. -/
abbrev Application (σ : Type) :=
  Handler → String → Json → Host σ → Except HandlerError Json × Desk × σ

/-! ## The built-in sync handler -/

/-- Serves a notice: it has to be one, and its parameters have to read. -/
def serveSync (method : String) (params : Json) : Except HandlerError Json :=
  match SyncNotice.reader? method with
  | none => .error (.failed ("unexpected method " ++ method))
  | some read =>
      match read params with
      | some _ => .ok .null
      | none => .error .malformed

/-! ## The built-in command handler -/

/-- Reads the command of a command call.  Arguments, if there are any, have to
be an array, and a progress token a number or a string. -/
def readCommand? (params : Json) : Option String := do
  match params with
  | .object _ =>
      let command ← (params.member? "command").bind Json.text?
      let _ ← Json.defaulted [] Json.items? (params.member? "arguments")
      let _ ← Json.optional
        (fun token => if token.integer32?.isSome || token.text?.isSome then some token else none)
        (params.member? "workDoneToken")
      return command
  | _ => none

/-- The methods a registry serves, with its generation. -/
def listMethods (snapshot : Snapshot) : Json :=
  .ofMembers [
    ("generation", .ofNat snapshot.generation),
    ("methods", .array (snapshot.descriptors.map fun descriptor =>
      .ofMembers [
        ("method", .string descriptor.method),
        ("capability", .ofText? (descriptor.capability.map Capability.display)),
        ("handler", .string descriptor.handler.name)]))]

/-- The open documents, without their texts. -/
def listDocuments (documents : DocumentStore) : Json :=
  .array (documents.map fun (uri, document) =>
    .ofMembers [
      ("uri", .string uri),
      ("languageId", .string document.language),
      ("version", .integer document.version),
      ("lineCount", .ofNat document.lineCount)])

/-- Serves a command call.  A configured command does nothing. -/
def CommandTable.serve {σ : Type} (table : CommandTable) (params : Json) (host : Host σ) :
    Except HandlerError Json :=
  match readCommand? params with
  | none => .error .malformed
  | some command =>
      if command = "capstan.listMethods" then
        if table.registryAlive && host.desk.alive then
          .ok (listMethods host.desk.registry.snapshot)
        else .error (.failed "handler registry is gone")
      else if command = "capstan.listDocuments" then
        .ok (listDocuments (if table.sharesDocuments then host.documents else []))
      else if command ∈ table.extra then .ok .null
      else .error (.invalidParams ("unknown command " ++ command))

/-! ## Any handler -/

namespace Host

variable {σ : Type}

/-- What the registry lists now. -/
def snapshot (host : Host σ) : Snapshot := host.desk.registry.snapshot

/-- Runs the handler of a descriptor, which may change the host. -/
def invoke (app : Application σ) (host : Host σ) (descriptor : Descriptor) (params : Json) :
    Except HandlerError Json × Host σ :=
  match descriptor.handler.kind with
  | .application _ =>
      let (outcome, desk, state) := app descriptor.handler descriptor.method params host
      (outcome, { host with desk := desk, app := state })
  | .documentSync _ => (serveSync descriptor.method params, host)
  | .executeCommand table => (table.serve params host, host)

/-- Runs the handlers of several descriptors in order, whatever they answer. -/
def invokeAll (app : Application σ) (host : Host σ) (descriptors : List Descriptor)
    (params : Json) : Host σ :=
  descriptors.foldl (fun host descriptor => (host.invoke app descriptor params).2) host

/-- No handler changes the open documents. -/
theorem documents_invoke (app : Application σ) (host : Host σ) (descriptor : Descriptor)
    (params : Json) : (host.invoke app descriptor params).2.documents = host.documents := by
  unfold invoke
  split <;> rfl

end Host

end Switchboard
