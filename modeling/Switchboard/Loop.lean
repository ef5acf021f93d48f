import Switchboard.Host
import Switchboard.Message
import Switchboard.Negotiation
import Switchboard.Sync.Tracker

/-!
# The message loop

Requests and notifications are routed through a fresh snapshot of the registry,
so that a change of the registry takes effect with the next message.  A request
goes to one handler and gets one response; a notification first updates the
open documents and then goes to every handler that the snapshot lists for it.
-/

namespace Switchboard

/-- Whether the loop reads on after a message. -/
inductive Control where
  | proceed
  | stop
  deriving DecidableEq, Repr

/-- The state of the message loop. -/
structure LoopState (σ : Type) where
  host : Host σ
  /-- What the client declared when it connected. -/
  client : ClientTree := {}
  shutdownRequested : Bool := false
  /-- How many requests the server has made itself. -/
  requestsMade : Nat := 0

/-- The outcome of handling one message. -/
structure Step (σ : Type) where
  state : LoopState σ
  sent : List Message := []
  control : Control := .proceed

namespace LoopState

variable {σ : Type}

/-- The document that a message is about, if it names one.  Its language comes
from the message when it opens the document, and else from the store. -/
def target (documents : DocumentStore) (method : String) (params : Json) : Option DocumentRef := do
  let document ← params.member? "textDocument"
  let uri ← (document.member? "uri").bind Json.text?
  let language :=
    if method = "textDocument/didOpen" then (document.member? "languageId").bind Json.text?
    else documents.language? uri
  return ⟨uri, language⟩

/-- A message concerns a document.  Its parameters name the document; the language is the
one that they give when they open it, and else the one under which it is open. -/
structure Concerns (documents : DocumentStore) (method : String) (params : Json)
    (document : DocumentRef) : Prop where
  named : params.TextAt ["textDocument", "uri"] document.uri
  introduced : method = "textDocument/didOpen" → ∀ language,
    document.language = some language ↔ params.TextAt ["textDocument", "languageId"] language
  known : method ≠ "textDocument/didOpen" → ∀ language,
    document.language = some language ↔
      ∃ opened, documents.get? document.uri = some opened ∧ opened.language = language

section Target

variable {documents : DocumentStore} {method : String} {params : Json} {document : DocumentRef}

theorem Concerns.language_eq (h : Concerns documents method params document) :
    document.language =
      if method = "textDocument/didOpen" then
        (["textDocument", "languageId"].foldlM Json.member? params).bind Json.text?
      else documents.language? document.uri := by
  apply Option.ext
  intro language
  split
  next hopening => rw [h.introduced hopening, Json.textAt_iff]
  next hlater => rw [h.known hlater, DocumentStore.language?, Option.map_eq_some_iff]

/-- What the loop finds is the document that the message concerns. -/
theorem target_eq_some_iff :
    target documents method params = some document ↔
      Concerns documents method params document := by
  constructor
  · intro h
    obtain ⟨identifier, hidentifier, h⟩ := Option.bind_eq_some_iff.mp h
    obtain ⟨uri, huri, h⟩ := Option.bind_eq_some_iff.mp h
    cases h
    obtain ⟨name, hname, htext⟩ := Option.bind_eq_some_iff.mp huri
    refine ⟨?_, ?_, ?_⟩
    · rw [Json.textAt_iff]
      simp [hidentifier, hname, htext]
    · intro hopening language
      rw [Json.textAt_iff]
      simp [hopening, hidentifier]
    · intro hlater language
      simp [hlater, DocumentStore.language?, Option.map_eq_some_iff]
  · intro h
    have hnamed := Json.textAt_iff.mp h.named
    have hlanguage := h.language_eq
    obtain ⟨uri, language⟩ := document
    cases hidentifier : params.member? "textDocument" with
    | none => simp [hidentifier] at hnamed
    | some identifier =>
        simp [hidentifier] at hnamed hlanguage
        simp [target, hidentifier, hnamed, hlanguage]

end Target

/-- The response for a handler's outcome. -/
def respond (id : RequestId) : Except HandlerError Json → Message
  | .ok value => .success id value
  | .error (.invalidParams reason) =>
      .failure id .invalidParams (HandlerError.invalidParams reason).message
  | .error (.failed reason) => .failure id .internalError (HandlerError.failed reason).message

/-- Routes a request to the first handler that serves its method and document. -/
def dispatch (app : Application σ) (host : Host σ) (id : RequestId) (method : String)
    (params : Json) : Message × Host σ :=
  match host.snapshot.route method (target host.documents method params) with
  | none => (.failure id .methodNotFound ("Unhandled request: " ++ method), host)
  | some descriptor =>
      let (outcome, host) := host.invoke app descriptor params
      (respond id outcome, host)

/-- Answers a request. -/
def answer (app : Application σ) (state : LoopState σ) (id : RequestId) (method : String)
    (params : Json) : Step σ :=
  if method = "shutdown" then
    { state := { state with shutdownRequested := true }, sent := [.success id .null] }
  else if method = "initialize" then
    { state := state, sent := [.failure id .invalidRequest "Server is already initialized"] }
  else if state.shutdownRequested then
    { state := state, sent := [.failure id .invalidRequest "Server is shutting down"] }
  else
    let (response, host) := dispatch app state.host id method params
    { state := { state with host := host }, sent := [response] }

/-- The open documents after a message; parameters that do not read change nothing. -/
def observed (host : Host σ) (method : String) (params : Json) : DocumentStore :=
  match host.documents.observe host.snapshot method params with
  | .ok documents => documents
  | .error _ => host.documents

/-- Delivers a notification to every handler that was registered for it when it
arrived.  The document is the one known before the notification, the store that
handlers see the one after it. -/
def deliver (app : Application σ) (host : Host σ) (method : String) (params : Json) : Host σ :=
  let receivers := host.snapshot.routeAll method (target host.documents method params)
  let host := { host with documents := observed host method params }
  host.invokeAll app receivers params

/-- Handles one message. -/
def handle (app : Application σ) (state : LoopState σ) : Message → Step σ
  | .request id method params => state.answer app id method params
  | .response _ _ _ => { state := state }
  | .notification method params =>
      if method = "exit" then { state := state, control := .stop }
      else { state := { state with host := deliver app state.host method params } }

/-- Asks the client to register every capability it wants to register
dynamically, if there are any.  Returns how many. -/
def requestRegistrations (state : LoopState σ) : Nat × Step σ :=
  let registrations := state.host.snapshot.dynamicRegistrations state.client
  if registrations.isEmpty then (0, { state := state })
  else
    let count := state.requestsMade + 1
    let params := Json.ofMembers
      [("registrations", .array (registrations.map DynamicRegistration.toJson))]
    (registrations.length,
      { state := { state with requestsMade := count }
        sent := [.request (.text ("capstan/register/" ++ toString count))
          "client/registerCapability" params] })

/-- Handles messages up to the first exit, and returns what was sent. -/
def run (app : Application σ) (state : LoopState σ) : List Message → LoopState σ × List Message
  | [] => (state, [])
  | message :: rest =>
      let step := state.handle app message
      match step.control with
      | .stop => (step.state, step.sent)
      | .proceed =>
          let (final, sent) := run app step.state rest
          (final, step.sent ++ sent)

end LoopState

end Switchboard
