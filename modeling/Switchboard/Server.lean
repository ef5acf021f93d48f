import Switchboard.Config
import Switchboard.Loop

/-!
# The server

How a connection begins and ends.  The client first sends `initialize`, which
registers the built-in handlers and is answered with the advertisement; then it
sends `initialized`, after which the server asks for its dynamic registrations
and enters the message loop.
-/

namespace Switchboard

/-- The version the server reports. -/
def serverVersion : String := "0.4.0"

/-- Breaches of the handshake. -/
inductive ProtocolError where
  /-- Something other than the request `initialize` came first. -/
  | expectedInitialize
  /-- Something other than the notification `initialized` came second. -/
  | expectedInitialized
  /-- The client hung up. -/
  | disconnected
  deriving DecidableEq, Repr

/-- The wording of a breach. -/
def ProtocolError.message : ProtocolError → String
  | .expectedInitialize => "expected initialize request"
  | .expectedInitialized => "expected initialized notification"
  | .disconnected => "disconnected channel"

/-- Why a server stops. -/
inductive ServerError where
  | protocol (cause : ProtocolError)
  | registry (cause : RegistryError)
  deriving DecidableEq, Repr

/-- The wording of a server error. -/
def ServerError.message : ServerError → String
  | .protocol cause => "protocol error: " ++ cause.message
  | .registry cause => cause.message

namespace Desk

/-- Registers the built-in handlers for the given settings. -/
def addBuiltin (desk : Desk) (config : ServerConfig) (sharesDocuments : Bool) :
    Except RegistryError Unit × Desk :=
  let (sync, desk) := desk.build (.documentSync config.documentSelector)
  match desk.add [sync] with
  | (.error error, desk) => (.error error, desk)
  | (.ok _, desk) =>
      let (commands, desk) :=
        desk.build (.executeCommand (.ofCommands config.commands sharesDocuments))
      match desk.add [commands] with
      | (.error error, desk) => (.error error, desk)
      | (.ok _, desk) => (.ok (), desk)

end Desk

/-- The answer to an initialization, and what the client declared in it. -/
structure Welcome where
  capabilities : Json
  serverName : String
  client : ClientTree
  deriving DecidableEq, Repr

/-- The answer to an initialization in protocol form. -/
def Welcome.toJson (welcome : Welcome) : Json :=
  .ofMembers [
    ("capabilities", welcome.capabilities),
    ("serverInfo", .ofMembers [
      ("name", .string welcome.serverName), ("version", .string serverVersion)])]

/-- Welcomes a client: registers the built-in handlers for the client's
settings and negotiates with its capabilities. -/
def Desk.welcome (desk : Desk) (params : Json) (sharesDocuments : Bool := true) :
    Except RegistryError Welcome × Desk :=
  let config := ServerConfig.ofInitializeParams params
  let client := ClientTree.ofInitializeParams params
  match desk.addBuiltin config sharesDocuments with
  | (.error error, desk) => (.error error, desk)
  | (.ok _, desk) =>
      (.ok ⟨desk.registry.snapshot.serverCapabilities client, config.serverName, client⟩, desk)

/-! ## A connection -/

/-- The phases of a connection. -/
inductive Connection (σ : Type) where
  /-- No `initialize` has come yet. -/
  | greeting (host : Host σ)
  /-- `initialize` was answered and `initialized` has not come yet. -/
  | confirming (state : LoopState σ)
  /-- The message loop runs. -/
  | serving (state : LoopState σ)
  /-- The connection is over; tells whether the client had asked for the
  shutdown, unless an error ended it. -/
  | ended (host : Host σ) (result : Except ServerError Bool)

namespace Connection

variable {σ : Type}

/-- Handles a message before the initialization. -/
def greet (host : Host σ) : Message → Connection σ × List Message
  | .request id method params =>
      if method = "initialize" then
        match host.desk.welcome params with
        | (.ok welcome, desk) =>
            let host := { host with desk := desk }
            (.confirming { host := host, client := welcome.client },
              [.success id welcome.toJson])
        | (.error error, desk) =>
            (.ended { host with desk := desk } (.error (.registry error)), [])
      else
        (.greeting host,
          [.failure id .serverNotInitialized ProtocolError.expectedInitialize.message])
  | .notification method _ =>
      if method = "exit" then (.ended host (.error (.protocol .expectedInitialize)), [])
      else (.greeting host, [])
  | .response _ _ _ => (.ended host (.error (.protocol .expectedInitialize)), [])

/-- Handles the message after the initialization. -/
def confirm (state : LoopState σ) : Message → Connection σ × List Message
  | .notification "initialized" _ =>
      let (_, step) := state.requestRegistrations
      (.serving step.state, step.sent)
  | _ => (.ended state.host (.error (.protocol .expectedInitialized)), [])

/-- Handles the next message; returns what is sent. -/
def receive (app : Application σ) : Connection σ → Message → Connection σ × List Message
  | .greeting host, message => greet host message
  | .confirming state, message => confirm state message
  | .serving state, message =>
      let step := state.handle app message
      match step.control with
      | .stop => (.ended step.state.host (.ok step.state.shutdownRequested), step.sent)
      | .proceed => (.serving step.state, step.sent)
  | .ended host result, _ => (.ended host result, [])

/-- How the connection ends when no more messages come. -/
def result : Connection σ → Except ServerError Bool
  | .greeting _ => .error (.protocol .disconnected)
  | .confirming _ => .error (.protocol .disconnected)
  | .serving state => .ok state.shutdownRequested
  | .ended _ result => result

/-- The host of the connection. -/
def host : Connection σ → Host σ
  | .greeting host => host
  | .confirming state => state.host
  | .serving state => state.host
  | .ended host _ => host

/-- Whether the connection is over. -/
def isEnded : Connection σ → Bool
  | .ended _ _ => true
  | _ => false

/-- Handles messages one after the other; returns all that is sent. -/
def receiveAll (app : Application σ) (connection : Connection σ) :
    List Message → Connection σ × List Message
  | [] => (connection, [])
  | message :: rest =>
      let (next, sent) := connection.receive app message
      let (last, more) := receiveAll app next rest
      (last, sent ++ more)

end Connection

end Switchboard
