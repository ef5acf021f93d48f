import Switchboard.Json.Printer
import Switchboard.Json.Record

/-!
# Messages

The messages that a client and a server exchange: requests, the responses to
them, and notifications.  A message is read by trying the three forms in this
order.  It is read from a value as it was written, since a form in which one of
its fields occurs twice does not fit.
-/

namespace Switchboard

/-- The id of a request. -/
inductive RequestId where
  | number (value : Int)
  | text (value : String)
  deriving DecidableEq, Repr

/-- The error in a response. -/
structure ResponseError where
  code : Int
  message : String
  data : Option Json := none
  deriving DecidableEq, Repr

/-- The codes of the errors a server reports. -/
inductive ErrorCode where
  | serverNotInitialized
  | invalidRequest
  | methodNotFound
  | invalidParams
  | internalError
  deriving DecidableEq, Repr

/-- The number of an error code. -/
def ErrorCode.number : ErrorCode → Int
  | .serverNotInitialized => -32002
  | .invalidRequest => -32600
  | .methodNotFound => -32601
  | .invalidParams => -32602
  | .internalError => -32603

/-- A message. -/
inductive Message where
  | request (id : RequestId) (method : String) (params : Json)
  | response (id : RequestId) (result : Option Json) (error : Option ResponseError)
  | notification (method : String) (params : Json)
  deriving DecidableEq, Repr

namespace RequestId

/-- An id in JSON. -/
def toJson : RequestId → Json
  | .number value => .integer value
  | .text value => .string value

/-- Reads an id: a whole number of 32 bits or a string. -/
def ofJson? (j : Json) : Option RequestId :=
  (j.integer32?.map RequestId.number).or (j.text?.map RequestId.text)

end RequestId

namespace ResponseError

/-- An error in JSON, in the order of the protocol. -/
def members (error : ResponseError) : List (String × Json) :=
  [("code", .integer error.code), ("message", .string error.message)] ++
    error.data.toList.map fun data => ("data", data)

/-- Reads an error. -/
def ofJson? (j : Json) : Option ResponseError := do
  match ← j.writtenFields? ["code", "message", "data"] 2 with
  | [code, message, data] =>
      return ⟨← Json.required Json.integer32? code, ← Json.required Json.text? message,
        ← Json.optional (fun data => some data.canonical) data⟩
  | _ => none

end ResponseError

namespace Message

open Json

/-- A response that reports success. -/
def success (id : RequestId) (result : Json) : Message := .response id (some result) none

/-- A response that reports an error. -/
def failure (id : RequestId) (code : ErrorCode) (message : String) : Message :=
  .response id none (some ⟨code.number, message, none⟩)

/-- The members of a message, in the order of the protocol.  Null parameters
are left out. -/
def members : Message → List (String × Json)
  | .request id method params =>
      [("id", id.toJson), ("method", .string method)] ++
        (if params = .null then [] else [("params", params)])
  | .response id result error =>
      [("id", id.toJson)] ++ (result.toList.map fun value => ("result", value)) ++
        error.toList.map fun error => ("error", .object error.members)
  | .notification method params =>
      [("method", .string method)] ++ (if params = .null then [] else [("params", params)])

/-- The text of a message on the wire. -/
def wireText (message : Message) : String :=
  (Json.object (("jsonrpc", .string "2.0") :: message.members)).compress

/-! ## Reading -/

/-- Reads a request. -/
def readRequest? (j : Json) : Option Message := do
  match ← j.writtenFields? ["id", "method", "params"] 2 with
  | [id, method, params] =>
      return .request (← required RequestId.ofJson? id) (← required text? method)
        (params.getD .null).canonical
  | _ => none

/-- Reads a response. -/
def readResponse? (j : Json) : Option Message := do
  match ← j.writtenFields? ["id", "result", "error"] 1 with
  | [id, result, error] =>
      return .response (← required RequestId.ofJson? id) (← optional (fun result => some result.canonical) result)
        (← optional ResponseError.ofJson? error)
  | _ => none

/-- Reads a notification. -/
def readNotification? (j : Json) : Option Message := do
  match ← j.writtenFields? ["method", "params"] 1 with
  | [method, params] =>
      return .notification (← required text? method) (params.getD .null).canonical
  | _ => none

/-- Reads a message from a value as it was written. -/
def ofJson? (j : Json) : Option Message :=
  (readRequest? j).or ((readResponse? j).or (readNotification? j))

/-- Whether a message tells the server to exit. -/
def isExit : Message → Bool
  | .notification method _ => method == "exit"
  | _ => false

end Message

end Switchboard
