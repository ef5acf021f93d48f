import Switchboard.Host

/-!
# Scripted handlers

An application whose handlers follow scripts: they answer or fail in a fixed
way, or change the registry they are registered in.  Every call to one of them
is recorded.
-/

namespace Switchboard

/-- What a scripted handler does when it is called. -/
inductive Script where
  /-- Answers with a value. -/
  | answer (value : Json)
  /-- Fails with a text. -/
  | fail (text : String)
  /-- Refuses the parameters with a text. -/
  | refuse (text : String)
  /-- Reads the parameters as a natural number of 32 bits and returns it. -/
  | number
  /-- Registers a new handler of the role with a label, for good. -/
  | register (label : String)
  /-- Clears the registry. -/
  | clear
  /-- Answers with the record of the call. -/
  | echo
  deriving DecidableEq, Repr

/-- A handler that a script plays. -/
structure Role where
  kind : HandlerKind
  script : Script := .echo
  deriving DecidableEq, Repr

namespace Scripted

/-- The record of a call. -/
def record (handler : Handler) (method : String) (params : Json) : Json :=
  .ofMembers [("handler", .string handler.name), ("method", .string method), ("params", params)]

/-- Carries out a script on the registry. -/
def perform (roles : Table Role) (script : Script) (call params : Json) (desk : Desk) :
    Except HandlerError Json × Desk :=
  match script with
  | .answer value => (.ok value, desk)
  | .fail text => (.error (.failed text), desk)
  | .refuse text => (.error (.invalidParams text), desk)
  | .number =>
      match params.natural32? with
      | some n => (.ok (.ofNat n), desk)
      | none => (.error .malformed, desk)
  | .register label =>
      match Table.find? roles label with
      | none => (.error (.failed ("no role " ++ label)), desk)
      | some role =>
          let (handler, desk) := desk.build role.kind
          match desk.add [handler] with
          | (.ok _, desk) => (.ok (.string "registered"), desk)
          | (.error error, desk) => (.error (.failed error.message), desk)
  | .clear => (.ok (.string "cleared"), desk.clear)
  | .echo => (.ok call, desk)

/-- The script of a handler's role; a handler without a role echoes. -/
def scriptOf (roles : Table Role) (handler : Handler) : Script :=
  match handler.kind with
  | .application declared => ((Table.find? roles declared.label).map Role.script).getD .echo
  | _ => .echo

/-- The application whose handlers play the given roles, by label.  Its state is
the list of recorded calls. -/
def application (roles : Table Role) : Application (List Json) := fun handler method params host =>
  let call := record handler method params
  let (outcome, desk) := perform roles (scriptOf roles handler) call params host.desk
  (outcome, desk, host.app ++ [call])

end Scripted

end Switchboard
