import Switchboard.Registry.Basic

/-!
# Registrations and the operations on a registry

A successful add gives a registration, which can be disposed once, dropped, or
detached.  A desk is a registry together with the registrations that are still
held, by name.  `Operation` lists everything a program can do to a desk while
its registry exists, so that a history of a registry is a list of operations.
-/

namespace Switchboard

/-- The handle to the descriptors of one add. -/
structure Registration where
  ids : List Nat
  /-- Whether it was disposed or detached. -/
  released : Bool := false
  deriving DecidableEq, Repr

/-- A registry and the registrations that are held. -/
structure Desk where
  registry : Registry := {}
  /-- Whether the registry still exists; registrations may outlive it. -/
  alive : Bool := true
  held : Table Registration := []

namespace Desk

/-- Disposes a registration: unless it was released, its descriptors leave the
registry, if that still exists.  Returns whether this was the first release. -/
def release (desk : Desk) (registration : Registration) : Bool × Desk :=
  if registration.released then (false, desk)
  else if desk.alive then
    (true, { desk with registry := desk.registry.remove registration.ids })
  else (true, desk)

/-- Disposes a held registration, which stays held. -/
def dispose (desk : Desk) (name : String) : Option (Bool × Desk) :=
  (Table.find? desk.held name).map fun registration =>
    let (first, desk) := desk.release registration
    (first, { desk with held := Table.insert name { registration with released := true } desk.held })

/-- Drops a held registration, which disposes it. -/
def drop (desk : Desk) (name : String) : Option Desk :=
  (Table.find? desk.held name).map fun registration =>
    let (_, desk) := desk.release registration
    { desk with held := Table.erase name desk.held }

/-- Gives up a held registration and keeps its descriptors. -/
def detach (desk : Desk) (name : String) : Option Desk :=
  (Table.find? desk.held name).map fun _ => { desk with held := Table.erase name desk.held }

/-- Settles an add: a registration is held under a name, where it displaces an
older one, or detached. -/
def settle (desk : Desk) (keep : Option String)
    (result : Except RegistryError (List Nat) × Registry) :
    Except RegistryError (List Nat) × Desk :=
  let desk := { desk with registry := result.2 }
  match result.1, keep with
  | .ok ids, some name =>
      let desk := (desk.drop name).getD desk
      (.ok ids, { desk with held := Table.insert name ⟨ids, false⟩ desk.held })
  | outcome, _ => (outcome, desk)

/-- Registers handlers. -/
def add (desk : Desk) (handlers : List Handler) (keep : Option String := none) :
    Except RegistryError (List Nat) × Desk :=
  desk.settle keep (desk.registry.add handlers)

/-- Registers handlers constructed from their types. -/
def addTypes (desk : Desk) (types : List HandlerType) (keep : Option String := none) :
    Except RegistryError (List Nat) × Desk :=
  desk.settle keep (desk.registry.addTypes types)

/-- Registers a handler under an explicit method. -/
def addMethod (desk : Desk) (method : String) (handler : Handler)
    (keep : Option String := none) : Except RegistryError (List Nat) × Desk :=
  desk.settle keep (desk.registry.addMethod method handler)

/-- Registers what a factory made under an explicit method. -/
def addMethodWith (desk : Desk) (method : String) (made : Except ResolutionError Handler)
    (keep : Option String := none) : Except RegistryError (List Nat) × Desk :=
  desk.settle keep (desk.registry.addMethodWith method made)

/-- Registers a handler constructed from its type under an explicit method. -/
def addMethodType (desk : Desk) (method : String) (type : HandlerType)
    (keep : Option String := none) : Except RegistryError (List Nat) × Desk :=
  desk.settle keep (desk.registry.addMethodType method type)

/-- Removes every descriptor. -/
def clear (desk : Desk) : Desk := { desk with registry := desk.registry.clear }

/-- A new handler instance of a kind. -/
def build (desk : Desk) (kind : HandlerKind) : Handler × Desk :=
  let (handler, registry) := desk.registry.build kind
  (handler, { desk with registry := registry })

/-- Lets go of the registry; the registrations stay. -/
def close (desk : Desk) : Desk := { desk with alive := false }

end Desk

/-- What a program can do to a registry and its registrations. -/
inductive Operation where
  | add (handlers : List Handler) (keep : Option String)
  | addTypes (types : List HandlerType) (keep : Option String)
  | addMethod (method : String) (handler : Handler) (keep : Option String)
  | addMethodWith (method : String) (made : Except ResolutionError Handler) (keep : Option String)
  | addMethodType (method : String) (type : HandlerType) (keep : Option String)
  | dispose (name : String)
  | drop (name : String)
  | detach (name : String)
  | clear
  /-- A handler instance is made, without being registered. -/
  | build (kind : HandlerKind)
  /-- Another registry of the process takes some ids. -/
  | elsewhere (count : Nat)
  deriving Repr

/-- What an operation reports. -/
inductive Report where
  /-- An add gave descriptors with these ids. -/
  | added (ids : List Nat)
  /-- An add failed. -/
  | refused (error : RegistryError)
  /-- A registration was disposed; tells whether for the first time. -/
  | disposed (first : Bool)
  /-- The operation has nothing to report. -/
  | settled
  /-- No registration is held under the name. -/
  | unknown
  deriving DecidableEq, Repr

namespace Operation

/-- The report of an add. -/
def reportAdd : Except RegistryError (List Nat) × Desk → Report × Desk
  | (.ok ids, desk) => (.added ids, desk)
  | (.error error, desk) => (.refused error, desk)

/-- Performs one operation. -/
def perform (desk : Desk) : Operation → Report × Desk
  | .add handlers keep => reportAdd (desk.add handlers keep)
  | .addTypes types keep => reportAdd (desk.addTypes types keep)
  | .addMethod method handler keep => reportAdd (desk.addMethod method handler keep)
  | .addMethodWith method made keep => reportAdd (desk.addMethodWith method made keep)
  | .addMethodType method type keep => reportAdd (desk.addMethodType method type keep)
  | .dispose name =>
      match desk.dispose name with
      | some (first, desk) => (.disposed first, desk)
      | none => (.unknown, desk)
  | .drop name =>
      match desk.drop name with
      | some desk => (.settled, desk)
      | none => (.unknown, desk)
  | .detach name =>
      match desk.detach name with
      | some desk => (.settled, desk)
      | none => (.unknown, desk)
  | .clear => (.settled, desk.clear)
  | .build kind => (.settled, (desk.build kind).2)
  | .elsewhere count => (.settled, { desk with registry := desk.registry.skipIds count })

/-- Performs operations one after the other. -/
def performAll (desk : Desk) (operations : List Operation) : Desk :=
  operations.foldl (fun desk operation => (operation.perform desk).2) desk

end Operation

end Switchboard
