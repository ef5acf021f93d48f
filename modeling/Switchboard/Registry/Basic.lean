import Switchboard.Handler

/-!
# The handler registry

The registry lists descriptors in the order of their registration.  Adding is
all or nothing: either every binding of an add gets a descriptor, or the list
stays as it was and the error says why.  Ids are never given twice, also not
after a failed add.  The generation counts the changes of the list.
-/

namespace Switchboard

/-- A handler could not be constructed from its type. -/
structure ResolutionError where
  /-- The label of the type asked for. -/
  type : String
  reason : String
  deriving DecidableEq, Repr

/-- The wording of a resolution error. -/
def ResolutionError.message (error : ResolutionError) : String :=
  "cannot resolve handler " ++ error.type ++ ": " ++ error.reason

/-- Why an add fails. -/
inductive RegistryError where
  /-- A method with a single owner already has one. -/
  | conflict (method : String) (capability : Option Capability) (owner : String)
  /-- A handler could not be constructed from its type. -/
  | resolution (cause : ResolutionError)
  /-- A handler's selector has a malformed pattern. -/
  | selector (cause : SelectorError)
  deriving DecidableEq, Repr

/-- The wording of a registry error. -/
def RegistryError.message : RegistryError → String
  | .conflict method _ owner => "method " ++ method ++ " is already handled by " ++ owner
  | .resolution cause => cause.message
  | .selector cause => cause.message

/-- Constructs a handler of a type, as an instance with a given serial number. -/
abbrev Resolver := HandlerType → Nat → Except ResolutionError Handler

/-- How one type is constructed. -/
inductive Factory where
  /-- Construction fails for a reason. -/
  | failing (reason : String)
  /-- Construction gives a handler of this kind. -/
  | building (kind : HandlerKind)
  deriving DecidableEq, Repr

namespace Resolver

/-- The resolver that knows no types. -/
def none : Resolver := fun type _ => .error ⟨type.label, "no resolver is configured"⟩

/-- The resolver with one factory per type key. -/
def ofFactories (factories : Table Factory) : Resolver := fun type serial =>
  match Table.find? factories type.key with
  | .none => .error ⟨type.label, "type is not registered with the resolver"⟩
  | some (.failing reason) => .error ⟨type.label, reason⟩
  | some (.building kind) => .ok ⟨serial, kind⟩

end Resolver

/-- A registry of handlers. -/
structure Registry where
  /-- How often the list of descriptors has changed. -/
  generation : Nat := 0
  /-- The descriptors in the order of their registration. -/
  descriptors : List Descriptor := []
  /-- The id of the next descriptor. -/
  nextId : Nat := 1
  /-- The serial number of the next handler instance. -/
  nextSerial : Nat := 0
  /-- How handlers are constructed from their types. -/
  resolver : Resolver := Resolver.none

namespace Registry

/-! ## Descriptors for bindings -/

/-- Gives every binding an id and a descriptor, up to the first whose selector
is malformed.  Also returns the first id that stays unused. -/
def describe (next : Nat) : List Binding → Except SelectorError (List Descriptor) × Nat
  | [] => (.ok [], next)
  | binding :: rest =>
      match Descriptor.ofBinding next binding with
      | .error error => (.error error, next + 1)
      | .ok descriptor =>
          let (described, unused) := describe (next + 1) rest
          (described.map (descriptor :: ·), unused)

/-- The descriptor that already owns the method of another, single-owner one. -/
def owner? (registered : List Descriptor) (descriptor : Descriptor) : Option Descriptor :=
  if descriptor.singleOwner then
    registered.find? fun other => other.method == descriptor.method && other.singleOwner
  else none

/-- The first of several new descriptors whose method already has an owner,
among those registered or those before it, and that owner. -/
def firstClash (registered : List Descriptor) : List Descriptor →
    Option (Descriptor × Descriptor)
  | [] => none
  | descriptor :: rest =>
      match owner? registered descriptor with
      | some owner => some (descriptor, owner)
      | none => firstClash (registered ++ [descriptor]) rest

/-! ## Adding -/

/-- Registers bindings, all or none, and returns the ids of their descriptors. -/
def insert (registry : Registry) (bindings : List Binding) :
    Except RegistryError (List Nat) × Registry :=
  let (described, unused) := describe registry.nextId bindings
  let registry := { registry with nextId := unused }
  match described with
  | .error error => (.error (.selector error), registry)
  | .ok descriptors =>
      match firstClash registry.descriptors descriptors with
      | some (descriptor, owner) =>
          (.error (.conflict descriptor.method descriptor.capability owner.handler.name), registry)
      | none =>
          let ids := descriptors.map Descriptor.id
          if descriptors.isEmpty then (.ok ids, registry)
          else
            (.ok ids, { registry with
              descriptors := registry.descriptors ++ descriptors
              generation := registry.generation + 1 })

/-- The bindings of several handlers, each instance once. -/
def bindingsOf (handlers : List Handler) : List Binding :=
  handlers.eraseDups.flatMap Binding.ofHandler

theorem mem_bindingsOf_iff {handlers : List Handler} {binding : Binding} :
    binding ∈ bindingsOf handlers ↔
      binding.handler ∈ handlers ∧ ∃ capability ∈ binding.handler.capabilities,
        binding.capability = some capability ∧ binding.method ∈ capability.methods := by
  simp only [bindingsOf, List.mem_flatMap, List.mem_eraseDups, Binding.mem_ofHandler_iff]
  constructor
  · rintro ⟨handler, hmem, rfl, hdeclared⟩
    exact ⟨hmem, hdeclared⟩
  · rintro ⟨hmem, hdeclared⟩
    exact ⟨binding.handler, hmem, rfl, hdeclared⟩

/-- What is listed first of two bindings: that of the handler which occurs first, of one
handler that of the capability which comes first in the table, and of one capability that
of the method which it names first. -/
inductive ListedBefore (handlers : List Handler) : Binding → Binding → Prop where
  | handler {first second : Binding} :
      handlers.idxOf first.handler < handlers.idxOf second.handler →
      ListedBefore handlers first second
  | capability {handler : Handler} {c d : Capability} {m n : String} :
      c.index < d.index → ListedBefore handlers ⟨m, some c, handler⟩ ⟨n, some d, handler⟩
  | method {handler : Handler} {capability : Capability} {m n : String} :
      capability.methods.idxOf m < capability.methods.idxOf n →
      ListedBefore handlers ⟨m, some capability, handler⟩ ⟨n, some capability, handler⟩

theorem pairwise_ofHandler (handlers : List Handler) (handler : Handler) :
    (Binding.ofHandler handler).Pairwise (ListedBefore handlers) := by
  rw [Binding.ofHandler, List.pairwise_flatMap]
  constructor
  · intro capability _
    rw [List.pairwise_map]
    exact capability.pairwise_idxOf_methods.imp .method
  · apply (Capability.pairwise_index_all.filter _).imp
    intro c d hindex first hfirst second hsecond
    obtain ⟨m, -, rfl⟩ := List.mem_map.mp hfirst
    obtain ⟨n, -, rfl⟩ := List.mem_map.mp hsecond
    exact .capability hindex

/-- Nothing is listed twice, and everything at its place. -/
theorem pairwise_bindingsOf (handlers : List Handler) :
    (bindingsOf handlers).Pairwise (ListedBefore handlers) := by
  rw [bindingsOf, List.pairwise_flatMap]
  constructor
  · intro handler _
    exact pairwise_ofHandler handlers handler
  · apply (pairwise_idxOf_eraseDups handlers).imp
    intro first second hindex b hb c hc
    obtain ⟨rfl, -⟩ := Binding.mem_ofHandler_iff.mp hb
    obtain ⟨rfl, -⟩ := Binding.mem_ofHandler_iff.mp hc
    exact .handler hindex

/-- Registers handlers under every method of the capabilities they declare. -/
def add (registry : Registry) (handlers : List Handler) :
    Except RegistryError (List Nat) × Registry :=
  registry.insert (bindingsOf handlers)

/-- Registers a handler under an explicit method. -/
def addMethod (registry : Registry) (method : String) (handler : Handler) :
    Except RegistryError (List Nat) × Registry :=
  registry.insert [Binding.toMethod method handler]

/-! ## Construction from types -/

/-- A new handler instance of a kind. -/
def build (registry : Registry) (kind : HandlerKind) : Handler × Registry :=
  (⟨registry.nextSerial, kind⟩, { registry with nextSerial := registry.nextSerial + 1 })

/-- A new handler instance of a type. -/
def resolve (registry : Registry) (type : HandlerType) :
    Except ResolutionError Handler × Registry :=
  (registry.resolver type registry.nextSerial,
    { registry with nextSerial := registry.nextSerial + 1 })

/-- New handler instances of several types, up to the first that fails. -/
def resolveAll (registry : Registry) : List HandlerType →
    Except ResolutionError (List Handler) × Registry
  | [] => (.ok [], registry)
  | type :: rest =>
      match registry.resolve type with
      | (.error error, registry) => (.error error, registry)
      | (.ok handler, registry) =>
          let (handlers, registry) := registry.resolveAll rest
          (handlers.map (handler :: ·), registry)

/-- Registers handlers constructed from their types. -/
def addTypes (registry : Registry) (types : List HandlerType) :
    Except RegistryError (List Nat) × Registry :=
  match registry.resolveAll types with
  | (.error error, registry) => (.error (.resolution error), registry)
  | (.ok handlers, registry) => registry.add handlers

/-- Registers what a factory made under an explicit method.  A factory is code of
the caller; the registry sees only its outcome. -/
def addMethodWith (registry : Registry) (method : String) :
    Except ResolutionError Handler → Except RegistryError (List Nat) × Registry
  | .error error => (.error (.resolution error), registry)
  | .ok handler => registry.addMethod method handler

/-- Registers a handler constructed from its type under an explicit method. -/
def addMethodType (registry : Registry) (method : String) (type : HandlerType) :
    Except RegistryError (List Nat) × Registry :=
  let (made, registry) := registry.resolve type
  registry.addMethodWith method made

/-! ## Ids taken elsewhere -/

/-- Passes over some ids, which another registry of the process took: all of
them draw from one counter. -/
def skipIds (registry : Registry) (count : Nat) : Registry :=
  { registry with nextId := registry.nextId + count }

/-! ## Removing -/

/-- Removes the descriptors with the given ids. -/
def remove (registry : Registry) (ids : List Nat) : Registry :=
  let remaining := registry.descriptors.filter fun descriptor => descriptor.id ∉ ids
  if remaining.length < registry.descriptors.length then
    { registry with descriptors := remaining, generation := registry.generation + 1 }
  else registry

/-- Removes every descriptor. -/
def clear (registry : Registry) : Registry :=
  if registry.descriptors.isEmpty then registry
  else { registry with descriptors := [], generation := registry.generation + 1 }

end Registry

end Switchboard
