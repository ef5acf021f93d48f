import Switchboard.Registry.Basic

/-!
# Snapshots and routing

A snapshot is what the registry lists at one generation.  Routing reads a
snapshot: a request goes to the first descriptor with its method that admits
its document, a notification to all of them.
-/

namespace Switchboard

/-- The descriptors of a registry at one generation. -/
structure Snapshot where
  generation : Nat
  descriptors : List Descriptor
  deriving DecidableEq, Repr

/-- What the registry lists now. -/
def Registry.snapshot (registry : Registry) : Snapshot :=
  ⟨registry.generation, registry.descriptors⟩

namespace Snapshot

/-- The descriptors for a method. -/
def forMethod (snapshot : Snapshot) (method : String) : List Descriptor :=
  snapshot.descriptors.filter fun descriptor => descriptor.method == method

/-- The descriptors with a capability. -/
def forCapability (snapshot : Snapshot) (capability : Capability) : List Descriptor :=
  snapshot.descriptors.filter fun descriptor => descriptor.capability == some capability

/-- Whether a descriptor serves a method for a document, if there is one. -/
def serves (method : String) (document : Option DocumentRef) (descriptor : Descriptor) : Bool :=
  descriptor.method == method &&
    match document with
    | none => true
    | some document => descriptor.admits document

/-- Every descriptor that receives a method for a document. -/
def routeAll (snapshot : Snapshot) (method : String) (document : Option DocumentRef) :
    List Descriptor :=
  snapshot.descriptors.filter (serves method document)

/-- The descriptor that answers a request. -/
def route (snapshot : Snapshot) (method : String) (document : Option DocumentRef) :
    Option Descriptor :=
  snapshot.descriptors.find? (serves method document)

/-- Whether a handler of a type is registered. -/
def containsType (snapshot : Snapshot) (key : String) : Bool :=
  snapshot.descriptors.any fun descriptor => descriptor.handler.type == key

/-- Whether a capability has a descriptor. -/
def containsCapability (snapshot : Snapshot) (capability : Capability) : Bool :=
  !(snapshot.forCapability capability).isEmpty

/-- The filters of all scoped descriptors, in order, each once. -/
def documentFilters (snapshot : Snapshot) : List DocumentFilter :=
  distinctSorted DocumentFilter.before
    (snapshot.descriptors.flatMap fun descriptor => descriptor.selector.getD [])

/-- The first descriptor of every handler instance. -/
def onePerHandler : List Descriptor → List Descriptor
  | [] => []
  | descriptor :: rest =>
      descriptor ::
        (onePerHandler rest).filter fun other => other.handler ≠ descriptor.handler

/-- A request goes to the first of the descriptors that a notification reaches. -/
theorem route_eq_head?_routeAll (snapshot : Snapshot) (method : String)
    (document : Option DocumentRef) :
    snapshot.route method document = (snapshot.routeAll method document).head? := by
  simp [route, routeAll, List.head?_filter]

end Snapshot

end Switchboard
