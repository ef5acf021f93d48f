import Switchboard.Capability
import Switchboard.Selector

/-!
# Handlers and descriptors

What a handler declares: its type and name, the capabilities it implements, the
documents it is scoped to and the options it offers.  Two handler values are
one instance exactly when they are equal; the serial number tells apart
instances that declare the same.  A descriptor is the registry's record of one
method that one handler serves.
-/

namespace Switchboard

/-- The identity of a handler type, with the label that messages show for it. -/
structure HandlerType where
  key : String
  label : String
  deriving DecidableEq, Repr

/-- Why a handler refuses a call. -/
inductive HandlerError where
  /-- The parameters do not have the expected form. -/
  | invalidParams (reason : String)
  /-- The handler failed while it processed the call. -/
  | failed (reason : String)
  deriving DecidableEq, Repr

/-- The wording of a handler's error. -/
def HandlerError.message : HandlerError → String
  | .invalidParams reason => "invalid params: " ++ reason
  | .failed reason => reason

/-- The error for parameters that do not read. -/
def HandlerError.malformed : HandlerError := .invalidParams "malformed parameters"

/-- What a handler supplied by an application declares.  The label names its
behaviour to the application. -/
structure AppHandler where
  label : String
  type : String
  name : String
  capabilities : List Capability
  selector : Option (List FilterSpec) := none
  options : List (Capability × Json) := []
  deriving DecidableEq, Repr

/-- What the built-in command handler knows: the configured commands, whether
the registry it reports on still exists, and whether the documents it reports
on are those of its host. -/
structure CommandTable where
  extra : List String
  registryAlive : Bool := true
  sharesDocuments : Bool := true
  deriving DecidableEq, Repr

/-- The kinds of handlers. -/
inductive HandlerKind where
  /-- A handler of the embedding application. -/
  | application (declared : AppHandler)
  /-- The built-in handler for document synchronization. -/
  | documentSync (selector : List FilterSpec)
  /-- The built-in handler for commands. -/
  | executeCommand (table : CommandTable)
  deriving DecidableEq, Repr

/-- A handler instance. -/
structure Handler where
  serial : Nat
  kind : HandlerKind
  deriving DecidableEq, Repr

/-- The commands that every command handler knows. -/
def builtinCommands : List String := ["capstan.listMethods", "capstan.listDocuments"]

namespace CommandTable

/-- A table with the given configured commands; names of built-in commands
among them are left out. -/
def ofCommands (commands : List String) (sharesDocuments : Bool) : CommandTable :=
  { extra := commands.filter fun name => name ∉ builtinCommands
    sharesDocuments := sharesDocuments }

/-- Every command the handler knows, the built-in ones first. -/
def commands (table : CommandTable) : List String := builtinCommands ++ table.extra

end CommandTable

/-- The options the built-in sync handler offers: incremental changes, with
open, close and save notifications. -/
def documentSyncOptions : Json :=
  .ofMembers [("openClose", .bool true), ("change", .integer 2),
    ("save", .ofMembers [("includeText", .bool false)])]

namespace Handler

/-- The key of the handler's type. -/
def type (handler : Handler) : String :=
  match handler.kind with
  | .application declared => declared.type
  | .documentSync _ => "DocumentSync"
  | .executeCommand _ => "ExecuteCommand"

/-- The name that messages and listings show. -/
def name (handler : Handler) : String :=
  match handler.kind with
  | .application declared => declared.name
  | .documentSync _ => "DocumentSync"
  | .executeCommand _ => "ExecuteCommand"

/-- The capabilities the handler declares, in its own order. -/
def capabilities (handler : Handler) : List Capability :=
  match handler.kind with
  | .application declared => declared.capabilities
  | .documentSync _ => [.textDocumentSync]
  | .executeCommand _ => [.executeCommand]

/-- The documents the handler is scoped to, in protocol form. -/
def selector (handler : Handler) : Option (List FilterSpec) :=
  match handler.kind with
  | .application declared => declared.selector
  | .documentSync selector => some selector
  | .executeCommand _ => none

/-- The options the handler offers for a capability. -/
def options (handler : Handler) (capability : Capability) : Option Json :=
  match handler.kind with
  | .application declared => declared.options.lookup capability
  | .documentSync _ => some documentSyncOptions
  | .executeCommand table => some (.ofMembers [("commands", .ofTexts table.commands)])

end Handler

/-- A handler's service of one method, not yet registered. -/
structure Binding where
  method : String
  capability : Option Capability
  handler : Handler
  deriving DecidableEq, Repr

namespace Binding

/-- Whether the handler's selector applies: for capabilities scoped to
documents and for methods without a capability. -/
def isScoped (binding : Binding) : Bool :=
  match binding.capability with
  | none => true
  | some capability => capability.documentScoped

/-- The bindings of a handler: every method of every capability it declares,
each capability once and in table order. -/
def ofHandler (handler : Handler) : List Binding :=
  (Capability.all.filter fun capability => capability ∈ handler.capabilities).flatMap
    fun capability => capability.methods.map fun method => ⟨method, some capability, handler⟩

theorem mem_ofHandler_iff {handler : Handler} {binding : Binding} :
    binding ∈ ofHandler handler ↔
      binding.handler = handler ∧ ∃ capability ∈ handler.capabilities,
        binding.capability = some capability ∧ binding.method ∈ capability.methods := by
  rw [ofHandler, List.mem_flatMap]
  constructor
  · rintro ⟨capability, hlisted, hbinding⟩
    obtain ⟨method, hmethod, rfl⟩ := List.mem_map.mp hbinding
    have hdeclared : capability ∈ handler.capabilities := by
      simpa using (List.mem_filter.mp hlisted).2
    exact ⟨rfl, capability, hdeclared, rfl, hmethod⟩
  · obtain ⟨method, own, other⟩ := binding
    rintro ⟨rfl, capability, hdeclared, rfl, hmethod⟩
    refine ⟨capability, ?_, List.mem_map_of_mem hmethod⟩
    simp [hdeclared, Capability.mem_all capability]

/-- The binding of a handler to an explicit method.  A protocol method brings
its capability; to any other method a handler with exactly one declared
capability lends it. -/
def toMethod (method : String) (handler : Handler) : Binding :=
  let lent := match handler.capabilities with
    | [only] => some only
    | _ => none
  ⟨method, (Capability.ofMethod? method).or lent, handler⟩

end Binding

/-- The record of one registered method handler. -/
structure Descriptor where
  id : Nat
  method : String
  capability : Option Capability
  handler : Handler
  selector : Option DocumentSelector
  deriving DecidableEq, Repr

namespace Descriptor

/-- The descriptor of a binding under an id; fails when the handler's selector
applies and is malformed. -/
def ofBinding (id : Nat) (binding : Binding) : Except SelectorError Descriptor :=
  match binding.isScoped, binding.handler.selector with
  | true, some specs =>
      (DocumentSelector.ofSpecs specs).map fun selector =>
        ⟨id, binding.method, binding.capability, binding.handler, some selector⟩
  | _, _ => .ok ⟨id, binding.method, binding.capability, binding.handler, none⟩

/-- The options contributed to the descriptor's capability. -/
def options (descriptor : Descriptor) : Option Json :=
  descriptor.capability.bind descriptor.handler.options

/-- Whether the descriptor serves a document; without a selector it serves all. -/
def admits (descriptor : Descriptor) (document : DocumentRef) : Bool :=
  match descriptor.selector with
  | none => true
  | some selector => selector.admits document

/-- Whether only one handler may serve the descriptor's method. -/
def singleOwner (descriptor : Descriptor) : Bool :=
  match descriptor.capability with
  | none => true
  | some capability => capability.ownership = .single

end Descriptor

end Switchboard
