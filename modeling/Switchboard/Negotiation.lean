import Switchboard.Client.Tree
import Switchboard.Options.Advertised
import Switchboard.Options.Merge
import Switchboard.Registry.Snapshot

/-!
# Negotiating the server's capabilities

Every capability of the registered handlers is announced over the channel that
the client asked for: in the advertisement that answers the initialization, or,
when the client wants to register the capability dynamically, as registrations
sent afterwards.
-/

namespace Switchboard

/-- The handlers of one capability that are active from the start. -/
structure StaticOptions where
  capability : Capability
  descriptors : List Descriptor
  deriving DecidableEq, Repr

namespace StaticOptions

/-- The options offered, one value per handler that offers any. -/
def offered (options : StaticOptions) : List Json :=
  options.descriptors.filterMap Descriptor.options

/-- The options of the first handler; the outer option tells whether there is one. -/
def first (options : StaticOptions) : Option (Option Json) :=
  options.descriptors.head?.map Descriptor.options

/-- The options of all handlers combined. -/
def reduced (options : StaticOptions) : Option Json :=
  Options.reduce options.capability options.offered

end StaticOptions

/-- A wish to register a capability for one method. -/
structure DynamicRegistration where
  id : String
  method : String
  options : Option Json
  deriving DecidableEq, Repr

/-- A registration in protocol form. -/
def DynamicRegistration.toJson (registration : DynamicRegistration) : Json :=
  .ofMembers
    ([("id", .string registration.id), ("method", .string registration.method)] ++
      registration.options.toList.map fun options => ("registerOptions", options))

namespace Snapshot

/-! ## Static announcement -/

/-- Whether a capability has a handler that is active from the start. -/
def hasStatic (snapshot : Snapshot) (support : Support) : Bool :=
  support.isStatic && snapshot.containsCapability support.capability

/-- The handlers of a capability that are active from the start. -/
def staticOptions (snapshot : Snapshot) (support : Support) : StaticOptions :=
  ⟨support.capability,
    if support.isStatic then onePerHandler (snapshot.forCapability support.capability) else []⟩

/-- The value that is to be advertised for a capability: the combined options of
all handlers when several may own it, else the options of its handler, else the
default of the capability. -/
def chosen (snapshot : Snapshot) (support : Support) : Option Json :=
  let options := snapshot.staticOptions support
  let offered := match support.capability.ownership with
    | .multi => options.reduced
    | .single => options.first.join
  offered.or support.capability.defaultAdvertisement

/-- What is advertised for a capability, unless the client does not support it,
registers it dynamically, no handler has it, or its options have the wrong shape. -/
def advertisement (snapshot : Snapshot) (tree : ClientTree) (capability : Capability) :
    Option Json :=
  let support := tree.dynamicSupport capability
  if snapshot.hasStatic support then
    match snapshot.chosen support with
    | none => none
    | some .null => none
    | some value => Options.advertised capability value
  else none

/-- The advertised capabilities, by field.  Each value is read for its own field; the
proposals below, read together as one record, come to the same. -/
def serverCapabilities (snapshot : Snapshot) (tree : ClientTree) : Json :=
  .ofMembers (Capability.all.filterMap fun capability =>
    match capability.serverField, snapshot.advertisement tree capability with
    | some field, some value => some (field, value)
    | _, _ => none)

/-- The value put under a field before the whole is read: the chosen one, if an
advertisement with this value alone can be read. -/
def proposed (snapshot : Snapshot) (tree : ClientTree) (capability : Capability)
    (field : String) : Option Json :=
  let support := tree.dynamicSupport capability
  if snapshot.hasStatic support then
    (snapshot.chosen support).filter fun value =>
      Options.advertisementShape.admits (.ofMembers [(field, value)])
  else none

/-- What is put under the fields, for the capabilities that propose a value. -/
def proposals (snapshot : Snapshot) (tree : ClientTree) : List (String × Json) :=
  Capability.all.filterMap fun capability =>
    capability.serverField.bind fun field =>
      (snapshot.proposed tree capability field).map fun value => (field, value)

/-- The advertisement as it is read from all proposals, and an empty one if they do not
read together. -/
def assembled (snapshot : Snapshot) (tree : ClientTree) : Json :=
  (Options.advertisementShape.read (.ofMembers (snapshot.proposals tree))).getD (.object [])

/-! ## Dynamic announcement -/

/-- The kind of change that a handler's sync options ask for. -/
def syncKind (descriptor : Descriptor) : Int :=
  match descriptor.options with
  | some (.integer n) => (Json.integer64? (.integer n)).getD 1
  | some (.object members) =>
      (((Json.object members).member? "change").bind Json.integer64?).getD 1
  | _ => 1

/-- The options of a registration, before those of a method: the handler's own
options, and the selector for capabilities scoped to documents.  Sync options
are no registration options. -/
def registrationOptions (capability : Capability) (descriptor : Descriptor) : Table Json :=
  let own := match descriptor.options with
    | some (.object members) => if capability = .textDocumentSync then [] else members
    | _ => []
  if capability.documentScoped then
    let selector := match descriptor.selector with
      | some selector => selector.toJson
      | none => .null
    Table.insert "documentSelector" selector own
  else own

/-- The registration of a handler's capability for one method. -/
def registration (capability : Capability) (descriptor : Descriptor) (method : String) :
    DynamicRegistration :=
  let options := registrationOptions capability descriptor
  let options :=
    if method = "textDocument/didChange" then
      Table.insert "syncKind" (.integer (syncKind descriptor)) options
    else options
  { id := toString descriptor.id ++ ":" ++ method
    method := method
    options := if options.isEmpty then none else some (.object options) }

/-- The registrations for every capability that the client registers dynamically. -/
def dynamicRegistrations (snapshot : Snapshot) (tree : ClientTree) : List DynamicRegistration :=
  (Capability.all.filter fun capability => (tree.dynamicSupport capability).isDynamic).flatMap
    fun capability =>
      (onePerHandler (snapshot.forCapability capability)).flatMap fun descriptor =>
        capability.registrationMethods.map (registration capability descriptor)

end Snapshot

end Switchboard
