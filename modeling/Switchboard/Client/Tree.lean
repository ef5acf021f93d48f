import Switchboard.Client.Typed

/-!
# The client's declared capabilities

A tolerant view of the capabilities that a client sends when it connects.  A
missing parent, a null or a value of the wrong kind all read as no support; a
capability that is supported may still lack a detail.
-/

namespace Switchboard

/-- What a client says about one capability. -/
structure Support where
  capability : Capability
  supported : Bool
  detail : Option Json := none
  deriving DecidableEq, Repr

namespace Support

/-- The flag for dynamic registration, if the detail has one. -/
def flag (support : Support) : Option Bool :=
  support.detail.bind fun detail => (detail.member? "dynamicRegistration").bind Json.bool?

/-- Supported, and to be registered dynamically. -/
def isDynamic (support : Support) : Bool := support.supported && support.flag.getD false

/-- Supported, and not to be registered dynamically. -/
def isStatic (support : Support) : Bool := support.supported && !support.isDynamic

/-- The client does not support the capability. -/
def unsupported (capability : Capability) : Support := ⟨capability, false, none⟩

/-- The client supports the capability and says no more. -/
def bare (capability : Capability) : Support := ⟨capability, true, none⟩

/-- The client supports the capability and describes it. -/
def detailed (capability : Capability) (detail : Json) : Support := ⟨capability, true, some detail⟩

end Support

/-- The raw capabilities of a client. -/
structure ClientTree where
  root : Json := .null
  deriving DecidableEq, Repr

namespace ClientTree

/-- The capabilities in the parameters of an initialization. -/
def ofInitializeParams (params : Json) : ClientTree := ⟨(params.member? "capabilities").getD .null⟩

/-- The capabilities after a passage through their typed form, which leaves out
unknown and absent fields. -/
def ofTyped? (root : Json) : Option ClientTree := (clientShape.read root).map ClientTree.mk

/-- The node for a capability. -/
def node (tree : ClientTree) (capability : Capability) : Option Json :=
  capability.clientPath.foldlM Json.member? tree.root

/-- What the client says about a capability, with a detail of the given kind.
A detail that does not read counts as support without detail. -/
def support (tree : ClientTree) (detail : Detail) (capability : Capability) : Support :=
  match tree.node capability with
  | some (.bool true) => .bare capability
  | some (.object members) =>
      match detail.read (.object members) with
      | some value => .detailed capability value
      | none => .bare capability
  | _ => .unsupported capability

/-- What the client says about a capability, with the dynamic flag alone. -/
def dynamicSupport (tree : ClientTree) (capability : Capability) : Support :=
  tree.support .dynamic capability

end ClientTree

end Switchboard
