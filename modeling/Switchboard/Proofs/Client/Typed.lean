import Mathlib.Data.List.Basic
import Mathlib.Tactic.Common
import Switchboard.Client.Tree
import Switchboard.Negotiation
import Switchboard.Proofs.Client.Declaration
import Switchboard.Proofs.Json.Record

/-!
# Typed and raw declarations

Typed client capabilities leave out unknown fields, and fields that are null or missing.  They
keep, of every capability, the node and the flag in it.  So a client that writes its sections and
nodes as objects is told and asked the same whether its declaration is taken raw or typed.
-/

namespace Switchboard

/-! ## Records and their canonical forms -/

namespace Json

/-- A field that is not there, or null, or an object. -/
inductive Named : Option Json → Prop where
  | missing : Named none
  | null : Named (some .null)
  | object (members : List (String × Json)) : Named (some (.object members))

namespace Shape

variable {fields : List (String × Presence × Shape)} {raw typed : Option Json}

/-- A field with a record in it, as it was written and in its canonical form. -/
inductive Typed (fields : List (String × Presence × Shape)) :
    Option Json → Option Json → Prop where
  | missing : Typed fields none none
  | null : Typed fields (some .null) none
  | record {members entries : List (String × Json)}
      (reads : readNamed fields members = some entries) :
      Typed fields (some (.object members)) (some (.ofMembers entries))

theorem typed_of_optional
    (hnamed : Named raw) (h : optional (read (struct fields)) raw = some typed) :
    Typed fields raw typed := by
  cases hnamed with
  | missing =>
      cases h
      exact .missing
  | null =>
      cases h
      exact .null
  | object members =>
      obtain ⟨value, hvalue, rfl⟩ := Option.map_eq_some_iff.mp h
      rw [struct, read] at hvalue
      obtain ⟨entries, hentries, rfl⟩ := Option.map_eq_some_iff.mp hvalue
      exact .record hentries

/-- The canonical form of a record holds the canonical forms of the records in it. -/
theorem Typed.member
    (h : Typed fields raw typed) (hnodup : (fields.map Prod.fst).Nodup)
    {name : String} {inner : List (String × Presence × Shape)}
    (hmem : free name (struct inner) ∈ fields)
    (hnamed : Named (raw.bind fun record => record.member? name)) :
    Typed inner (raw.bind fun record => record.member? name)
      (typed.bind fun record => record.member? name) := by
  cases h with
  | missing => exact .missing
  | null => exact .missing
  | record hreads =>
      exact typed_of_optional hnamed (optional_of_readNamed_free hreads hnodup hmem rfl)

/-- A truth value is read from its canonical form as it was read at first. -/
theorem optional_flag_of_optional_flag
    {field value : Option Json} (h : optional (read .flag) field = some value) :
    optional (read .flag) value = some value := by
  rcases field with _ | _ | truth | _ | _ | _ | _ | _
  case none | some.null =>
    cases h
    rfl
  case some.bool =>
    simp only [optional, read] at h
    cases h
    rfl
  all_goals
    simp only [optional, read] at h
    cases h

end Shape

end Json

/-! ## The shapes of the declaration -/

open Json Json.Shape

/-- The shape of a section. -/
def Section.shape : Section → Json.Shape
  | .textDocument => ClientShape.textDocument
  | .workspace => ClientShape.workspace

theorem clientShape_eq_struct :
    ∃ fields, clientShape = struct fields ∧ (fields.map Prod.fst).Nodup ∧
      ∀ part : Section, free part.name part.shape ∈ fields := by
  refine ⟨_, rfl, by decide, ?_⟩
  intro part
  cases part with
  | textDocument => exact List.mem_cons_of_mem _ List.mem_cons_self
  | workspace => exact List.mem_cons_self

theorem Section.shape_eq_struct (part : Section) :
    ∃ fields, part.shape = struct fields ∧ (fields.map Prod.fst).Nodup ∧
      ∀ capability : Capability, capability.profile.part = part →
        ClientShape.detailField capability ∈ fields := by
  cases part with
  | textDocument =>
      refine ⟨_, rfl, by decide, ?_⟩
      intro capability hpart
      cases capability <;> first | exact absurd hpart (by decide) | simp
  | workspace =>
      refine ⟨_, rfl, by decide, ?_⟩
      intro capability hpart
      cases capability <;> first | exact absurd hpart (by decide) | simp

theorem ClientShape.detailField_eq_free (capability : Capability) :
    ∃ rest, detailField capability =
        free capability.profile.node (struct (Detail.dynamicFlag :: rest)) ∧
      "dynamicRegistration" ∉ rest.map Prod.fst := by
  have hraw : Detail.ofCapability capability ≠ .raw := by
    cases capability <;> decide
  rcases (Detail.ofCapability capability).eq_raw_or_exists_fields with heq | ⟨rest, hshape, hfresh⟩
  · exact absurd heq hraw
  · exact ⟨rest, by rw [detailField, hshape, Option.getD_some], hfresh⟩

/-- The flag is read from the canonical form of a detail as from the detail itself. -/
theorem Detail.read_dynamic_ofMembers
    {rest : List (String × Presence × Json.Shape)} {members entries : List (String × Json)}
    (hfresh : "dynamicRegistration" ∉ rest.map Prod.fst)
    (h : readNamed (dynamicFlag :: rest) members = some entries) :
    (Detail.dynamic).read (.ofMembers entries) = (Detail.dynamic).read (.object members) := by
  have hfield : optional (Shape.read .flag) (Table.find? members "dynamicRegistration") =
      some (Table.find? (Table.ofList entries) "dynamicRegistration") :=
    optional_of_readNamed_free_cons h hfresh rfl
  rw [Json.ofMembers, read_dynamic, read_dynamic, hfield, optional_flag_of_optional_flag hfield]

/-! ## Declarations by name -/

namespace ClientTree

/-- The sections of a declaration, and the nodes of all capabilities in them, are written as
objects, where they are there. -/
structure ByName (root : Json) : Prop where
  parts : ∀ part : Section, Named (root.member? part.name)
  nodes : ∀ capability, Named (node ⟨root⟩ capability)

/-- Two declarations are the same to negotiation: they say the same about every capability, and
so they are answered with the same advertisement and the same registrations by every registry. -/
structure Alike (tree other : ClientTree) : Prop where
  support : ∀ capability, tree.dynamicSupport capability = other.dynamicSupport capability
  advertisement : ∀ snapshot : Snapshot,
    snapshot.serverCapabilities tree = snapshot.serverCapabilities other
  registrations : ∀ snapshot : Snapshot,
    snapshot.dynamicRegistrations tree = snapshot.dynamicRegistrations other

theorem alike_of_dynamicSupport
    {tree other : ClientTree}
    (h : ∀ capability, tree.dynamicSupport capability = other.dynamicSupport capability) :
    Alike tree other := by
  refine ⟨h, ?_, ?_⟩
  · intro snapshot
    simp only [Snapshot.serverCapabilities, Snapshot.advertisement, h]
  · intro snapshot
    simp only [Snapshot.dynamicRegistrations, h]

variable {root : Json} {typed : ClientTree} {capability : Capability}

/-- A node of the typed declaration is the canonical form of the raw one. -/
theorem typed_node
    (hobject : root.isObject = true) (hnamed : ByName root) (h : ofTyped? root = some typed)
    {rest : List (String × Presence × Json.Shape)}
    (hfield : ClientShape.detailField capability = free capability.profile.node (struct rest)) :
    Typed rest (node ⟨root⟩ capability) (typed.node capability) := by
  obtain ⟨parts, hclient, hpartNames, hpart⟩ := clientShape_eq_struct
  obtain ⟨nodes, hsection, hnodeNames, hnode⟩ := capability.profile.part.shape_eq_struct
  obtain ⟨result, hresult, rfl⟩ := Option.map_eq_some_iff.mp h
  have hroot : Typed parts (some root) (some result) := by
    cases root with
    | object members =>
        apply typed_of_optional (.object members)
        rw [← hclient]
        exact congrArg (Option.map some) hresult
    | _ => cases hobject
  -- From a record to a field in it, twice: from the root to the section, and on to the node.
  have hmember : Typed nodes (root.member? capability.profile.part.name)
      (result.member? capability.profile.part.name) :=
    hroot.member hpartNames (hsection ▸ hpart capability.profile.part)
      (hnamed.parts capability.profile.part)
  have hraw := hnamed.nodes capability
  rw [node_eq_bind] at hraw ⊢
  rw [node_eq_bind]
  exact hmember.member hnodeNames (hfield ▸ hnode capability rfl) hraw

theorem dynamicSupport_of_typed
    {other : ClientTree} {rest : List (String × Presence × Json.Shape)}
    (hfresh : "dynamicRegistration" ∉ rest.map Prod.fst)
    (h : Typed (Detail.dynamicFlag :: rest) (other.node capability) (typed.node capability)) :
    typed.dynamicSupport capability = other.dynamicSupport capability := by
  simp only [dynamicSupport, support]
  generalize other.node capability = raw at h
  generalize typed.node capability = canonical at h
  cases h with
  | missing => rfl
  | null => rfl
  | record hreads =>
      have hread := Detail.read_dynamic_ofMembers hfresh hreads
      simp only [Json.ofMembers] at hread ⊢
      rw [hread]

/-- A declaration that reads as typed, and in which sections and nodes are written as objects, is
negotiated alike in its typed form and as it was written. -/
theorem typed_alike
    (hobject : root.isObject = true) (hnamed : ByName root) (h : ofTyped? root = some typed) :
    Alike typed ⟨root⟩ := by
  apply alike_of_dynamicSupport
  intro capability
  obtain ⟨rest, hfield, hfresh⟩ := ClientShape.detailField_eq_free capability
  exact dynamicSupport_of_typed hfresh (typed_node hobject hnamed h hfield)

/-- A declaration with unknown fields at every depth, a flag that is null, a node that is null, and
a section that is null. -/
def chattyDeclaration : Json :=
  .ofMembers [("textDocument", .ofMembers [
      ("hover", .ofMembers [("dynamicRegistration", .bool true), ("theme", .string "dark")]),
      ("definition", .ofMembers [("dynamicRegistration", .null)]), ("rename", .null),
      ("spellCheck", .bool true)]),
    ("workspace", .null), ("vendor", .array [])]

/-- The typed form leaves something out, and is still negotiated alike: hovers are to be registered,
definitions are active from the start, and renaming is not supported. -/
theorem chattyDeclaration_alike :
    ∃ typed, ofTyped? chattyDeclaration = some typed ∧ typed.root ≠ chattyDeclaration ∧
      chattyDeclaration.isObject = true ∧ ByName chattyDeclaration ∧
      (typed.dynamicSupport .hover).isDynamic = true ∧
      (typed.dynamicSupport .definition).isStatic = true ∧
      (typed.dynamicSupport .rename).supported = false ∧
      ∀ snapshot : Snapshot,
        snapshot.serverCapabilities typed = snapshot.serverCapabilities ⟨chattyDeclaration⟩ := by
  have hnamed : ByName chattyDeclaration := by
    constructor
    · intro part
      cases part with
      | textDocument => exact .object _
      | workspace => exact .null
    · intro capability
      cases capability with
      | hover | definition => exact .object _
      | rename => exact .null
      | _ => exact .missing
  have hreads : (ofTyped? chattyDeclaration).isSome = true := by
    decide +kernel
  obtain ⟨typed, htyped⟩ := Option.isSome_iff_exists.mp hreads
  have halike := typed_alike rfl hnamed htyped
  have hleft : (ofTyped? chattyDeclaration).map ClientTree.root ≠ some chattyDeclaration := by
    decide +kernel
  refine ⟨typed, htyped, ?_, rfl, hnamed, ?_, ?_, ?_, halike.advertisement⟩
  · intro hsame
    rw [htyped, Option.map_some, hsame] at hleft
    exact hleft rfl
  · rw [halike.support]
    decide +kernel
  · rw [halike.support]
    decide +kernel
  · rw [halike.support]
    decide +kernel

end ClientTree

end Switchboard
