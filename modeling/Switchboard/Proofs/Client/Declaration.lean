import Mathlib.Data.List.Basic
import Mathlib.Tactic.Common
import Switchboard.Client.Tree
import Switchboard.Negotiation
import Switchboard.Proofs.Json.Record

/-!
# What a client declares about a capability

The channel over which a client wants a capability announced is read off the raw
tree.  The flags that negotiation asks for agree with it.  A typed detail agrees
with it as well, unless the client set the flag for dynamic registration in a
detail that does not read: the flag is then lost with the rest of the detail.
-/

namespace Switchboard

/-! ## The flag in a detail -/

theorem Json.Shape.bool?_of_optional_flag
    {name : String} {field value : Option Json}
    (h : Json.optional (read .flag) field = some value) :
    (Table.find? (Table.ofList (entry name .free (value.getD .null))) name).bind Json.bool? =
      field.bind Json.bool? := by
  cases field with
  | none =>
      cases h
      rfl
  | some member =>
      cases member with
      | null =>
          cases h
          rfl
      | bool truth =>
          simp only [Json.optional, read] at h
          cases h
          simp [entry, Table.ofList, Table.insert, Table.find?]
      | _ =>
          simp only [Json.optional, read] at h
          cases h

namespace Detail

open Json Json.Shape

/-- Every typed detail is a record that begins with the flag. -/
theorem eq_raw_or_exists_fields (detail : Detail) :
    detail = .raw ∨ ∃ rest, detail.shape? = some (struct (dynamicFlag :: rest)) ∧
      "dynamicRegistration" ∉ rest.map Prod.fst := by
  cases detail with
  | raw => exact Or.inl rfl
  | _ => exact Or.inr ⟨_, rfl, by decide⟩

/-- A detail that reads keeps the flag of the value it was read from. -/
theorem flag_of_read
    {detail : Detail} {members : List (String × Json)} {value : Json}
    (h : detail.read (.object members) = some value) :
    (value.member? "dynamicRegistration").bind Json.bool? =
      (Table.find? members "dynamicRegistration").bind Json.bool? := by
  rcases detail.eq_raw_or_exists_fields with rfl | ⟨rest, hshape, hfresh⟩
  · obtain rfl : Json.object members = value := Option.some.inj h
    rfl
  · simp only [read, hshape, struct, Shape.read] at h
    obtain ⟨entries, hentries, rfl⟩ := Option.map_eq_some_iff.mp h
    obtain ⟨flag, hflag, hfind⟩ := find?_of_readNamed_free_cons hentries hfresh
    rw [ofMembers, member?_object, hfind]
    exact bool?_of_optional_flag hflag

/-- Read with the flag alone, a detail has the entry of the flag and no other. -/
theorem read_dynamic (members : List (String × Json)) :
    (Detail.dynamic).read (.object members) =
      (optional (Shape.read .flag) (Table.find? members "dynamicRegistration")).map fun value =>
        .ofMembers (entry "dynamicRegistration" .free (value.getD .null)) := by
  have hread : (Detail.dynamic).read (.object members) =
      (struct [dynamicFlag]).read (.object members) := rfl
  rw [hread, struct, Shape.read, dynamicFlag, readNamed_free_cons, readNamed, Option.bind_some,
    Option.map_map]
  simp only [Function.comp_def, List.append_nil]

/-- A record with nothing but the flag reads when the flag is set. -/
theorem dynamic_reads
    {members : List (String × Json)}
    (h : Table.find? members "dynamicRegistration" = some (.bool true)) :
    ((Detail.dynamic).read (.object members)).isSome = true := by
  rw [read_dynamic, h, Option.isSome_map]
  simp only [Json.optional, Shape.read]
  rfl

end Detail

/-! ## The channel a client asks for -/

/-- When a client wants a capability announced. -/
inductive Channel where
  /-- In the answer to the initialization. -/
  | initial
  /-- By a registration afterwards. -/
  | deferred
  /-- Never. -/
  | absent
  deriving DecidableEq, Repr

namespace ClientTree

/-- The channel that the raw tree asks for: a capability is supported by `true` or
an object in the object of its section, and deferred by the flag in this object. -/
def channel (tree : ClientTree) (capability : Capability) : Channel :=
  match tree.root with
  | .object sections =>
      match Table.find? sections capability.profile.part.name with
      | some (.object nodes) =>
          match Table.find? nodes capability.profile.node with
          | some (.bool true) => .initial
          | some (.object members) =>
              if Table.find? members "dynamicRegistration" = some (.bool true) then .deferred
              else .initial
          | _ => .absent
      | _ => .absent
  | _ => .absent

/-- The client's detail of a capability has the given kind. -/
def Describes (tree : ClientTree) (detail : Detail) (capability : Capability) : Prop :=
  ∃ node, tree.node capability = some node ∧ (detail.read node).isSome = true

variable {tree : ClientTree} {detail : Detail} {capability : Capability}

theorem node_eq_bind (tree : ClientTree) (capability : Capability) :
    tree.node capability =
      (tree.root.member? capability.profile.part.name).bind fun nodes =>
        nodes.member? capability.profile.node := by
  simp only [node, Capability.clientPath, List.foldlM]
  cases tree.root.member? capability.profile.part.name with
  | none => rfl
  | some nodes => cases hnode : nodes.member? capability.profile.node <;> simp [hnode]

theorem channel_eq_match_node (tree : ClientTree) (capability : Capability) :
    tree.channel capability =
      match tree.node capability with
      | some (.bool true) => .initial
      | some (.object members) =>
          if Table.find? members "dynamicRegistration" = some (.bool true) then .deferred
          else .initial
      | _ => .absent := by
  rw [node_eq_bind, channel]
  cases tree.root with
  | object sections =>
      simp only [Json.member?_object]
      cases Table.find? sections capability.profile.part.name with
      | none => rfl
      | some nodes => cases nodes <;> rfl
  | _ => rfl

theorem channel_eq_deferred_iff :
    tree.channel capability = .deferred ↔
      ∃ members, tree.node capability = some (.object members) ∧
        Table.find? members "dynamicRegistration" = some (.bool true) := by
  rw [channel_eq_match_node]
  constructor
  · intro h
    split at h
    next => cases h
    next members hnode =>
      split at h
      next hflag => exact ⟨members, hnode, hflag⟩
      next => cases h
    next => cases h
  · rintro ⟨members, hnode, hflag⟩
    rw [hnode]
    exact if_pos hflag

theorem support_supported_iff :
    (tree.support detail capability).supported = true ↔ tree.channel capability ≠ .absent := by
  rw [channel_eq_match_node, support]
  cases tree.node capability with
  | none => simp [Support.unsupported]
  | some node =>
      cases node with
      | bool truth => cases truth <;> simp [Support.unsupported, Support.bare]
      | object members =>
          cases hread : detail.read (.object members) <;>
            by_cases hflag : Table.find? members "dynamicRegistration" = some (.bool true) <;>
              simp [hread, hflag, Support.detailed, Support.bare]
      | _ => simp [Support.unsupported]

/-- The flag counts when the detail that holds it reads. -/
theorem support_isDynamic_iff :
    (tree.support detail capability).isDynamic = true ↔
      tree.channel capability = .deferred ∧ tree.Describes detail capability := by
  rw [channel_eq_deferred_iff]
  constructor
  · intro h
    unfold support at h
    split at h
    next => cases h
    next members hnode =>
      split at h
      next value hread =>
        have hset : ((value.member? "dynamicRegistration").bind Json.bool?).getD false = true := by
          simpa [Support.isDynamic, Support.detailed, Support.flag] using h
        rw [Detail.flag_of_read hread] at hset
        have hflag : (Table.find? members "dynamicRegistration").bind Json.bool? = some true := by
          by_contra hunset
          simp_all [Option.getD_eq_iff]
        obtain ⟨member, hmember, htrue⟩ := Option.bind_eq_some_iff.mp hflag
        obtain rfl : member = .bool true := by
          cases member <;> simp_all [Json.bool?]
        exact ⟨⟨members, hnode, hmember⟩, _, hnode, by rw [hread]; rfl⟩
      next => cases h
    next => cases h
  · rintro ⟨⟨members, hnode, hmember⟩, node, hsame, hreads⟩
    obtain rfl : Json.object members = node := Option.some.inj (hnode.symm.trans hsame)
    obtain ⟨value, hread⟩ := Option.isSome_iff_exists.mp hreads
    have hflag := Detail.flag_of_read hread
    rw [hmember] at hflag
    simp [support, hnode, hread, Support.isDynamic, Support.detailed, Support.flag, hflag,
      Json.bool?]

theorem describes_dynamic (h : tree.channel capability = .deferred) :
    tree.Describes .dynamic capability := by
  obtain ⟨members, hnode, hflag⟩ := channel_eq_deferred_iff.mp h
  exact ⟨_, hnode, Detail.dynamic_reads hflag⟩

theorem describes_raw (h : tree.channel capability = .deferred) :
    tree.Describes .raw capability := by
  obtain ⟨members, hnode, -⟩ := channel_eq_deferred_iff.mp h
  exact ⟨_, hnode, rfl⟩

/-- What does not read counts as support without detail, so its flag is lost. -/
theorem support_isStatic_iff :
    (tree.support detail capability).isStatic = true ↔
      tree.channel capability = .initial ∨
        (tree.channel capability = .deferred ∧ ¬tree.Describes detail capability) := by
  have hsplit : (tree.support detail capability).isStatic = true ↔
      (tree.support detail capability).supported = true ∧
        ¬(tree.support detail capability).isDynamic = true := by
    rw [Support.isStatic, Bool.and_eq_true, Bool.not_eq_true', Bool.not_eq_true]
  rw [hsplit, support_supported_iff, support_isDynamic_iff]
  cases tree.channel capability <;> simp

/-! ## The channel decides -/

theorem dynamicSupport_isDynamic_iff :
    (tree.dynamicSupport capability).isDynamic = true ↔ tree.channel capability = .deferred := by
  rw [dynamicSupport, support_isDynamic_iff]
  exact ⟨And.left, fun h => ⟨h, describes_dynamic h⟩⟩

theorem dynamicSupport_isStatic_iff :
    (tree.dynamicSupport capability).isStatic = true ↔ tree.channel capability = .initial := by
  rw [dynamicSupport, support_isStatic_iff]
  constructor
  · rintro (h | ⟨h, hnot⟩)
    · exact h
    · exact absurd (describes_dynamic h) hnot
  · exact Or.inl

/-- Read with a detail of some kind, the flag for dynamic registration decides
whether a capability is active from the start, as it does when read alone. -/
structure FlagDecides (tree : ClientTree) (detail : Detail) (capability : Capability) : Prop where
  inactive : ∀ members, tree.node capability = some (.object members) →
    Table.find? members "dynamicRegistration" = some (.bool true) →
      (tree.support detail capability).isStatic = false ∧
        ∀ snapshot : Snapshot, snapshot.hasStatic (tree.support detail capability) = false
  static_agrees :
    (tree.support detail capability).isStatic = (tree.dynamicSupport capability).isStatic
  dynamic_agrees :
    (tree.support detail capability).isDynamic = (tree.dynamicSupport capability).isDynamic

theorem flagDecides_of_describes
    (h : tree.channel capability = .deferred → tree.Describes detail capability) :
    tree.FlagDecides detail capability := by
  have hstatic : (tree.support detail capability).isStatic =
      (tree.dynamicSupport capability).isStatic := by
    rw [Bool.eq_iff_iff, dynamicSupport_isStatic_iff, support_isStatic_iff]
    constructor
    · rintro (hinitial | ⟨hdeferred, hnot⟩)
      · exact hinitial
      · exact absurd (h hdeferred) hnot
    · exact Or.inl
  have hdynamic : (tree.support detail capability).isDynamic =
      (tree.dynamicSupport capability).isDynamic := by
    rw [Bool.eq_iff_iff, dynamicSupport_isDynamic_iff, support_isDynamic_iff]
    exact ⟨And.left, fun hdeferred => ⟨hdeferred, h hdeferred⟩⟩
  refine ⟨?_, hstatic, hdynamic⟩
  intro members hnode hflag
  have hdeferred : tree.channel capability = .deferred :=
    channel_eq_deferred_iff.mpr ⟨members, hnode, hflag⟩
  have hinactive : (tree.support detail capability).isStatic = false := by
    rw [hstatic, Bool.eq_false_iff, Ne, dynamicSupport_isStatic_iff, hdeferred]
    decide
  exact ⟨hinactive, fun snapshot => by rw [Snapshot.hasStatic, hinactive, Bool.false_and]⟩

/-- The flag decides exactly when the object that sets it reads as a detail of the
kind, and in every case when it is read alone or from the raw value. -/
theorem flagDecides_iff
    (tree : ClientTree) (detail : Detail) (capability : Capability) :
    (tree.FlagDecides detail capability ↔
      ∀ members, tree.node capability = some (.object members) →
        Table.find? members "dynamicRegistration" = some (.bool true) →
          (detail.read (.object members)).isSome = true) ∧
    tree.FlagDecides .dynamic capability ∧ tree.FlagDecides .raw capability := by
  refine ⟨⟨?_, ?_⟩, flagDecides_of_describes describes_dynamic,
    flagDecides_of_describes describes_raw⟩
  · intro hdecides members hnode hflag
    have hdeferred : tree.channel capability = .deferred :=
      channel_eq_deferred_iff.mpr ⟨members, hnode, hflag⟩
    have hdynamic : (tree.support detail capability).isDynamic = true := by
      rw [hdecides.dynamic_agrees, dynamicSupport_isDynamic_iff]
      exact hdeferred
    obtain ⟨-, node, hsame, hreads⟩ := support_isDynamic_iff.mp hdynamic
    obtain rfl : Json.object members = node := Option.some.inj (hnode.symm.trans hsame)
    exact hreads
  · intro hreads
    apply flagDecides_of_describes
    intro hdeferred
    obtain ⟨members, hnode, hflag⟩ := channel_eq_deferred_iff.mp hdeferred
    exact ⟨_, hnode, hreads members hnode hflag⟩

/-- A client that wants to register hovers dynamically and whose list of formats is
malformed. -/
def malformedHoverClient : ClientTree :=
  ⟨.ofMembers [("textDocument", .ofMembers [("hover",
    .ofMembers [("contentFormat", .integer 5), ("dynamicRegistration", .bool true)])])]⟩

/-- A handler that declares hovers alone. -/
def hoverer : Handler :=
  ⟨0, .application ⟨"hoverer", "Hoverer", "Hoverer", [.hover], none, []⟩⟩

/-- The malformed list takes the flag with it: read with the detail of hovers, the
capability is active from the start, though the client wants to register it. -/
theorem malformedHoverClient_active :
    malformedHoverClient.node .hover =
        some (.object [("contentFormat", .integer 5), ("dynamicRegistration", .bool true)]) ∧
      (malformedHoverClient.dynamicSupport .hover).isDynamic = true ∧
      (malformedHoverClient.support .hover .hover).isDynamic = false ∧
      (malformedHoverClient.support .hover .hover).isStatic = true ∧
      (({} : Registry).add [hoverer]).2.snapshot.hasStatic
        (malformedHoverClient.support .hover .hover) = true := by
  decide +kernel

end ClientTree

end Switchboard
