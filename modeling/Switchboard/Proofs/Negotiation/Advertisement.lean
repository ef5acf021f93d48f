import Mathlib.Data.List.Basic
import Mathlib.Tactic.Common
import Switchboard.Negotiation
import Switchboard.Proofs.Ordered
import Switchboard.Proofs.Registry.Instances

/-!
# What is announced, capability by capability

The advertisement has one field for each capability and the registrations come
in one group for each capability, so either announcement of a capability can be
read off without the others.  Both need a descriptor with the capability.
-/

namespace Switchboard

namespace Capability

theorem serverFields_nodup : (all.filterMap serverField).Nodup := by
  decide +kernel

theorem eq_of_serverField_eq :
    ∀ first ∈ all, ∀ second ∈ all, first.serverField.isSome →
      first.serverField = second.serverField → first = second := by
  decide +kernel

section Fields

variable {α : Type} {entry : Capability → Option (String × α)}

theorem fields_sublist
    (hentry : ∀ capability made, entry capability = some made →
      capability.serverField = some made.1)
    (capabilities : List Capability) :
    List.Sublist ((capabilities.filterMap entry).map Prod.fst)
      (capabilities.filterMap serverField) := by
  induction capabilities with
  | nil => exact List.Sublist.refl _
  | cons capability rest ih =>
      cases hmade : entry capability with
      | none =>
          rw [List.filterMap_cons_none hmade]
          refine ih.trans ?_
          rw [← List.singleton_append, List.filterMap_append]
          exact List.sublist_append_right _ _
      | some made =>
          have hserver := hentry capability made hmade
          rw [List.filterMap_cons_some hmade, List.filterMap_cons_some hserver, List.map_cons]
          exact ih.cons_cons _

/-- In a table with entries for some capabilities, each under its own field, no entry
displaces another. -/
theorem find?_fields
    (hentry : ∀ capability made, entry capability = some made →
      capability.serverField = some made.1)
    {capability : Capability} {field : String} (hfield : capability.serverField = some field) :
    Table.find? (Table.ofList (all.filterMap entry)) field =
      (entry capability).map Prod.snd := by
  have hnodup : ((all.filterMap entry).map Prod.fst).Nodup :=
    (fields_sublist hentry all).nodup serverFields_nodup
  apply Option.ext
  intro value
  rw [Table.find?_ofList_eq_some_iff hnodup, List.mem_filterMap, Option.map_eq_some_iff]
  constructor
  · rintro ⟨other, hmem, hother⟩
    have hserver := hentry other _ hother
    have hsame : other = capability :=
      eq_of_serverField_eq other hmem capability (mem_all capability) (by simp [hserver])
        (hserver.trans hfield.symm)
    exact ⟨_, hsame ▸ hother, rfl⟩
  · rintro ⟨made, hmade, rfl⟩
    have hname : made.1 = field := Option.some.inj ((hentry capability made hmade).symm.trans hfield)
    exact ⟨capability, mem_all capability, hname ▸ hmade⟩

end Fields

end Capability

@[simp] theorem ClientTree.dynamicSupport_capability
    (tree : ClientTree) (capability : Capability) :
    (tree.dynamicSupport capability).capability = capability := by
  unfold dynamicSupport support
  split
  · rfl
  · split <;> rfl
  · rfl

namespace Snapshot

variable {snapshot : Snapshot}

/-! ## Descriptors of a capability -/

theorem mem_forCapability {capability : Capability} {descriptor : Descriptor} :
    descriptor ∈ snapshot.forCapability capability ↔
      descriptor ∈ snapshot.descriptors ∧ descriptor.capability = some capability := by
  simp [forCapability]

theorem containsCapability_iff {capability : Capability} :
    snapshot.containsCapability capability = true ↔
      ∃ descriptor ∈ snapshot.descriptors, descriptor.capability = some capability := by
  simp [containsCapability, forCapability]

theorem options_of_mem_forCapability {capability : Capability} {descriptor : Descriptor}
    (h : descriptor ∈ snapshot.forCapability capability) :
    descriptor.options = descriptor.handler.options capability := by
  rw [Descriptor.options, (mem_forCapability.mp h).2, Option.bind_some]

/-! ## The advertisement -/

/-- What a capability adds to the advertisement. -/
def advertisedField (snapshot : Snapshot) (tree : ClientTree) (capability : Capability) :
    Option (String × Json) :=
  match capability.serverField, snapshot.advertisement tree capability with
  | some field, some value => some (field, value)
  | _, _ => none

theorem advertisedField_eq_some_iff
    {tree : ClientTree} {capability : Capability} {entry : String × Json} :
    snapshot.advertisedField tree capability = some entry ↔
      capability.serverField = some entry.1 ∧
        snapshot.advertisement tree capability = some entry.2 := by
  unfold advertisedField
  cases hfield : capability.serverField with
  | none => simp
  | some field =>
      cases hvalue : snapshot.advertisement tree capability with
      | none => simp
      | some value => simp [Prod.ext_iff]

/-- A field of the advertisement holds what is advertised for its capability. -/
theorem serverCapabilities_member?
    (tree : ClientTree) {capability : Capability} {field : String}
    (hfield : capability.serverField = some field) :
    (snapshot.serverCapabilities tree).member? field = snapshot.advertisement tree capability := by
  have hentry : ∀ other made, snapshot.advertisedField tree other = some made →
      other.serverField = some made.1 := fun other made h =>
    (advertisedField_eq_some_iff.mp h).1
  have hlookup := Capability.find?_fields hentry hfield
  have hvalue : (snapshot.advertisedField tree capability).map Prod.snd =
      snapshot.advertisement tree capability := by
    rw [advertisedField, hfield]
    cases snapshot.advertisement tree capability <;> rfl
  exact hlookup.trans hvalue

/-- Only a capability that some descriptor has is advertised. -/
theorem hasStatic_of_advertisement
    {tree : ClientTree} {capability : Capability} {value : Json}
    (h : snapshot.advertisement tree capability = some value) :
    snapshot.hasStatic (tree.dynamicSupport capability) = true := by
  by_contra hnot
  simp [advertisement, hnot] at h

theorem exists_descriptor_of_hasStatic
    {support : Support} (h : snapshot.hasStatic support = true) :
    ∃ descriptor ∈ snapshot.descriptors, descriptor.capability = some support.capability := by
  rw [hasStatic, Bool.and_eq_true] at h
  exact containsCapability_iff.mp h.2

/-! ## The registrations -/

/-- The registrations made for one capability. -/
def registrationsFor (snapshot : Snapshot) (tree : ClientTree) (capability : Capability) :
    List DynamicRegistration :=
  if (tree.dynamicSupport capability).isDynamic then
    (onePerHandler (snapshot.forCapability capability)).flatMap fun descriptor =>
      capability.registrationMethods.map (registration capability descriptor)
  else []

theorem dynamicRegistrations_eq_flatMap (snapshot : Snapshot) (tree : ClientTree) :
    snapshot.dynamicRegistrations tree =
      Capability.all.flatMap (snapshot.registrationsFor tree) := by
  unfold dynamicRegistrations
  induction Capability.all with
  | nil => rfl
  | cons capability rest ih =>
      rw [List.filter_cons, List.flatMap_cons]
      by_cases hdynamic : (tree.dynamicSupport capability).isDynamic = true
      · rw [if_pos hdynamic, List.flatMap_cons, ih]
        simp [registrationsFor, hdynamic]
      · rw [if_neg hdynamic, ih]
        simp [registrationsFor, hdynamic]

theorem exists_descriptor_of_registrationsFor
    {tree : ClientTree} {capability : Capability} {made : DynamicRegistration}
    (h : made ∈ snapshot.registrationsFor tree capability) :
    ∃ descriptor ∈ snapshot.descriptors, descriptor.capability = some capability := by
  unfold registrationsFor at h
  split at h
  · obtain ⟨descriptor, hmem, -⟩ := List.mem_flatMap.mp h
    exact ⟨descriptor, mem_forCapability.mp (mem_of_mem_onePerHandler hmem)⟩
  · cases h

/-! ## Either announcement -/

/-- Whether a capability is announced to a client: its field of the advertisement
is set, or a registration is made for it. -/
def Announces (snapshot : Snapshot) (tree : ClientTree) (capability : Capability) : Prop :=
  (∃ field, capability.serverField = some field ∧
    ((snapshot.serverCapabilities tree).member? field).isSome) ∨
  ∃ made ∈ snapshot.dynamicRegistrations tree, made ∈ snapshot.registrationsFor tree capability

theorem Announces.exists_descriptor
    {tree : ClientTree} {capability : Capability} (h : snapshot.Announces tree capability) :
    ∃ descriptor ∈ snapshot.descriptors, descriptor.capability = some capability := by
  rcases h with ⟨field, hfield, hset⟩ | ⟨made, -, hmade⟩
  · rw [serverCapabilities_member? tree hfield] at hset
    obtain ⟨value, hvalue⟩ := Option.isSome_iff_exists.mp hset
    simpa using exists_descriptor_of_hasStatic (hasStatic_of_advertisement hvalue)
  · exact exists_descriptor_of_registrationsFor hmade

end Snapshot

end Switchboard
