import Mathlib.Data.List.Basic
import Mathlib.Data.List.Range
import Mathlib.Tactic.Common
import Switchboard.Registry.Basic

/-!
# What adding and removing do to the list of descriptors

One specification for each primitive operation of the registry.  Describing
bindings gives one descriptor for each, under consecutive ids.  Inserting either
appends those descriptors or leaves the list as it was, and removing filters the
list by id.  The later modules cite these lemmas and do not open the operations.
-/

namespace Switchboard

/-! ## Descriptors of bindings -/

namespace Descriptor

/-- The binding that a descriptor records. -/
def binding (descriptor : Descriptor) : Binding :=
  ⟨descriptor.method, descriptor.capability, descriptor.handler⟩

theorem ofBinding_eq_ok
    {id : Nat} {binding : Binding} {descriptor : Descriptor}
    (h : ofBinding id binding = .ok descriptor) :
    descriptor.id = id ∧ descriptor.binding = binding := by
  unfold ofBinding at h
  split at h
  · cases hselector : DocumentSelector.ofSpecs ‹_› with
    | error error => simp [hselector, Except.map] at h
    | ok selector =>
        simp only [hselector, Except.map, Except.ok.injEq] at h
        subst h
        exact ⟨rfl, rfl⟩
  · simp only [Except.ok.injEq] at h
    subst h
    exact ⟨rfl, rfl⟩

/-- A descriptor whose binding is not scoped to documents has no selector. -/
theorem selector_eq_none_of_ofBinding
    {id : Nat} {binding : Binding} {descriptor : Descriptor}
    (h : ofBinding id binding = .ok descriptor)
    (hscoped : binding.isScoped = false) :
    descriptor.selector = none := by
  unfold ofBinding at h
  rw [hscoped] at h
  simp only [Except.ok.injEq] at h
  subst h
  rfl

/-- A descriptor is made of its binding when describing the binding under the
descriptor's id gives the descriptor back. -/
def Described (descriptor : Descriptor) : Prop :=
  ofBinding descriptor.id descriptor.binding = .ok descriptor

theorem described_of_ofBinding
    {id : Nat} {binding : Binding} {descriptor : Descriptor}
    (h : ofBinding id binding = .ok descriptor) :
    descriptor.Described := by
  obtain ⟨hid, hbinding⟩ := ofBinding_eq_ok h
  unfold Described
  rw [hid, hbinding]
  exact h

end Descriptor

namespace Registry

/-- One descriptor for each binding, in order, under consecutive ids. -/
structure Describes (next : Nat) (bindings : List Binding)
    (descriptors : List Descriptor) : Prop where
  ids : descriptors.map Descriptor.id = List.range' next bindings.length
  bindings : descriptors.map Descriptor.binding = bindings
  described : ∀ descriptor ∈ descriptors, descriptor.Described

theorem describes_nil (next : Nat) : Describes next [] [] :=
  ⟨by simp, by simp, by simp⟩

theorem Describes.cons
    {next : Nat} {binding : Binding} {descriptor : Descriptor}
    {bindings : List Binding} {descriptors : List Descriptor}
    (hhead : Descriptor.ofBinding next binding = .ok descriptor)
    (htail : Describes (next + 1) bindings descriptors) :
    Describes next (binding :: bindings) (descriptor :: descriptors) := by
  obtain ⟨hid, hbinding⟩ := Descriptor.ofBinding_eq_ok hhead
  refine ⟨?_, ?_, ?_⟩
  · simp [hid, htail.ids, List.range'_succ]
  · simp [hbinding, htail.bindings]
  · intro other hother
    rcases List.mem_cons.mp hother with rfl | hrest
    · exact Descriptor.described_of_ofBinding hhead
    · exact htail.described other hrest

theorem Describes.length_eq
    {next : Nat} {bindings : List Binding} {descriptors : List Descriptor}
    (h : Describes next bindings descriptors) :
    descriptors.length = bindings.length := by
  simpa using congrArg List.length h.bindings

theorem Describes.id_bounds
    {next : Nat} {bindings : List Binding} {descriptors : List Descriptor}
    (h : Describes next bindings descriptors)
    {descriptor : Descriptor} (hmem : descriptor ∈ descriptors) :
    next ≤ descriptor.id ∧ descriptor.id < next + bindings.length := by
  have hid : descriptor.id ∈ descriptors.map Descriptor.id :=
    List.mem_map_of_mem hmem
  rw [h.ids] at hid
  exact List.mem_range'_1.mp hid

theorem Describes.increasing
    {next : Nat} {bindings : List Binding} {descriptors : List Descriptor}
    (h : Describes next bindings descriptors) :
    (descriptors.map Descriptor.id).Pairwise (· < ·) := by
  rw [h.ids]
  exact List.pairwise_lt_range'

/-- Describing succeeds with one descriptor for each binding, and else takes at
least one id. -/
theorem describe_cases (next : Nat) (bindings : List Binding) :
    (∃ descriptors, Describes next bindings descriptors ∧
      describe next bindings = (.ok descriptors, next + bindings.length)) ∨
    ∃ error unused, next < unused ∧ describe next bindings = (.error error, unused) := by
  induction bindings generalizing next with
  | nil => exact Or.inl ⟨[], describes_nil next, rfl⟩
  | cons binding rest ih =>
      cases hhead : Descriptor.ofBinding next binding with
      | error error =>
          refine Or.inr ⟨error, next + 1, Nat.lt_succ_self next, ?_⟩
          simp [describe, hhead]
      | ok descriptor =>
          rcases ih (next + 1) with ⟨descriptors, hdescribes, hrest⟩ |
            ⟨error, unused, hlt, hrest⟩
          · refine Or.inl ⟨descriptor :: descriptors, hdescribes.cons hhead, ?_⟩
            simp only [describe, hhead, hrest, Except.map, List.length_cons]
            congr 1
            omega
          · refine Or.inr ⟨error, unused, by omega, ?_⟩
            simp [describe, hhead, hrest, Except.map]

/-! ## Inserting -/

/-- The registry with new descriptors at the end, whose ids were drawn from it. -/
def appended (registry : Registry) (descriptors : List Descriptor) : Registry :=
  { registry with
    descriptors := registry.descriptors ++ descriptors
    nextId := registry.nextId + descriptors.length
    generation := registry.generation + if descriptors.isEmpty then 0 else 1 }

/-- Descriptors of which none clashes join the list. -/
theorem insert_of_describe
    {registry : Registry} {bindings : List Binding} {descriptors : List Descriptor}
    (hdescribe : describe registry.nextId bindings =
      (.ok descriptors, registry.nextId + descriptors.length))
    (hclash : firstClash registry.descriptors descriptors = none) :
    registry.insert bindings =
      (.ok (descriptors.map Descriptor.id), registry.appended descriptors) := by
  simp only [insert, hdescribe, hclash, appended]
  split
  next hempty =>
    have hnil : descriptors = [] := by simpa using hempty
    simp [hnil]
  next => rfl

/-- An insertion fails and takes ids, or it appends one descriptor for each
binding. -/
theorem insert_cases (registry : Registry) (bindings : List Binding) :
    (∃ error unused, registry.nextId ≤ unused ∧
      registry.insert bindings = (.error error, { registry with nextId := unused })) ∨
    ∃ descriptors, Describes registry.nextId bindings descriptors ∧
      firstClash registry.descriptors descriptors = none ∧
      registry.insert bindings =
        (.ok (descriptors.map Descriptor.id), registry.appended descriptors) := by
  rcases describe_cases registry.nextId bindings with
    ⟨descriptors, hdescribes, hdescribe⟩ | ⟨error, unused, hlt, hdescribe⟩
  · rw [← hdescribes.length_eq] at hdescribe
    cases hclash : firstClash registry.descriptors descriptors with
    | some clash =>
        obtain ⟨descriptor, owner⟩ := clash
        refine Or.inl ⟨.conflict descriptor.method descriptor.capability owner.handler.name,
          registry.nextId + descriptors.length, by omega, ?_⟩
        simp only [insert, hdescribe, hclash]
    | none =>
        exact Or.inr ⟨descriptors, hdescribes, hclash, insert_of_describe hdescribe hclash⟩
  · refine Or.inl ⟨.selector error, unused, by omega, ?_⟩
    simp only [insert, hdescribe]

/-! ## Removing -/

theorem remove_descriptors (registry : Registry) (ids : List Nat) :
    (registry.remove ids).descriptors =
      registry.descriptors.filter fun descriptor => descriptor.id ∉ ids := by
  simp only [remove]
  split
  · rfl
  next hshorter =>
    symm
    apply List.filter_eq_self.mpr
    have hlength :
        (registry.descriptors.filter fun descriptor => descriptor.id ∉ ids).length =
          registry.descriptors.length :=
      Nat.le_antisymm (List.length_filter_le _ _) (Nat.le_of_not_lt hshorter)
    exact List.length_filter_eq_length_iff.mp hlength

/-- Removing ids that no descriptor has changes nothing, the generation included. -/
theorem remove_eq_self
    {registry : Registry} {ids : List Nat}
    (h : ∀ descriptor ∈ registry.descriptors, descriptor.id ∉ ids) :
    registry.remove ids = registry := by
  have hall : (registry.descriptors.filter fun descriptor => descriptor.id ∉ ids) =
      registry.descriptors :=
    List.filter_eq_self.mpr fun descriptor hmem => by simpa using h descriptor hmem
  unfold remove
  rw [hall]
  simp

@[simp] theorem remove_nil (registry : Registry) : registry.remove [] = registry :=
  remove_eq_self (by simp)

@[simp] theorem remove_nextId (registry : Registry) (ids : List Nat) :
    (registry.remove ids).nextId = registry.nextId := by
  simp only [remove]
  split <;> rfl

@[simp] theorem clear_descriptors (registry : Registry) :
    registry.clear.descriptors = [] := by
  unfold clear
  split
  next hempty => simpa using hempty
  next => rfl

@[simp] theorem clear_nextId (registry : Registry) :
    registry.clear.nextId = registry.nextId := by
  unfold clear
  split <;> rfl

end Registry

end Switchboard
