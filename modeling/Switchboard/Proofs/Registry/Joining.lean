import Mathlib.Data.List.Perm.Basic
import Mathlib.Tactic.Common
import Switchboard.Proofs.Registry.Ownership

/-!
# When adds succeed

An add succeeds if the selectors that apply to its bindings compile and none of the
bindings clashes with another one or with a listed one.  Neither test looks at ids
or at the order of the bindings, so adds that succeed in one order succeed in every
order, and bring the same bindings.
-/

namespace Switchboard

/-! ## Bindings -/

namespace Binding

/-- The handler's selector compiles, if it applies. -/
def Compiles (binding : Binding) : Prop :=
  binding.isScoped = true → ∀ specs, binding.handler.selector = some specs →
    ∃ selector, DocumentSelector.ofSpecs specs = .ok selector

/-- Whether only one handler may serve the method. -/
def singleOwner (binding : Binding) : Bool :=
  match binding.capability with
  | none => true
  | some capability => capability.ownership = .single

/-- Two bindings may be listed together unless both are sole owners of one method. -/
def Compatible (binding other : Binding) : Prop :=
  binding.singleOwner = true → other.singleOwner = true → binding.method ≠ other.method

theorem Compatible.symm {binding other : Binding} (h : binding.Compatible other) :
    other.Compatible binding := by
  intro hother hbinding heq
  exact h hbinding hother heq.symm

instance : Std.Symm Compatible :=
  ⟨fun _ _ => Compatible.symm⟩

theorem exists_ofBinding_iff (id : Nat) (binding : Binding) :
    (∃ descriptor, Descriptor.ofBinding id binding = .ok descriptor) ↔ binding.Compiles := by
  unfold Descriptor.ofBinding Compiles
  cases binding.isScoped with
  | false => simp
  | true =>
      cases binding.handler.selector with
      | none => simp
      | some specs =>
          cases hspecs : DocumentSelector.ofSpecs specs with
          | error error => simp [hspecs, Except.map]
          | ok selector => simp [hspecs, Except.map]

end Binding

theorem Descriptor.pairwise_compatible_iff {descriptors : List Descriptor} :
    descriptors.Pairwise Compatible ↔
      (descriptors.map binding).Pairwise Binding.Compatible := by
  rw [List.pairwise_map]
  rfl

/-! ## One insertion -/

namespace Registry

theorem Describes.compiles
    {next : Nat} {bindings : List Binding} {descriptors : List Descriptor}
    (h : Describes next bindings descriptors) : ∀ binding ∈ bindings, binding.Compiles := by
  intro binding hmem
  rw [← h.bindings] at hmem
  obtain ⟨descriptor, hdescriptor, rfl⟩ := List.mem_map.mp hmem
  apply (Binding.exists_ofBinding_iff descriptor.id descriptor.binding).mp
  exact ⟨descriptor, h.described descriptor hdescriptor⟩

theorem exists_describes
    {bindings : List Binding} (h : ∀ binding ∈ bindings, binding.Compiles) (next : Nat) :
    ∃ descriptors, Describes next bindings descriptors ∧
      describe next bindings = (.ok descriptors, next + descriptors.length) := by
  induction bindings generalizing next with
  | nil => exact ⟨[], describes_nil next, rfl⟩
  | cons binding rest ih =>
      obtain ⟨hbinding, hrest⟩ := List.forall_mem_cons.mp h
      obtain ⟨descriptor, hdescriptor⟩ := (Binding.exists_ofBinding_iff next binding).mpr hbinding
      obtain ⟨descriptors, hdescribes, hdescribe⟩ := ih hrest (next + 1)
      refine ⟨descriptor :: descriptors, hdescribes.cons hdescriptor, ?_⟩
      rw [describe, hdescriptor]
      simp only [hdescribe, Except.map, List.length_cons]
      congr 1
      omega

/-- The bindings that are listed, in the order of registration. -/
def bindings (registry : Registry) : List Binding :=
  registry.descriptors.map Descriptor.binding

/-- Bindings may join those of a registry. -/
structure Joinable (registry : Registry) (bindings : List Binding) : Prop where
  compiled : ∀ binding ∈ bindings, binding.Compiles
  compatible : (registry.bindings ++ bindings).Pairwise Binding.Compatible

variable {registry after : Registry} {joining : List Binding}

theorem Joinable.exists_insert (h : registry.Joinable joining) :
    ∃ ids after, registry.insert joining = (.ok ids, after) ∧
      after.bindings = registry.bindings ++ joining := by
  obtain ⟨descriptors, hdescribes, hdescribe⟩ := exists_describes h.compiled registry.nextId
  have hcompatible : (registry.descriptors ++ descriptors).Pairwise Descriptor.Compatible := by
    rw [Descriptor.pairwise_compatible_iff, List.map_append, hdescribes.bindings]
    exact h.compatible
  have hclash : firstClash registry.descriptors descriptors = none :=
    firstClash_eq_none_iff.mpr (List.pairwise_append.mp hcompatible).2
  refine ⟨_, _, insert_of_describe hdescribe hclash, ?_⟩
  rw [bindings, appended, List.map_append, hdescribes.bindings, bindings]

theorem joinable_of_insert
    (hregistry : registry.bindings.Pairwise Binding.Compatible) {ids : List Nat}
    (h : registry.insert joining = (.ok ids, after)) :
    registry.Joinable joining ∧ after.bindings = registry.bindings ++ joining := by
  rcases insert_cases registry joining with
    ⟨error, unused, -, hfailed⟩ | ⟨descriptors, hdescribes, hclash, hinserted⟩
  · rw [hfailed] at h
    cases h
  · rw [hinserted] at h
    cases h
    have hall : (registry.appended descriptors).bindings = registry.bindings ++ joining := by
      rw [bindings, appended, List.map_append, hdescribes.bindings, bindings]
    refine ⟨⟨hdescribes.compiles, ?_⟩, hall⟩
    rw [← hall]
    apply Descriptor.pairwise_compatible_iff.mp
    exact List.pairwise_append.mpr
      ⟨Descriptor.pairwise_compatible_iff.mpr hregistry, firstClash_eq_none_iff.mp hclash⟩

/-! ## Adds call by call -/

/-- Adds handlers call by call; there is no result if a call fails. -/
def addEach? (registry : Registry) : List (List Handler) → Option Registry
  | [] => some registry
  | handlers :: rest =>
      match registry.add handlers with
      | (.ok _, registry) => registry.addEach? rest
      | (.error _, _) => none

theorem Joinable.exists_addEach?
    {calls : List (List Handler)} (h : registry.Joinable (calls.flatMap bindingsOf)) :
    ∃ after, registry.addEach? calls = some after ∧
      after.bindings = registry.bindings ++ calls.flatMap bindingsOf := by
  induction calls generalizing registry with
  | nil => exact ⟨registry, rfl, by simp⟩
  | cons handlers rest ih =>
      rw [List.flatMap_cons] at h
      have hfirst : registry.Joinable (bindingsOf handlers) := by
        refine ⟨fun binding hmem => h.compiled binding (List.mem_append_left _ hmem), ?_⟩
        exact h.compatible.sublist ((List.sublist_append_left _ _).append_left _)
      obtain ⟨ids, middle, hadd, hmiddle⟩ := hfirst.exists_insert
      have hrest : middle.Joinable (rest.flatMap bindingsOf) := by
        refine ⟨fun binding hmem => h.compiled binding (List.mem_append_right _ hmem), ?_⟩
        rw [hmiddle, List.append_assoc]
        exact h.compatible
      obtain ⟨after, hafter, hbindings⟩ := ih hrest
      refine ⟨after, ?_, ?_⟩
      · rw [addEach?, add, hadd]
        exact hafter
      · rw [hbindings, hmiddle, List.flatMap_cons, List.append_assoc]

theorem joinable_of_addEach?
    (hregistry : registry.bindings.Pairwise Binding.Compatible)
    {calls : List (List Handler)} (h : registry.addEach? calls = some after) :
    registry.Joinable (calls.flatMap bindingsOf) ∧
      after.bindings = registry.bindings ++ calls.flatMap bindingsOf := by
  induction calls generalizing registry with
  | nil =>
      cases h
      rw [List.flatMap_nil, List.append_nil]
      exact ⟨⟨by simp, by simpa using hregistry⟩, rfl⟩
  | cons handlers rest ih =>
      rw [addEach?] at h
      split at h
      next ids middle hadd =>
        obtain ⟨hfirst, hmiddle⟩ := joinable_of_insert hregistry hadd
        have hcompatible : middle.bindings.Pairwise Binding.Compatible := by
          rw [hmiddle]
          exact hfirst.compatible
        obtain ⟨hrest, hafter⟩ := ih hcompatible h
        rw [hmiddle, List.append_assoc] at hafter
        refine ⟨⟨?_, ?_⟩, hafter⟩
        · intro binding hmem
          rw [List.flatMap_cons, List.mem_append] at hmem
          exact hmem.elim (hfirst.compiled binding) (hrest.compiled binding)
        · have hall := hrest.compatible
          rwa [hmiddle, List.append_assoc] at hall
      next => cases h

/-- Whether bindings may join does not depend on their order. -/
theorem Joinable.perm
    (h : registry.Joinable joining) {other : Registry} {permuted : List Binding}
    (hregistry : registry.bindings.Perm other.bindings) (hjoining : joining.Perm permuted) :
    other.Joinable permuted := by
  refine ⟨fun binding hmem => h.compiled binding (hjoining.mem_iff.mpr hmem), ?_⟩
  exact ((hregistry.append hjoining).pairwise_iff Binding.Compatible.symm).mp h.compatible

end Registry

end Switchboard
