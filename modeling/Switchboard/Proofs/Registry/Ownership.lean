import Mathlib.Data.List.Basic
import Mathlib.Tactic.Common
import Switchboard.Proofs.Registry.Replay

/-!
# Who owns a method

Two invariants hold in every reachable registry.  A descriptor of a protocol
method carries the capability of that method, whichever way the capability came
to the descriptor, and no method has two single-owner descriptors.  Together they
leave every method of a single-owner capability at most one descriptor, because
no method belongs to two rows of the table.
-/

namespace Switchboard

/-! ## Methods and capabilities -/

namespace Capability

/-- No method belongs to two capabilities. -/
theorem ofMethod?_of_mem_methods :
    ∀ capability ∈ all, ∀ method ∈ capability.methods, ofMethod? method = some capability := by
  decide +kernel

theorem ofMethod?_eq_some_iff (method : String) (capability : Capability) :
    ofMethod? method = some capability ↔ method ∈ capability.methods := by
  constructor
  · intro h
    simpa using List.find?_some h
  · exact ofMethod?_of_mem_methods capability (mem_all capability) method

end Capability

namespace Binding

/-- A binding of a protocol method has the capability of the method. -/
def Lawful (binding : Binding) : Prop :=
  ∀ capability, Capability.ofMethod? binding.method = some capability →
    binding.capability = some capability

/-- A lent capability never stands in for the one of a protocol method. -/
theorem lawful_toMethod (method : String) (handler : Handler) :
    (toMethod method handler).Lawful := by
  intro capability hof
  have hmethod : Capability.ofMethod? method = some capability := hof
  simp [toMethod, hmethod]

end Binding

theorem Request.lawful_of_mem_bindings
    {request : Request} {binding : Binding} (h : binding ∈ request.bindings) :
    binding.Lawful := by
  cases request with
  | declared handlers =>
      obtain ⟨-, own, -, hown, hmethod⟩ := Registry.mem_bindingsOf_iff.mp h
      intro capability hof
      have hdeclared : Capability.ofMethod? binding.method = some own :=
        (Capability.ofMethod?_eq_some_iff binding.method own).mpr hmethod
      rw [hown, ← hdeclared, hof]
  | explicit method handler =>
      rw [bindings, List.mem_singleton] at h
      rw [h]
      exact Binding.lawful_toMethod method handler

/-! ## Clashes -/

/-- Two descriptors may be listed together unless both are sole owners of one method. -/
def Descriptor.Compatible (descriptor other : Descriptor) : Prop :=
  descriptor.singleOwner = true → other.singleOwner = true → descriptor.method ≠ other.method

namespace Registry

variable {registered descriptors : List Descriptor} {descriptor : Descriptor}

theorem owner?_eq_none_iff :
    owner? registered descriptor = none ↔
      ∀ listed ∈ registered, listed.Compatible descriptor := by
  rw [owner?]
  split
  next hsingle =>
    rw [List.find?_eq_none]
    simp [Descriptor.Compatible, hsingle, imp_not_comm]
  next hshared => simp [Descriptor.Compatible, hshared]

theorem firstClash_cons_eq_none_iff :
    firstClash registered (descriptor :: descriptors) = none ↔
      owner? registered descriptor = none ∧
        firstClash (registered ++ [descriptor]) descriptors = none := by
  rw [firstClash]
  rcases owner? registered descriptor with _ | owner <;> simp

/-- Descriptors join a list if none of them clashes with a listed one or with another. -/
theorem firstClash_eq_none_iff :
    firstClash registered descriptors = none ↔
      descriptors.Pairwise Descriptor.Compatible ∧
        ∀ listed ∈ registered, ∀ descriptor ∈ descriptors, listed.Compatible descriptor := by
  -- The earlier descriptors of an add count as registered for the later ones.
  induction descriptors generalizing registered with
  | nil => simp [firstClash]
  | cons descriptor rest ih =>
      rw [firstClash_cons_eq_none_iff, owner?_eq_none_iff, ih, List.pairwise_cons]
      constructor
      · rintro ⟨hfirst, hrest, hfree⟩
        rw [List.forall_mem_append, List.forall_mem_singleton] at hfree
        exact ⟨⟨hfree.2, hrest⟩, fun listed hmem =>
          List.forall_mem_cons.mpr ⟨hfirst listed hmem, hfree.1 listed hmem⟩⟩
      · rintro ⟨⟨hfirst, hrest⟩, hfree⟩
        refine ⟨fun listed hmem => hfree listed hmem descriptor List.mem_cons_self, hrest, ?_⟩
        rw [List.forall_mem_append, List.forall_mem_singleton]
        exact ⟨fun listed hmem other hother =>
          hfree listed hmem other (List.mem_cons_of_mem _ hother), hfirst⟩

end Registry

/-! ## The invariant -/

/-- The invariant of the listed descriptors. -/
structure Registry.Lawful (registry : Registry) : Prop where
  described : ∀ descriptor ∈ registry.descriptors, descriptor.Described
  bindings : ∀ descriptor ∈ registry.descriptors, descriptor.binding.Lawful
  compatible : registry.descriptors.Pairwise Descriptor.Compatible

namespace Operation

variable {desk : Desk}

theorem perform_lawful
    (horderly : desk.Orderly) (hlawful : desk.registry.Lawful) (operation : Operation) :
    (operation.perform desk).2.registry.Lawful := by
  have heffect := operation.perform_effect horderly
  cases hreport : (operation.entry desk).report with
  | added ids =>
      obtain ⟨request, -, hdescribes, hclash, -⟩ := created_of_added hreport
      have hjoined := List.pairwise_append.mpr
        ⟨hlawful.compatible, Registry.firstClash_eq_none_iff.mp hclash⟩
      refine ⟨?_, ?_, ?_⟩
      · intro descriptor hmem
        rcases heffect.mem_of_mem_descriptors hmem with hold | hnew
        · exact hlawful.described descriptor hold
        · exact hdescribes.described descriptor hnew
      · intro descriptor hmem
        rcases heffect.mem_of_mem_descriptors hmem with hold | hnew
        · exact hlawful.bindings descriptor hold
        · have hbinding : descriptor.binding ∈ request.bindings := by
            rw [← hdescribes.bindings]
            exact List.mem_map_of_mem hnew
          exact Request.lawful_of_mem_bindings hbinding
      · rw [heffect.descriptors]
        exact hjoined.sublist (List.filter_sublist.append_right _)
  | _ =>
      have hcreated : (operation.entry desk).created = [] :=
        Entry.created_of_not_added (by simp [hreport])
      have hsublist : List.Sublist (operation.perform desk).2.registry.descriptors
          desk.registry.descriptors := by
        rw [heffect.descriptors, hcreated, List.append_nil]
        exact List.filter_sublist
      exact ⟨fun descriptor hmem => hlawful.described descriptor (hsublist.subset hmem),
        fun descriptor hmem => hlawful.bindings descriptor (hsublist.subset hmem),
        hlawful.compatible.sublist hsublist⟩

theorem performAll_lawful
    (horderly : desk.Orderly) (hlawful : desk.registry.Lawful) (operations : List Operation) :
    (performAll desk operations).registry.Lawful := by
  induction operations generalizing desk with
  | nil => exact hlawful
  | cons operation rest ih =>
      exact ih ((operation.perform_effect horderly).orderly horderly)
        (operation.perform_lawful horderly hlawful)

/-- Every reachable registry is lawful. -/
theorem opened_performAll_lawful
    (resolver : Resolver) (firstId : Nat) (operations : List Operation) :
    (performAll (Desk.opened resolver firstId) operations).registry.Lawful :=
  performAll_lawful (Desk.opened_orderly resolver firstId)
    ⟨by simp [Desk.opened], by simp [Desk.opened], List.Pairwise.nil⟩ operations

end Operation

/-! ## Routing to the owner -/

/-- Single ownership, as a snapshot shows it. -/
structure Snapshot.SingleOwned (snapshot : Snapshot) : Prop where
  sole : ∀ method, ((snapshot.forMethod method).filter Descriptor.singleOwner).length ≤ 1
  capability : ∀ descriptor ∈ snapshot.descriptors, ∀ capability,
    Capability.ofMethod? descriptor.method = some capability →
      descriptor.capability = some capability
  owned : ∀ capability : Capability, capability.ownership = .single →
    ∀ method ∈ capability.methods, (snapshot.forMethod method).length ≤ 1
  routed : ∀ capability : Capability, capability.ownership = .single →
    ∀ method ∈ capability.methods, ∀ document,
      (snapshot.routeAll method document).length ≤ 1 ∧
        ∀ descriptor, snapshot.route method document = some descriptor ↔
          descriptor ∈ snapshot.routeAll method document

namespace Registry

theorem length_le_one_of_pairwise
    {descriptors : List Descriptor} (h : descriptors.Pairwise Descriptor.Compatible)
    (hnever : ∀ descriptor ∈ descriptors, ∀ other ∈ descriptors, ¬descriptor.Compatible other) :
    descriptors.length ≤ 1 := by
  match descriptors with
  | [] => exact Nat.zero_le 1
  | [_] => exact le_rfl
  | first :: second :: rest =>
      have hfirst : first.Compatible second := List.rel_of_pairwise_cons h List.mem_cons_self
      exact absurd hfirst (hnever first (by simp) second (by simp))

namespace Lawful

variable {registry : Registry}

/-- A method has at most one sole owner. -/
theorem sole (h : registry.Lawful) (method : String) :
    ((registry.snapshot.forMethod method).filter Descriptor.singleOwner).length ≤ 1 := by
  apply length_le_one_of_pairwise
  · exact h.compatible.sublist (List.filter_sublist.trans List.filter_sublist)
  · intro descriptor hdescriptor other hother hcompatible
    simp only [Snapshot.forMethod, List.mem_filter, beq_iff_eq] at hdescriptor hother
    exact hcompatible hdescriptor.2 hother.2 (hdescriptor.1.2.trans hother.1.2.symm)

theorem capability_eq
    (h : registry.Lawful) {descriptor : Descriptor} (hmem : descriptor ∈ registry.descriptors)
    {capability : Capability} (hmethod : descriptor.method ∈ capability.methods) :
    descriptor.capability = some capability :=
  h.bindings descriptor hmem capability
    ((Capability.ofMethod?_eq_some_iff descriptor.method capability).mpr hmethod)

/-- A method of a single-owner capability has at most one descriptor. -/
theorem forMethod_length_le_one
    (h : registry.Lawful) {capability : Capability} (howner : capability.ownership = .single)
    {method : String} (hmethod : method ∈ capability.methods) :
    (registry.snapshot.forMethod method).length ≤ 1 := by
  have hall : ∀ descriptor ∈ registry.snapshot.forMethod method,
      descriptor.singleOwner = true := by
    intro descriptor hmem
    obtain ⟨hlisted, heq⟩ : descriptor ∈ registry.descriptors ∧ descriptor.method = method := by
      simpa [Snapshot.forMethod, snapshot] using hmem
    have hcapability := h.capability_eq hlisted (by rw [heq]; exact hmethod)
    simp [Descriptor.singleOwner, hcapability, howner]
  have hsole := h.sole method
  rwa [List.filter_eq_self.mpr hall] at hsole

end Lawful

end Registry

namespace Snapshot

theorem routeAll_sublist_forMethod
    (snapshot : Snapshot) (method : String) (document : Option DocumentRef) :
    List.Sublist (snapshot.routeAll method document) (snapshot.forMethod method) := by
  apply List.monotone_filter_right
  intro descriptor hserves
  unfold serves at hserves
  exact (Bool.and_eq_true_iff.mp hserves).1

/-- Where at most one descriptor receives a method, requests go to it. -/
theorem route_eq_some_iff
    {snapshot : Snapshot} {method : String} {document : Option DocumentRef}
    (h : (snapshot.routeAll method document).length ≤ 1) (descriptor : Descriptor) :
    snapshot.route method document = some descriptor ↔
      descriptor ∈ snapshot.routeAll method document := by
  rw [route_eq_head?_routeAll]
  match hroute : snapshot.routeAll method document with
  | [] => simp
  | [only] => simp [eq_comm]
  | _ :: _ :: _ => simp [hroute] at h

end Snapshot

/-- In every reachable registry single-owner methods have one owner, and every
request for such a method goes to it. -/
theorem performAll_singleOwned
    (resolver : Resolver) (firstId : Nat) (operations : List Operation) :
    (Operation.performAll (Desk.opened resolver firstId)
      operations).registry.snapshot.SingleOwned := by
  have hlawful := Operation.opened_performAll_lawful resolver firstId operations
  refine ⟨hlawful.sole, ?_, ?_, ?_⟩
  · intro descriptor hmem capability hof
    exact hlawful.bindings descriptor hmem capability hof
  · intro capability howner method hmethod
    exact hlawful.forMethod_length_le_one howner hmethod
  · intro capability howner method hmethod document
    have hsublist := Snapshot.routeAll_sublist_forMethod
      (Operation.performAll (Desk.opened resolver firstId) operations).registry.snapshot
      method document
    have hlength := hsublist.length_le.trans
      (hlawful.forMethod_length_le_one howner hmethod)
    exact ⟨hlength, Snapshot.route_eq_some_iff hlength⟩

end Switchboard
