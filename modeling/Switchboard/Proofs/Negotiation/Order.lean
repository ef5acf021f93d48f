import Mathlib.Data.List.Basic
import Mathlib.Tactic.Common
import Switchboard.Proofs.Negotiation.Independence
import Switchboard.Proofs.Negotiation.Served
import Switchboard.Proofs.Options.Merge
import Switchboard.Proofs.Registry.Joining

/-!
# Adds in any order

The advertisement asks of a registry only which handlers have which capabilities.
Several handlers of one capability have their options combined, in any order; a
capability with a single owner has one handler, if its handlers were added with what
they declare.  As adds that succeed succeed in every order, the order of registration
does not show in the advertisement.
-/

namespace Switchboard

/-! ## What the advertisement depends on -/

theorem head?_congr
    {α : Type} {xs ys : List α} (hsame : ∀ x, x ∈ xs ↔ x ∈ ys)
    (hsole : ∀ x ∈ ys, ∀ y ∈ ys, x = y) : xs.head? = ys.head? := by
  cases xs with
  | nil =>
      have hnil : ys = [] := List.eq_nil_iff_forall_not_mem.mpr fun y hy => by
        simpa using (hsame y).mpr hy
      rw [hnil]
  | cons x xs =>
      cases ys with
      | nil => simpa using (hsame x).mp List.mem_cons_self
      | cons y ys =>
          have heq : x = y :=
            hsole x ((hsame x).mp List.mem_cons_self) y List.mem_cons_self
          rw [List.head?_cons, List.head?_cons, heq]

namespace Snapshot

variable {snapshot other : Snapshot} {tree : ClientTree} {capability : Capability} {field : String}

/-- Two snapshots have the same handlers of a capability, and only one if the capability
has a single owner. -/
structure Agree (snapshot other : Snapshot) (capability : Capability) : Prop where
  same : ∀ handler,
    handler ∈ snapshot.handlersFor capability ↔ handler ∈ other.handlersFor capability
  sole : capability.ownership = .single → ∀ first ∈ other.handlersFor capability,
    ∀ second ∈ other.handlersFor capability, first = second

theorem Agree.perm_eraseDups (h : snapshot.Agree other capability) :
    (snapshot.handlersFor capability).eraseDups.Perm
      (other.handlersFor capability).eraseDups := by
  apply (List.perm_ext_iff_of_nodup (snapshot.nodup_eraseDups_handlersFor capability)
    (other.nodup_eraseDups_handlersFor capability)).mpr
  intro handler
  rw [List.mem_eraseDups, List.mem_eraseDups]
  exact h.same handler

theorem Agree.preferred_eq
    (h : snapshot.Agree other capability) (hfield : capability.serverField = some field) :
    Options.preferred capability (snapshot.handlersFor capability) =
      Options.preferred capability (other.handlersFor capability) := by
  unfold Options.preferred
  cases hownership : capability.ownership with
  | multi =>
      have hreduced := Options.reduce_perm hfield hownership
        (h.perm_eraseDups.filterMap fun handler => handler.options capability)
      simp only [hreduced]
  | single =>
      have hhead := head?_congr h.same (h.sole hownership)
      simp only [hhead]

theorem Agree.advertisement_eq
    (h : snapshot.Agree other capability) (hfield : capability.serverField = some field)
    (tree : ClientTree) :
    snapshot.advertisement tree capability = other.advertisement tree capability := by
  have hregistered : (∃ descriptor ∈ snapshot.descriptors,
      descriptor.capability = some capability) ↔
        ∃ descriptor ∈ other.descriptors, descriptor.capability = some capability := by
    rw [← handlersFor_ne_nil_iff, ← handlersFor_ne_nil_iff, ne_eq, ne_eq,
      List.eq_nil_iff_forall_not_mem, List.eq_nil_iff_forall_not_mem]
    simp only [h.same]
  apply Option.ext
  intro result
  rw [advertisement_eq_some_iff, advertisement_eq_some_iff, hregistered, h.preferred_eq hfield]

theorem serverCapabilities_eq_of_agree
    (h : ∀ capability, snapshot.Agree other capability) (tree : ClientTree) :
    snapshot.serverCapabilities tree = other.serverCapabilities tree := by
  rw [serverCapabilities, serverCapabilities]
  congr 1
  apply List.filterMap_congr
  intro capability _
  cases hfield : capability.serverField with
  | none => rfl
  | some field => rw [(h capability).advertisement_eq hfield tree]

end Snapshot

/-! ## Handlers that were added with what they declare -/

namespace Registry

variable {registry after other : Registry} {capability : Capability}

theorem mem_handlersFor {handler : Handler} :
    handler ∈ registry.snapshot.handlersFor capability ↔
      ∃ binding ∈ registry.bindings,
        binding.capability = some capability ∧ binding.handler = handler := by
  rw [Snapshot.handlersFor, List.mem_map]
  constructor
  · rintro ⟨descriptor, hmem, rfl⟩
    obtain ⟨hlisted, hcapability⟩ := Snapshot.mem_forCapability.mp hmem
    exact ⟨descriptor.binding, List.mem_map_of_mem hlisted, hcapability, rfl⟩
  · rintro ⟨binding, hmem, hcapability, rfl⟩
    obtain ⟨descriptor, hlisted, rfl⟩ := List.mem_map.mp hmem
    exact ⟨descriptor, Snapshot.mem_forCapability.mpr ⟨hlisted, hcapability⟩, rfl⟩

/-- A handler that has a capability serves its primary method. -/
theorem primary_mem_flatMap_bindingsOf
    {calls : List (List Handler)} {binding : Binding}
    (hmem : binding ∈ calls.flatMap bindingsOf)
    (hcapability : binding.capability = some capability) :
    ⟨capability.primaryMethod, some capability, binding.handler⟩ ∈ calls.flatMap bindingsOf := by
  obtain ⟨handlers, hcall, hbinding⟩ := List.mem_flatMap.mp hmem
  exact List.mem_flatMap.mpr
    ⟨handlers, hcall, Request.primary_mem_of_declared hbinding hcapability⟩

/-- Of the handlers of a capability with a single owner only one can be added. -/
theorem handlersFor_sole
    {calls : List (List Handler)} (hbindings : registry.bindings = calls.flatMap bindingsOf)
    (hcompatible : registry.bindings.Pairwise Binding.Compatible)
    (howner : capability.ownership = .single) :
    ∀ first ∈ registry.snapshot.handlersFor capability,
      ∀ second ∈ registry.snapshot.handlersFor capability, first = second := by
  have hprimary : ∀ handler ∈ registry.snapshot.handlersFor capability,
      ⟨capability.primaryMethod, some capability, handler⟩ ∈ registry.bindings := by
    intro handler hmem
    obtain ⟨binding, hbinding, hcapability, rfl⟩ := mem_handlersFor.mp hmem
    rw [hbindings] at hbinding ⊢
    exact primary_mem_flatMap_bindingsOf hbinding hcapability
  intro first hfirst second hsecond
  by_contra hne
  have hdistinct : (⟨capability.primaryMethod, some capability, first⟩ : Binding) ≠
      ⟨capability.primaryMethod, some capability, second⟩ := fun heq =>
    hne (congrArg Binding.handler heq)
  have hapart := hcompatible.forall (hprimary first hfirst) (hprimary second hsecond) hdistinct
  have hsingle : ∀ handler, (⟨capability.primaryMethod, some capability, handler⟩ :
      Binding).singleOwner = true := by
    intro handler
    simp [Binding.singleOwner, howner]
  exact hapart (hsingle first) (hsingle second) rfl

end Registry

/-- The order in which handlers are added to an empty registry does not decide whether the
adds succeed, and does not show in the advertisement. -/
theorem advertised_in_any_order
    {registry fresh after : Registry}
    (hregistry : registry.descriptors = []) (hfresh : fresh.descriptors = [])
    {calls permuted : List (List Handler)} (hperm : calls.Perm permuted)
    (hadded : registry.addEach? calls = some after) :
    ∃ other, fresh.addEach? permuted = some other ∧
      ∀ tree, other.snapshot.serverCapabilities tree = after.snapshot.serverCapabilities tree := by
  have hnone : registry.bindings = [] := by
    rw [Registry.bindings, hregistry, List.map_nil]
  have hnone' : fresh.bindings = [] := by
    rw [Registry.bindings, hfresh, List.map_nil]
  have hbindings : (calls.flatMap Registry.bindingsOf).Perm
      (permuted.flatMap Registry.bindingsOf) := hperm.flatMap_right _
  obtain ⟨hjoinable, hafter⟩ := Registry.joinable_of_addEach?
    (by rw [hnone]; exact List.Pairwise.nil) hadded
  have hjoinable' : fresh.Joinable (permuted.flatMap Registry.bindingsOf) := by
    apply hjoinable.perm _ hbindings
    rw [hnone, hnone']
  obtain ⟨other, hother, hotherBindings⟩ := hjoinable'.exists_addEach?
  refine ⟨other, hother, ?_⟩
  apply Snapshot.serverCapabilities_eq_of_agree
  intro capability
  rw [hnone, List.nil_append] at hafter
  rw [hnone', List.nil_append] at hotherBindings
  constructor
  · intro handler
    rw [Registry.mem_handlersFor, Registry.mem_handlersFor, hafter, hotherBindings]
    simp only [hbindings.mem_iff]
  · apply Registry.handlersFor_sole hafter
    have hcompatible := hjoinable.compatible
    rwa [hnone, List.nil_append, ← hafter] at hcompatible

/-- A handler that offers some commands. -/
def offering (serial : Nat) (commands : List String) : Handler :=
  ⟨serial, .application ⟨"commands", "Commands", "Commands", [.executeCommand], none,
    [(.executeCommand, .ofMembers [("commands", .ofTexts commands)])]⟩⟩

theorem commands_in_any_order :
    ∃ after, ({} : Registry).addEach?
        [[offering 1 ["save"]], [Snapshot.plainHover], [offering 2 ["format"]]] = some after ∧
      ∃ other, ({} : Registry).addEach?
          [[offering 1 ["save"]], [offering 2 ["format"]], [Snapshot.plainHover]] = some other ∧
        ∀ tree, other.snapshot.serverCapabilities tree =
          after.snapshot.serverCapabilities tree := by
  have hsome : (({} : Registry).addEach?
      [[offering 1 ["save"]], [Snapshot.plainHover], [offering 2 ["format"]]]).isSome = true := by
    decide +kernel
  obtain ⟨after, hafter⟩ := Option.isSome_iff_exists.mp hsome
  have hperm : List.Perm
      [[offering 1 ["save"]], [Snapshot.plainHover], [offering 2 ["format"]]]
      [[offering 1 ["save"]], [offering 2 ["format"]], [Snapshot.plainHover]] :=
    (List.Perm.swap _ _ _).cons _
  exact ⟨after, hafter, advertised_in_any_order rfl rfl hperm hafter⟩

end Switchboard
