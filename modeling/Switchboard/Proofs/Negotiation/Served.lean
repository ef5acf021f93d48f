import Mathlib.Data.List.Basic
import Mathlib.Tactic.Common
import Switchboard.Proofs.Negotiation.Advertisement
import Switchboard.Proofs.Registry.Ownership

/-!
# Whether what is announced is served

Announcing looks at the capabilities of the descriptors, dispatch at their
methods.  A handler that declares a capability brings its primary method along,
and the descriptors of one add come and go together, so declared capabilities
are served as announced.  An add under an explicit method brings that method
alone.
-/

namespace Switchboard

/-! ## What a request brings -/

namespace Binding

/-- An explicit method gets its capability from the table, or the handler lends it. -/
theorem toMethod_capability_cases
    {method : String} {handler : Handler} {capability : Capability}
    (h : (toMethod method handler).capability = some capability) :
    method ∈ capability.methods ∨
      (Capability.ofMethod? method = none ∧ handler.capabilities = [capability]) := by
  cases hof : Capability.ofMethod? method with
  | some known =>
      have hsame : known = capability := by
        simpa [toMethod, hof] using h
      rw [hsame] at hof
      exact Or.inl ((Capability.ofMethod?_eq_some_iff method capability).mp hof)
  | none =>
      refine Or.inr ⟨rfl, ?_⟩
      simp only [toMethod, hof, Option.none_or] at h
      split at h
      next only honly =>
        rw [honly, Option.some.inj h]
      next => cases h

end Binding

/-- A declared capability brings its primary method. -/
theorem Request.primary_mem_of_declared
    {handlers : List Handler} {binding : Binding} {capability : Capability}
    (h : binding ∈ (declared handlers).bindings)
    (hcapability : binding.capability = some capability) :
    ⟨capability.primaryMethod, some capability, binding.handler⟩ ∈
      (declared handlers).bindings := by
  obtain ⟨hhandler, own, hdeclared, hown, -⟩ := Registry.mem_bindingsOf_iff.mp h
  obtain rfl : own = capability := Option.some.inj (hown.symm.trans hcapability)
  exact Registry.mem_bindingsOf_iff.mpr ⟨hhandler, own, hdeclared, rfl, List.mem_cons_self⟩

/-! ## Adds aside the primary method -/

/-- A descriptor comes to a capability aside its primary method: the add named
another method of the capability, or a method of no capability to which the
handler lent its only one. -/
structure Entry.AddsAside (entry : Entry) (capability : Capability) (descriptor : Descriptor) :
    Prop where
  created : descriptor ∈ entry.created
  explicit : entry.request = some (.explicit descriptor.method descriptor.handler)
  aside : descriptor.method ≠ capability.primaryMethod
  origin : descriptor.method ∈ capability.methods ∨
    (Capability.ofMethod? descriptor.method = none ∧
      descriptor.handler.capabilities = [capability])

/-- An add that creates a descriptor with a capability creates one of the primary
method for the same handler as well, unless it is an add aside. -/
theorem Entry.ownPrimary_or_aside
    {entry : Entry} {request : Request} {descriptor : Descriptor} {capability : Capability}
    (hrequest : entry.request = some request)
    (hbindings : entry.created.map Descriptor.binding = request.bindings)
    (hmem : descriptor ∈ entry.created)
    (hcapability : descriptor.capability = some capability) :
    (∃ primary ∈ entry.created,
      primary.method = capability.primaryMethod ∧ primary.handler = descriptor.handler) ∨
      entry.AddsAside capability descriptor := by
  have hbinding : descriptor.binding ∈ request.bindings := by
    rw [← hbindings]
    exact List.mem_map_of_mem hmem
  cases request with
  | declared handlers =>
      have hprimary := Request.primary_mem_of_declared hbinding hcapability
      rw [← hbindings] at hprimary
      obtain ⟨primary, hcreated, hsame⟩ := List.mem_map.mp hprimary
      exact Or.inl ⟨primary, hcreated, congrArg Binding.method hsame,
        congrArg Binding.handler hsame⟩
  | explicit method handler =>
      have heq : descriptor.binding = Binding.toMethod method handler :=
        List.mem_singleton.mp hbinding
      obtain rfl : descriptor.method = method := congrArg Binding.method heq
      obtain rfl : descriptor.handler = handler := congrArg Binding.handler heq
      by_cases hmethod : descriptor.method = capability.primaryMethod
      · exact Or.inl ⟨descriptor, hmem, hmethod, rfl⟩
      · have hlent : (Binding.toMethod descriptor.method descriptor.handler).capability =
            some capability := by
          rw [← heq]
          exact hcapability
        exact Or.inr ⟨hmem, hrequest, hmethod, Binding.toMethod_capability_cases hlent⟩

theorem Entry.primary_or_aside
    {entry : Entry} {request : Request} {descriptor : Descriptor} {capability : Capability}
    (hrequest : entry.request = some request)
    (hbindings : entry.created.map Descriptor.binding = request.bindings)
    (hmem : descriptor ∈ entry.created)
    (hcapability : descriptor.capability = some capability) :
    (∃ primary ∈ entry.created, primary.method = capability.primaryMethod) ∨
      entry.AddsAside capability descriptor := by
  refine (entry.ownPrimary_or_aside hrequest hbindings hmem hcapability).imp_left ?_
  rintro ⟨primary, hcreated, hmethod, -⟩
  exact ⟨primary, hcreated, hmethod⟩

/-- In every reachable registry an announced capability has a descriptor, and its
primary method is served unless every descriptor with the capability was added
aside. -/
theorem announced_served_or_aside
    (resolver : Resolver) (firstId : Nat) (operations : List Operation)
    (tree : ClientTree) (capability : Capability)
    (h : (Operation.performAll (Desk.opened resolver firstId)
      operations).registry.snapshot.Announces tree capability) :
    let listed := (Operation.performAll (Desk.opened resolver firstId)
      operations).registry.snapshot.descriptors
    (∃ descriptor ∈ listed, descriptor.capability = some capability) ∧
      ((∃ descriptor ∈ listed, descriptor.method = capability.primaryMethod) ∨
        ∀ descriptor ∈ listed, descriptor.capability = some capability →
          ∃ entry ∈ Operation.journal (Desk.opened resolver firstId) operations,
            entry.AddsAside capability descriptor) := by
  intro listed
  have hlisted : listed =
      surviving (Operation.journal (Desk.opened resolver firstId) operations) :=
    Operation.opened_performAll_descriptors resolver firstId operations
  refine ⟨h.exists_descriptor, ?_⟩
  -- A listed descriptor has the siblings of its add beside it, so if the primary
  -- method is missing, its add did not bring it.
  by_cases hserved : ∃ descriptor ∈ listed, descriptor.method = capability.primaryMethod
  · exact Or.inl hserved
  · refine Or.inr ?_
    intro descriptor hmem hcapability
    rw [hlisted] at hmem
    obtain ⟨entry, hentry, hcreated, hsiblings⟩ := exists_entry_of_mem_surviving hmem
    rcases Operation.journal_created hentry with
      ⟨request, hrequest, -, hbindings⟩ | ⟨-, hnone⟩
    · rcases Entry.primary_or_aside hrequest hbindings hcreated hcapability with
        ⟨primary, hprimary, hmethod⟩ | haside
      · exact absurd ⟨primary, hlisted ▸ hsiblings hprimary, hmethod⟩ hserved
      · exact ⟨entry, hentry, haside⟩
    · simp [hnone] at hcreated

/-- A handler that declares completion alone. -/
def completer : Handler :=
  ⟨0, .application ⟨"completer", "Completer", "Completer", [.completion], none, []⟩⟩

/-- A client that supports completion and does not register it dynamically. -/
def plainCompletionClient : ClientTree :=
  ⟨.ofMembers [("textDocument", .ofMembers [("completion", .object [])])]⟩

theorem declared_completion_served :
    (Operation.performAll (Desk.opened Resolver.none 1)
      [.add [completer] none]).registry.snapshot.Announces plainCompletionClient .completion ∧
    ∃ descriptor ∈ (Operation.performAll (Desk.opened Resolver.none 1)
        [.add [completer] none]).registry.snapshot.descriptors,
      descriptor.capability = some .completion := by
  have hannounced : (Operation.performAll (Desk.opened Resolver.none 1)
      [.add [completer] none]).registry.snapshot.Announces plainCompletionClient .completion :=
    Or.inl ⟨"completionProvider", rfl, by decide +kernel⟩
  exact ⟨hannounced,
    (announced_served_or_aside Resolver.none 1 [.add [completer] none] plainCompletionClient
      .completion hannounced).1⟩

/-- With a handler under the resolving method alone, completion is announced though
nothing answers a completion request. -/
theorem completion_announced_unserved :
    (Operation.performAll (Desk.opened Resolver.none 1)
      [.addMethod "completionItem/resolve" completer none]).registry.snapshot.Announces
        plainCompletionClient .completion ∧
    ∀ descriptor ∈ (Operation.performAll (Desk.opened Resolver.none 1)
        [.addMethod "completionItem/resolve" completer none]).registry.snapshot.descriptors,
      descriptor.method ≠ Capability.completion.primaryMethod :=
  ⟨Or.inl ⟨"completionProvider", rfl, by decide +kernel⟩, by decide +kernel⟩

end Switchboard
