import Mathlib.Data.List.Nodup
import Mathlib.Tactic.Common
import Switchboard.Proofs.Negotiation.Channels
import Switchboard.Proofs.Negotiation.Served

/-!
# Repeated registrations

Ownership is settled for each method, while registrations are made for each handler
instance.  A method of a capability is therefore registered once for every instance
that has the capability.  The capability has a single owner, so only one instance can
serve its primary method; the others came to the capability by adds aside.
-/

namespace Switchboard

namespace Capability

theorem registrationMethods_nodup :
    ∀ capability ∈ all, capability.registrationMethods.Nodup := by
  decide +kernel

end Capability

namespace Snapshot

/-- The registrations for one method. -/
def registrationsOf (snapshot : Snapshot) (tree : ClientTree) (method : String) :
    List DynamicRegistration :=
  (snapshot.dynamicRegistrations tree).filter fun made => made.method = method

variable {snapshot : Snapshot} {tree : ClientTree} {capability : Capability} {method : String}

theorem filter_registrations_of_method
    (hmethod : method ∈ capability.registrationMethods) (leader : Descriptor) :
    (capability.registrationMethods.map (registration capability leader)).filter
        (fun made => made.method = method) =
      [registration capability leader method] := by
  have hsame : ((fun made : DynamicRegistration => decide (made.method = method)) ∘
      registration capability leader) = fun other => decide (other = method) := rfl
  have hnodup := Capability.registrationMethods_nodup capability (Capability.mem_all capability)
  rw [List.filter_map, hsame, List.filter_eq, List.count_eq_one_of_mem hnodup hmethod]
  rfl

theorem registrationsOf_eq_filter_registeredFor
    (hmethod : method ∈ capability.registrationMethods) :
    snapshot.registrationsOf tree method =
      (snapshot.registeredFor tree capability).filter fun made => made.method = method := by
  rw [registrationsOf, registeredFor, List.filter_filter]
  apply List.filter_congr
  intro made _
  by_cases heq : made.method = method
  · simp [heq, hmethod]
  · simp [heq]

/-- A method is registered once for each handler instance with the capability. -/
theorem registrationsOf_eq_map
    (hmethod : method ∈ capability.registrationMethods) :
    snapshot.registrationsOf tree method =
      if tree.channel capability = .deferred then
        (onePerHandler (snapshot.forCapability capability)).map fun leader =>
          registration capability leader method
      else [] := by
  rw [registrationsOf_eq_filter_registeredFor hmethod]
  split
  next hdeferred =>
    rw [registeredFor_of_deferred hdeferred, List.filter_flatMap]
    simp only [filter_registrations_of_method hmethod]
    exact List.map_eq_flatMap.symm
  next hnot => rw [registeredFor_of_not_deferred hnot, List.filter_nil]

/-- Everything that a handler instance has a capability for was added aside. -/
def OnlyAside (snapshot : Snapshot) (past : List Entry) (capability : Capability)
    (handler : Handler) : Prop :=
  ∀ descriptor ∈ snapshot.forCapability capability, descriptor.handler = handler →
    ∃ entry ∈ past, entry.AddsAside capability descriptor

/-- The registrations for a method of a capability repeat each other for distinct
instances only, and of any two of these one came to the capability aside. -/
structure RepeatsAside (snapshot : Snapshot) (tree : ClientTree) (past : List Entry)
    (capability : Capability) (method : String) (leaders : List Descriptor) : Prop where
  made : snapshot.registrationsOf tree method =
    leaders.map fun leader => registration capability leader method
  listed : ∀ leader ∈ leaders, leader ∈ snapshot.forCapability capability
  distinct : (leaders.map Descriptor.handler).Nodup
  aside : leaders.Pairwise fun leader other =>
    snapshot.OnlyAside past capability leader.handler ∨
      snapshot.OnlyAside past capability other.handler

theorem RepeatsAside.length_le_one
    {past : List Entry} {leaders : List Descriptor}
    (h : snapshot.RepeatsAside tree past capability method leaders)
    (hnone : ∀ descriptor ∈ snapshot.forCapability capability, ∀ entry ∈ past,
      ¬entry.AddsAside capability descriptor) :
    (snapshot.registrationsOf tree method).length ≤ 1 := by
  have hnever : ∀ leader ∈ leaders, ¬snapshot.OnlyAside past capability leader.handler := by
    intro leader hleader honly
    obtain ⟨entry, hentry, haside⟩ := honly leader (h.listed leader hleader) rfl
    exact hnone leader (h.listed leader hleader) entry hentry haside
  rw [h.made, List.length_map]
  match leaders with
  | [] => exact Nat.zero_le 1
  | [_] => exact le_rfl
  | first :: second :: _ =>
      rcases List.rel_of_pairwise_cons h.aside List.mem_cons_self with honly | honly
      · exact absurd honly (hnever first (by simp))
      · exact absurd honly (hnever second (by simp))

end Snapshot

namespace Operation

variable (resolver : Resolver) (firstId : Nat) (operations : List Operation)

/-- A handler instance serves the primary method of its capabilities or came to them
aside. -/
theorem exists_primary_or_onlyAside (capability : Capability) (handler : Handler) :
    let snapshot := (performAll (Desk.opened resolver firstId) operations).registry.snapshot
    (∃ primary ∈ snapshot.forMethod capability.primaryMethod, primary.handler = handler) ∨
      snapshot.OnlyAside (journal (Desk.opened resolver firstId) operations) capability
        handler := by
  intro snapshot
  have hlisted : snapshot.descriptors =
      surviving (journal (Desk.opened resolver firstId) operations) :=
    opened_performAll_descriptors resolver firstId operations
  by_cases hserved : ∃ primary ∈ snapshot.forMethod capability.primaryMethod,
      primary.handler = handler
  · exact Or.inl hserved
  · refine Or.inr ?_
    intro descriptor hdescriptor hhandler
    obtain ⟨hmem, hcapability⟩ := Snapshot.mem_forCapability.mp hdescriptor
    rw [hlisted] at hmem
    obtain ⟨entry, hentry, hcreated, hsiblings⟩ := exists_entry_of_mem_surviving hmem
    rcases journal_created hentry with ⟨request, hrequest, -, hbindings⟩ | ⟨-, hnone⟩
    · rcases entry.ownPrimary_or_aside hrequest hbindings hcreated hcapability with
        ⟨primary, hprimary, hmethod, hsame⟩ | haside
      · have hfor : primary ∈ snapshot.forMethod capability.primaryMethod := by
          rw [Snapshot.forMethod, List.mem_filter, hlisted]
          exact ⟨hsiblings hprimary, by simpa using hmethod⟩
        exact absurd ⟨primary, hfor, hsame.trans hhandler⟩ hserved
      · exact ⟨entry, hentry, haside⟩
    · simp [hnone] at hcreated

theorem onlyAside_or_onlyAside
    {capability : Capability} (howner : capability.ownership = .single)
    {handler other : Handler} (hne : handler ≠ other) :
    let snapshot := (performAll (Desk.opened resolver firstId) operations).registry.snapshot
    let past := journal (Desk.opened resolver firstId) operations
    snapshot.OnlyAside past capability handler ∨ snapshot.OnlyAside past capability other := by
  intro snapshot past
  rcases exists_primary_or_onlyAside resolver firstId operations capability handler with
    ⟨primary, hprimary, hhandler⟩ | hleft
  · rcases exists_primary_or_onlyAside resolver firstId operations capability other with
      ⟨second, hsecond, hother⟩ | hright
    · have hlength : (snapshot.forMethod capability.primaryMethod).length ≤ 1 :=
        (opened_performAll_lawful resolver firstId operations).forMethod_length_le_one howner
          List.mem_cons_self
      have hsame : primary = second := by
        match hlist : snapshot.forMethod capability.primaryMethod with
        | [] => rw [hlist] at hprimary; cases hprimary
        | [only] =>
            rw [hlist, List.mem_singleton] at hprimary hsecond
            exact hprimary.trans hsecond.symm
        | _ :: _ :: _ => simp [hlist] at hlength
      rw [← hhandler, ← hother, hsame] at hne
      exact absurd rfl hne
    · exact Or.inr hright
  · exact Or.inl hleft

end Operation

/-- In every reachable registry a method of a capability with a single owner is registered
at most once for each handler instance, and at most one of the instances was not added
aside; where nothing was added aside, the method is registered at most once. -/
theorem registered_once_or_aside
    (resolver : Resolver) (firstId : Nat) (operations : List Operation) (tree : ClientTree)
    (capability : Capability) (howner : capability.ownership = .single)
    (method : String) (hmethod : method ∈ capability.registrationMethods) :
    let snapshot := (Operation.performAll (Desk.opened resolver firstId)
      operations).registry.snapshot
    let past := Operation.journal (Desk.opened resolver firstId) operations
    (∃ leaders, snapshot.RepeatsAside tree past capability method leaders) ∧
      ((∀ descriptor ∈ snapshot.forCapability capability, ∀ entry ∈ past,
        ¬entry.AddsAside capability descriptor) →
        (snapshot.registrationsOf tree method).length ≤ 1) := by
  intro snapshot past
  have hrepeats : ∃ leaders, snapshot.RepeatsAside tree past capability method leaders := by
    by_cases hdeferred : tree.channel capability = .deferred
    · have hleads := Snapshot.leads_onePerHandler (snapshot.forCapability capability)
      refine ⟨Snapshot.onePerHandler (snapshot.forCapability capability), ?_, ?_, hleads.distinct,
        ?_⟩
      · rw [Snapshot.registrationsOf_eq_map hmethod, if_pos hdeferred]
      · intro leader hleader
        exact hleads.ordered.subset hleader
      · refine (List.pairwise_map.mp hleads.distinct).imp ?_
        intro leader other hne
        exact Operation.onlyAside_or_onlyAside resolver firstId operations howner hne
    · refine ⟨[], ?_, by simp, List.nodup_nil, List.Pairwise.nil⟩
      rw [Snapshot.registrationsOf_eq_map hmethod, if_neg hdeferred, List.map_nil]
  obtain ⟨leaders, hleaders⟩ := hrepeats
  exact ⟨⟨leaders, hleaders⟩, hleaders.length_le_one⟩

def resolvingCompleter : Handler :=
  ⟨1, .application ⟨"resolver", "Resolver", "Resolver", [.completion], none, []⟩⟩

/-- A client that registers completion dynamically. -/
def dynamicCompletionClient : ClientTree :=
  ⟨.ofMembers [("textDocument", .ofMembers [("completion",
    .ofMembers [("dynamicRegistration", .bool true)])])]⟩

theorem completion_registered_once :
    ((Operation.performAll (Desk.opened Resolver.none 1)
      [.add [completer] none]).registry.snapshot.registrationsOf dynamicCompletionClient
        "textDocument/completion").length ≤ 1 := by
  have hnone : ∀ descriptor ∈ (Operation.performAll (Desk.opened Resolver.none 1)
      [.add [completer] none]).registry.snapshot.forCapability .completion,
      ∀ entry ∈ Operation.journal (Desk.opened Resolver.none 1) [.add [completer] none],
        entry.request ≠ some (.explicit descriptor.method descriptor.handler) := by
    decide +kernel
  refine (registered_once_or_aside Resolver.none 1 [.add [completer] none]
    dynamicCompletionClient .completion (by decide) "textDocument/completion"
    (by decide +kernel)).2 ?_
  intro descriptor hdescriptor entry hentry haside
  exact hnone descriptor hdescriptor entry hentry haside.explicit

/-- Two handlers of completion, the second one under the resolving method alone. -/
def completersAside : List Operation :=
  [.addMethod "textDocument/completion" completer none,
    .addMethod "completionItem/resolve" resolvingCompleter none]

theorem completion_registered_twice :
    Capability.completion.ownership = .single ∧
    "textDocument/completion" ∈ Capability.completion.registrationMethods ∧
    ¬((Operation.performAll (Desk.opened Resolver.none 1)
      completersAside).registry.snapshot.registrationsOf dynamicCompletionClient
        "textDocument/completion").length ≤ 1 :=
  ⟨by decide, by decide +kernel, by decide +kernel⟩

end Switchboard
