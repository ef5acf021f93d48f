import Mathlib.Data.List.Basic
import Mathlib.Tactic.Common
import Switchboard.Loop
import Switchboard.Proofs.Client.Declaration
import Switchboard.Proofs.Negotiation.Advertisement

/-!
# One announcement over the channel asked for

The advertisement and the registrations go through the capability table
separately.  Together they announce every capability over the channel that the
client asked for, and over no other: a deferred capability is registered once for
each handler instance and registration method, in the order of the table, the
instances and the methods.
-/

namespace Switchboard

/-! ## Registrations by capability -/

namespace Capability

theorem all_nodup : all.Nodup := by
  decide +kernel

/-- No method stands for two capabilities in registrations. -/
theorem eq_of_mem_registrationMethods :
    ∀ first ∈ all, ∀ second ∈ all, ∀ method ∈ first.registrationMethods,
      method ∈ second.registrationMethods → first = second := by
  decide +kernel

end Capability

theorem flatMap_eq_of_forall_ne
    {α β : Type} {xs : List α} (hnodup : xs.Nodup) {x : α} (hmem : x ∈ xs) {f : α → List β}
    (h : ∀ y ∈ xs, y ≠ x → f y = []) : xs.flatMap f = f x := by
  induction xs with
  | nil => cases hmem
  | cons y rest ih =>
      obtain ⟨hfresh, hrest⟩ := List.nodup_cons.mp hnodup
      rw [List.flatMap_cons]
      rcases List.mem_cons.mp hmem with rfl | htail
      · have hnone : rest.flatMap f = [] := by
          rw [List.flatMap_eq_nil_iff]
          intro z hz
          exact h z (List.mem_cons_of_mem _ hz) fun heq => hfresh (heq ▸ hz)
        rw [hnone, List.append_nil]
      · have hne : y ≠ x := fun heq => hfresh (heq ▸ htail)
        rw [h y List.mem_cons_self hne, List.nil_append]
        exact ih hrest htail fun z hz => h z (List.mem_cons_of_mem _ hz)

namespace Snapshot

/-- The registrations whose method stands for a capability. -/
def registeredFor (snapshot : Snapshot) (tree : ClientTree) (capability : Capability) :
    List DynamicRegistration :=
  (snapshot.dynamicRegistrations tree).filter fun made =>
    made.method ∈ capability.registrationMethods

variable {snapshot : Snapshot} {tree : ClientTree} {capability : Capability}

theorem method_mem_of_mem_registrationsFor
    {made : DynamicRegistration} (h : made ∈ snapshot.registrationsFor tree capability) :
    made.method ∈ capability.registrationMethods := by
  unfold registrationsFor at h
  split at h
  · obtain ⟨descriptor, -, hmade⟩ := List.mem_flatMap.mp h
    obtain ⟨method, hmethod, rfl⟩ := List.mem_map.mp hmade
    exact hmethod
  · cases h

/-- What is registered under the methods of a capability was made for it. -/
theorem registeredFor_eq_registrationsFor
    (snapshot : Snapshot) (tree : ClientTree) (capability : Capability) :
    snapshot.registeredFor tree capability = snapshot.registrationsFor tree capability := by
  have hown : (snapshot.registrationsFor tree capability).filter
      (fun made => made.method ∈ capability.registrationMethods) =
        snapshot.registrationsFor tree capability := by
    rw [List.filter_eq_self]
    intro made hmade
    simpa using method_mem_of_mem_registrationsFor hmade
  have hother : ∀ other ∈ Capability.all, other ≠ capability →
      (snapshot.registrationsFor tree other).filter
        (fun made => made.method ∈ capability.registrationMethods) = [] := by
    intro other hmem hne
    rw [List.filter_eq_nil_iff]
    intro made hmade hmethod
    have hsame : other = capability :=
      Capability.eq_of_mem_registrationMethods other hmem capability
        (Capability.mem_all capability) made.method
        (method_mem_of_mem_registrationsFor hmade) (by simpa using hmethod)
    exact hne hsame
  rw [registeredFor, dynamicRegistrations_eq_flatMap, List.filter_flatMap,
    flatMap_eq_of_forall_ne Capability.all_nodup (Capability.mem_all capability) hother, hown]

theorem registeredFor_of_deferred (h : tree.channel capability = .deferred) :
    snapshot.registeredFor tree capability =
      (onePerHandler (snapshot.forCapability capability)).flatMap fun leader =>
        capability.registrationMethods.map (registration capability leader) := by
  rw [registeredFor_eq_registrationsFor, registrationsFor,
    if_pos (ClientTree.dynamicSupport_isDynamic_iff.mpr h)]

theorem registeredFor_of_not_deferred (h : tree.channel capability ≠ .deferred) :
    snapshot.registeredFor tree capability = [] := by
  rw [registeredFor_eq_registrationsFor, registrationsFor,
    if_neg fun hdynamic => h (ClientTree.dynamicSupport_isDynamic_iff.mp hdynamic)]

theorem member?_of_not_initial
    (h : tree.channel capability ≠ .initial) {field : String}
    (hfield : capability.serverField = some field) :
    (snapshot.serverCapabilities tree).member? field = none := by
  rw [serverCapabilities_member? tree hfield]
  by_contra hset
  obtain ⟨value, hvalue⟩ := Option.ne_none_iff_exists'.mp hset
  have hactive := hasStatic_of_advertisement hvalue
  rw [hasStatic, Bool.and_eq_true] at hactive
  exact h (ClientTree.dynamicSupport_isStatic_iff.mp hactive.1)

theorem dynamicRegistrations_eq_flatMap_registeredFor
    (snapshot : Snapshot) (tree : ClientTree) :
    snapshot.dynamicRegistrations tree =
      Capability.all.flatMap (snapshot.registeredFor tree) := by
  rw [dynamicRegistrations_eq_flatMap]
  congr 1
  funext capability
  exact (registeredFor_eq_registrationsFor snapshot tree capability).symm

end Snapshot

/-! ## Both channels together -/

/-- Every capability is announced over the channel that the client asked for, and
over no other. -/
structure LoopState.AnnouncesByChannel {σ : Type} (state : LoopState σ) : Prop where
  /-- A deferred capability is not advertised, and registered once for each handler
  instance and registration method. -/
  deferred : ∀ capability, state.client.channel capability = .deferred →
    (∀ field, capability.serverField = some field →
      (state.host.snapshot.serverCapabilities state.client).member? field = none) ∧
    ∃ leaders, Descriptor.Leads leaders (state.host.snapshot.forCapability capability) ∧
      state.host.snapshot.registeredFor state.client capability =
        leaders.flatMap fun leader =>
          capability.registrationMethods.map (Snapshot.registration capability leader)
  initial : ∀ capability, state.client.channel capability = .initial →
    state.host.snapshot.registeredFor state.client capability = []
  absent : ∀ capability, state.client.channel capability = .absent →
    (∀ field, capability.serverField = some field →
      (state.host.snapshot.serverCapabilities state.client).member? field = none) ∧
    state.host.snapshot.registeredFor state.client capability = []
  /-- The registrations follow the capability table. -/
  ordered : state.host.snapshot.dynamicRegistrations state.client =
    Capability.all.flatMap (state.host.snapshot.registeredFor state.client)
  /-- One request carries all registrations, if there are any. -/
  requested :
    state.requestRegistrations.1 =
        (state.host.snapshot.dynamicRegistrations state.client).length ∧
      state.requestRegistrations.2.sent =
        if state.host.snapshot.dynamicRegistrations state.client = [] then []
        else
          [.request (.text ("capstan/register/" ++ toString (state.requestsMade + 1)))
            "client/registerCapability"
            (.ofMembers [("registrations",
              .array ((state.host.snapshot.dynamicRegistrations state.client).map
                DynamicRegistration.toJson))])]

/-- Whatever is registered and whatever the client declares, no capability is
announced over two channels or over one that the client did not ask for. -/
theorem announces_by_channel {σ : Type} (state : LoopState σ) : state.AnnouncesByChannel := by
  refine ⟨?_, ?_, ?_, ?_, ?_⟩
  · intro capability hchannel
    have hnot : state.client.channel capability ≠ .initial := by
      rw [hchannel]
      decide
    refine ⟨fun field hfield => Snapshot.member?_of_not_initial hnot hfield, ?_⟩
    exact ⟨_, Snapshot.leads_onePerHandler _, Snapshot.registeredFor_of_deferred hchannel⟩
  · intro capability hchannel
    exact Snapshot.registeredFor_of_not_deferred (by rw [hchannel]; decide)
  · intro capability hchannel
    have hnot : state.client.channel capability ≠ .initial := by
      rw [hchannel]
      decide
    exact ⟨fun field hfield => Snapshot.member?_of_not_initial hnot hfield,
      Snapshot.registeredFor_of_not_deferred (by rw [hchannel]; decide)⟩
  · exact Snapshot.dynamicRegistrations_eq_flatMap_registeredFor _ _
  · cases hmade : state.host.snapshot.dynamicRegistrations state.client with
    | nil => simp [LoopState.requestRegistrations, hmade]
    | cons made rest => simp [LoopState.requestRegistrations, hmade]

end Switchboard
