import Mathlib.Data.List.Nodup
import Mathlib.Tactic.Common
import Switchboard.Proofs.Json.Text
import Switchboard.Proofs.Negotiation.Repeats
import Switchboard.Proofs.Registry.Replay

/-!
# Names of registrations

A registration is named after a descriptor and a method: the number of the descriptor and
the method, with a colon between.  The name can be read back, and no number is given twice
in a process, so a name stands for one descriptor and one of its methods for good, also after
the descriptor is gone.
-/

namespace Switchboard

/-! ## Names -/

/-- The name of a registration for a method, made of the descriptor with a number. -/
def registrationName (number : Nat) (method : String) : String :=
  toString number ++ ":" ++ method

theorem registrationName_inj
    {number other : Nat} {method second : String}
    (h : registrationName number method = registrationName other second) :
    number = other ∧ method = second := by
  have hchars : ∀ (value : Nat) (suffix : String),
      (registrationName value suffix).toList = Nat.toDigits 10 value ++ ':' :: suffix.toList := by
    intro value suffix
    rw [registrationName, String.toList_append, String.toList_append, List.append_assoc]
    exact congrArg (· ++ _) Nat.toList_repr
  have hlists := congrArg String.toList h
  rw [hchars, hchars] at hlists
  -- The colon is no figure, so the figures of the number end before it.
  obtain ⟨hnumber, hrest⟩ := Json.toDigits_append_inj (Json.stops_cons rfl _)
    (Json.stops_cons rfl _) hlists
  exact ⟨hnumber, String.toList_injective (List.cons.inj hrest).2⟩

/-! ## Numbers along a run -/

namespace Operation

/-- The descriptors that the operations of a run create, in order. -/
def created (desk : Desk) (operations : List Operation) : List Descriptor :=
  (journal desk operations).flatMap Entry.created

theorem created_cons (desk : Desk) (operation : Operation) (rest : List Operation) :
    created desk (operation :: rest) =
      (operation.entry desk).created ++ created (operation.perform desk).2 rest := rfl

theorem created_append (desk : Desk) (earlier later : List Operation) :
    created desk (earlier ++ later) =
      created desk earlier ++ created (performAll desk earlier) later := by
  rw [created, journal_append, List.flatMap_append]
  rfl

variable {desk : Desk}

theorem nextId_le_performAll (h : desk.Orderly) (operations : List Operation) :
    desk.registry.nextId ≤ (performAll desk operations).registry.nextId := by
  induction operations generalizing desk with
  | nil => exact le_rfl
  | cons operation rest ih =>
      have heffect := operation.perform_effect h
      exact heffect.nextId_le.trans (ih (heffect.orderly h))

/-- What a run creates is numbered from where the counter stood before it to where it stands
afterwards. -/
theorem created_fresh
    (h : desk.Orderly) {operations : List Operation} {descriptor : Descriptor}
    (hmem : descriptor ∈ created desk operations) :
    desk.registry.nextId ≤ descriptor.id ∧
      descriptor.id < (performAll desk operations).registry.nextId := by
  induction operations generalizing desk with
  | nil => cases hmem
  | cons operation rest ih =>
      have heffect := operation.perform_effect h
      have horderly := heffect.orderly h
      rcases List.mem_append.mp hmem with hnow | hlater
      · obtain ⟨hlow, hhigh⟩ := heffect.created_fresh descriptor hnow
        exact ⟨hlow, hhigh.trans_le (nextId_le_performAll horderly rest)⟩
      · obtain ⟨hlow, hhigh⟩ := ih horderly hlater
        exact ⟨heffect.nextId_le.trans hlow, hhigh⟩

theorem created_increasing (h : desk.Orderly) (operations : List Operation) :
    ((created desk operations).map Descriptor.id).Pairwise (· < ·) := by
  induction operations generalizing desk with
  | nil => exact List.Pairwise.nil
  | cons operation rest ih =>
      have heffect := operation.perform_effect h
      have horderly := heffect.orderly h
      rw [created_cons, List.map_append, List.pairwise_append]
      refine ⟨heffect.increasing, ih horderly, ?_⟩
      intro number hnow other hlater
      obtain ⟨descriptor, hdescriptor, rfl⟩ := List.mem_map.mp hnow
      obtain ⟨second, hsecond, rfl⟩ := List.mem_map.mp hlater
      exact (heffect.created_fresh descriptor hdescriptor).2.trans_le
        (created_fresh horderly hsecond).1

/-- No descriptor of a run has a number that another registry took during the run. -/
theorem id_ne_of_elsewhere
    (h : desk.Orderly) (before : List Operation) (count : Nat) (after : List Operation)
    {taken : Nat} (hlow : (performAll desk before).registry.nextId ≤ taken)
    (hhigh : taken < (performAll desk before).registry.nextId + count)
    {descriptor : Descriptor}
    (hmem : descriptor ∈ created desk (before ++ .elsewhere count :: after)) :
    descriptor.id ≠ taken := by
  have horderly := performAll_orderly h before
  have hskipped := ((elsewhere count).perform_effect horderly).orderly horderly
  rw [created_append, created_cons] at hmem
  rcases List.mem_append.mp hmem with hbefore | hmem
  · have hlt := (created_fresh h hbefore).2
    omega
  · rcases List.mem_append.mp hmem with hnow | hafter
    · cases hnow
    · have hle : (performAll desk before).registry.nextId + count ≤ descriptor.id :=
        (created_fresh hskipped hafter).1
      omega

theorem mem_created_of_listed
    {resolver : Resolver} {firstId : Nat} {operations : List Operation} {descriptor : Descriptor}
    (h : descriptor ∈
      (performAll (Desk.opened resolver firstId) operations).registry.snapshot.descriptors) :
    descriptor ∈ created (Desk.opened resolver firstId) operations := by
  have hlisted : descriptor ∈ surviving (journal (Desk.opened resolver firstId) operations) := by
    rw [← opened_performAll_descriptors]
    exact h
  obtain ⟨entry, hentry, hcreated, -⟩ := exists_entry_of_mem_surviving hlisted
  exact List.mem_flatMap.mpr ⟨entry, hentry, hcreated⟩

end Operation

/-! ## Names in a snapshot -/

namespace Snapshot

/-- A registration is made of a descriptor: the descriptor is listed with a capability that
the client wants registered, and the method is one of the capability. -/
structure Makes (snapshot : Snapshot) (tree : ClientTree) (capability : Capability)
    (descriptor : Descriptor) (made : DynamicRegistration) : Prop where
  deferred : tree.channel capability = .deferred
  listed : descriptor ∈ snapshot.descriptors
  has : descriptor.capability = some capability
  method : made.method ∈ capability.registrationMethods
  built : made = registration capability descriptor made.method

variable {snapshot : Snapshot} {tree : ClientTree} {capability : Capability}

theorem Makes.named
    {descriptor : Descriptor} {made : DynamicRegistration}
    (h : snapshot.Makes tree capability descriptor made) :
    made.id = registrationName descriptor.id made.method :=
  congrArg DynamicRegistration.id h.built

theorem exists_makes
    {made : DynamicRegistration} (h : made ∈ snapshot.registrationsFor tree capability) :
    ∃ descriptor, snapshot.Makes tree capability descriptor made := by
  unfold registrationsFor at h
  split at h
  next hdynamic =>
    obtain ⟨leader, hleader, hmade⟩ := List.mem_flatMap.mp h
    obtain ⟨method, hmethod, rfl⟩ := List.mem_map.mp hmade
    obtain ⟨hlisted, hhas⟩ := mem_forCapability.mp (mem_of_mem_onePerHandler hleader)
    exact ⟨leader, ClientTree.dynamicSupport_isDynamic_iff.mp hdynamic, hlisted, hhas, hmethod,
      rfl⟩
  next => cases h

/-- The names of the registrations for a capability. -/
theorem map_id_registrationsFor (snapshot : Snapshot) (tree : ClientTree)
    (capability : Capability) :
    (snapshot.registrationsFor tree capability).map DynamicRegistration.id =
      if (tree.dynamicSupport capability).isDynamic then
        (onePerHandler (snapshot.forCapability capability)).flatMap fun leader =>
          capability.registrationMethods.map (registrationName leader.id)
      else [] := by
  rw [registrationsFor]
  split
  · rw [List.map_flatMap]
    simp only [List.map_map]
    rfl
  · rfl

theorem nodup_map_id_registrationsFor
    (hids : (snapshot.descriptors.map Descriptor.id).Nodup) :
    ((snapshot.registrationsFor tree capability).map DynamicRegistration.id).Nodup := by
  rw [map_id_registrationsFor]
  split
  · have hsublist : ((onePerHandler (snapshot.forCapability capability)).map Descriptor.id).Sublist
        (snapshot.descriptors.map Descriptor.id) :=
      ((leads_onePerHandler _).ordered.trans List.filter_sublist).map Descriptor.id
    have hleaders := List.pairwise_map.mp (hsublist.nodup hids)
    refine List.nodup_flatMap.mpr ⟨?_, hleaders.imp ?_⟩
    · intro leader _
      have hmethods :=
        Capability.registrationMethods_nodup capability (Capability.mem_all capability)
      exact hmethods.map fun method other hname => (registrationName_inj hname).2
    · intro leader other hne name hname hother
      obtain ⟨method, -, rfl⟩ := List.mem_map.mp hname
      obtain ⟨second, -, hsame⟩ := List.mem_map.mp hother
      exact hne (registrationName_inj hsame).1.symm
  · exact List.nodup_nil

/-- No two registrations of a snapshot have one name. -/
theorem nodup_map_id_dynamicRegistrations
    (hids : (snapshot.descriptors.map Descriptor.id).Nodup) :
    ((snapshot.dynamicRegistrations tree).map DynamicRegistration.id).Nodup := by
  rw [dynamicRegistrations_eq_flatMap, List.map_flatMap]
  refine List.nodup_flatMap.mpr ⟨fun capability _ => nodup_map_id_registrationsFor hids, ?_⟩
  refine Capability.all_nodup.imp_of_mem ?_
  intro capability other hcapability hother hne name hname hsecond
  obtain ⟨made, hmade, rfl⟩ := List.mem_map.mp hname
  obtain ⟨second, hregistered, hsame⟩ := List.mem_map.mp hsecond
  obtain ⟨descriptor, hmakes⟩ := exists_makes hmade
  obtain ⟨owner, hmakesSecond⟩ := exists_makes hregistered
  rw [hmakes.named, hmakesSecond.named] at hsame
  -- The method of a name belongs to one capability.
  have hmethod : made.method ∈ other.registrationMethods :=
    (registrationName_inj hsame).2 ▸ hmakesSecond.method
  exact hne (Capability.eq_of_mem_registrationMethods capability hcapability other hother
    made.method hmakes.method hmethod)

/-- Registrations carry names that tell them apart from each other and from everything that
the given descriptors can be registered as. -/
structure NamesApart (snapshot : Snapshot) (tree : ClientTree) (created : List Descriptor) :
    Prop where
  distinct : ((snapshot.dynamicRegistrations tree).map DynamicRegistration.id).Nodup
  determined : ∀ made ∈ snapshot.dynamicRegistrations tree, ∃ capability descriptor,
    snapshot.Makes tree capability descriptor made ∧ descriptor ∈ created ∧
      ∀ other ∈ created, ∀ method, registrationName other.id method = made.id →
        other = descriptor ∧ method = made.method

theorem namesApart
    {created : List Descriptor} (hnumbers : (created.map Descriptor.id).Nodup)
    (hids : (snapshot.descriptors.map Descriptor.id).Nodup)
    (hcreated : snapshot.descriptors ⊆ created) :
    snapshot.NamesApart tree created := by
  refine ⟨nodup_map_id_dynamicRegistrations hids, ?_⟩
  intro made hmade
  rw [dynamicRegistrations_eq_flatMap] at hmade
  obtain ⟨capability, -, hmade⟩ := List.mem_flatMap.mp hmade
  obtain ⟨descriptor, hmakes⟩ := exists_makes hmade
  have hdescriptor := hcreated hmakes.listed
  refine ⟨capability, descriptor, hmakes, hdescriptor, ?_⟩
  intro other hother method hname
  rw [hmakes.named] at hname
  obtain ⟨hid, hmethod⟩ := registrationName_inj hname
  exact ⟨List.inj_on_of_nodup_map hnumbers hother hdescriptor hid, hmethod⟩

end Snapshot

/-- At every point of a run, the names of the registrations for a client are pairwise
distinct, and each stands for one method of one descriptor: of the descriptors that the run
creates, before or afterwards, no other has the name.  Descriptors of a run have no name in
common, and none with the descriptors of other registries of the process. -/
theorem registrations_named_apart
    (resolver : Resolver) (firstId : Nat) (earlier later : List Operation) (tree : ClientTree) :
    let desk := Desk.opened resolver firstId
    let created := Operation.created desk (earlier ++ later)
    (Operation.performAll desk earlier).registry.snapshot.NamesApart tree created ∧
      (created.Pairwise fun first second => ∀ method other,
        registrationName first.id method ≠ registrationName second.id other) ∧
      ∀ before count after, earlier ++ later = before ++ .elsewhere count :: after →
        ∀ taken, (Operation.performAll desk before).registry.nextId ≤ taken →
          taken < (Operation.performAll desk before).registry.nextId + count →
            ∀ descriptor ∈ created, ∀ method other,
              registrationName descriptor.id method ≠ registrationName taken other := by
  intro desk created
  have horderly : desk.Orderly := Desk.opened_orderly resolver firstId
  have hincreasing : (created.map Descriptor.id).Pairwise (· < ·) :=
    Operation.created_increasing horderly _
  have hids : ((Operation.performAll desk earlier).registry.snapshot.descriptors.map
      Descriptor.id).Nodup :=
    (Operation.performAll_orderly horderly earlier).increasing.imp Nat.ne_of_lt
  have hcreated : (Operation.performAll desk earlier).registry.snapshot.descriptors ⊆ created := by
    intro descriptor hlisted
    have hmem := Operation.mem_created_of_listed hlisted
    change descriptor ∈ Operation.created desk (earlier ++ later)
    rw [Operation.created_append]
    exact List.mem_append_left _ hmem
  refine ⟨Snapshot.namesApart (hincreasing.imp Nat.ne_of_lt) hids hcreated, ?_, ?_⟩
  · refine (List.pairwise_map.mp hincreasing).imp ?_
    intro first second hlt method other hname
    exact Nat.ne_of_lt hlt (registrationName_inj hname).1
  · intro before count after hrun taken hlow hhigh descriptor hmem method other hname
    have hdescriptor : descriptor ∈
        Operation.created desk (before ++ .elsewhere count :: after) := hrun ▸ hmem
    exact Operation.id_ne_of_elsewhere horderly before count after hlow hhigh hdescriptor
      (registrationName_inj hname).1

/-- A handler of completion is registered, disposed and registered again, after another
registry of the process took two numbers. -/
def completerAgain : List Operation :=
  [.add [completer] (some "completion"), .dispose "completion", .elsewhere 2,
    .add [completer] (some "completion")]

theorem completerAgain_named :
    let desk := Desk.opened Resolver.none 1
    let first := (Operation.performAll desk (completerAgain.take 1)).registry.snapshot
    let last := (Operation.performAll desk completerAgain).registry.snapshot
    let created := Operation.created desk completerAgain
    (first.dynamicRegistrations dynamicCompletionClient).map DynamicRegistration.id =
        ["1:textDocument/completion"] ∧
      (last.dynamicRegistrations dynamicCompletionClient).map DynamicRegistration.id =
        ["5:textDocument/completion"] ∧
      first.NamesApart dynamicCompletionClient created ∧
      last.NamesApart dynamicCompletionClient created ∧
      ∀ descriptor ∈ created, ∀ method other,
        registrationName descriptor.id method ≠ registrationName 3 other := by
  intro desk first last created
  obtain ⟨hfirst, -, helsewhere⟩ := registrations_named_apart Resolver.none 1
    (completerAgain.take 1) (completerAgain.drop 1) dynamicCompletionClient
  obtain ⟨hlast, -, -⟩ := registrations_named_apart Resolver.none 1 completerAgain []
    dynamicCompletionClient
  have htaken := helsewhere (completerAgain.take 2) 2 (completerAgain.drop 3) rfl 3
    (by decide +kernel) (by decide +kernel)
  exact ⟨by decide +kernel, by decide +kernel, hfirst, hlast, htaken⟩

end Switchboard
