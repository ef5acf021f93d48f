import Mathlib.Data.List.Basic
import Mathlib.Tactic.Common
import Switchboard.Proofs.Registry.Joining
import Switchboard.Registry.Snapshot

/-!
# Why an add is refused

An add constructs its handlers, describes their bindings and looks for clashes, each in
order, and the first fault is the one it reports.  A handler that cannot be constructed
counts before a malformed selector, and that before a clash.  So the outcome of an add can
be told from the listed bindings and from those that it asks for.
-/

namespace Switchboard

/-! ## Operations in turn -/

/-- Does something with every element of a list, numbered from a first number on, up to the
first error. -/
def inTurn {α β ε : Type} (act : Nat → α → Except ε β) : Nat → List α → Except ε (List β)
  | _, [] => .ok []
  | number, x :: rest =>
      match act number x with
      | .error error => .error error
      | .ok made => (inTurn act (number + 1) rest).map (made :: ·)

section InTurn

variable {α β ε : Type} {act : Nat → α → Except ε β} {number : Nat} {error : ε}

theorem inTurn_cons_eq_error_iff {x : α} {rest : List α} :
    inTurn act number (x :: rest) = .error error ↔
      act number x = .error error ∨
        (∃ made, act number x = .ok made) ∧ inTurn act (number + 1) rest = .error error := by
  rw [inTurn]
  rcases act number x with cause | made
  · simp
  · rcases inTurn act (number + 1) rest with cause | mades <;> simp [Except.map]

theorem exists_inTurn_cons_iff {x : α} {rest : List α} :
    (∃ mades, inTurn act number (x :: rest) = .ok mades) ↔
      (∃ made, act number x = .ok made) ∧
        ∃ mades, inTurn act (number + 1) rest = .ok mades := by
  rw [inTurn]
  rcases act number x with cause | made
  · simp
  · rcases inTurn act (number + 1) rest with cause | mades <;> simp [Except.map]

/-- The error is that of the first element which fails. -/
theorem inTurn_eq_error_iff {xs : List α} :
    inTurn act number xs = .error error ↔
      ∃ earlier x later, xs = earlier ++ x :: later ∧
        (∃ mades, inTurn act number earlier = .ok mades) ∧
        act (number + earlier.length) x = .error error := by
  induction xs generalizing number with
  | nil => simp [inTurn]
  | cons x rest ih =>
      rw [inTurn_cons_eq_error_iff, ih]
      constructor
      · rintro (hfirst | ⟨hfirst, earlier, y, later, rfl, hearlier, hy⟩)
        · exact ⟨[], x, rest, rfl, ⟨[], rfl⟩, hfirst⟩
        · refine ⟨x :: earlier, y, later, rfl, exists_inTurn_cons_iff.mpr ⟨hfirst, hearlier⟩, ?_⟩
          rwa [List.length_cons, Nat.add_comm earlier.length, ← Nat.add_assoc]
      · rintro ⟨_ | ⟨first, earlier⟩, y, later, heq, hearlier, hy⟩
        · cases heq
          exact Or.inl hy
        · cases heq
          obtain ⟨hfirst, hearlier⟩ := exists_inTurn_cons_iff.mp hearlier
          refine Or.inr ⟨hfirst, earlier, y, later, rfl, hearlier, ?_⟩
          rwa [List.length_cons, Nat.add_comm earlier.length, ← Nat.add_assoc] at hy

theorem inTurn_eq_ok_iff {xs : List α} {mades : List β} :
    inTurn act number xs = .ok mades ↔
      List.Forall₂ (fun numbered made => act numbered.2 numbered.1 = .ok made)
        (xs.zipIdx number) mades := by
  induction xs generalizing number mades with
  | nil => simp [inTurn, eq_comm]
  | cons x rest ih =>
      rw [inTurn, List.zipIdx_cons, List.forall₂_cons_left_iff]
      simp only [← ih]
      rcases act number x with cause | made
      · simp
      · rcases inTurn act (number + 1) rest with cause | others <;> simp [Except.map, eq_comm]

/-- Where the numbers do not decide about success, all succeed together or one fails. -/
theorem exists_inTurn_iff {P : α → Prop}
    (h : ∀ number x, (∃ made, act number x = .ok made) ↔ P x) {xs : List α} :
    (∃ mades, inTurn act number xs = .ok mades) ↔ ∀ x ∈ xs, P x := by
  induction xs generalizing number with
  | nil => simp [inTurn]
  | cons x rest ih => rw [exists_inTurn_cons_iff, h, ih, List.forall_mem_cons]

end InTurn

/-! ## Malformed selectors -/

/-- The pattern of a filter is malformed, and in what way. -/
def FilterSpec.Malformed (spec : FilterSpec) (error : SelectorError) : Prop :=
  spec.pattern = some error.pattern ∧ Glob.ofSource error.pattern = .error error.fault

theorem DocumentFilter.ofSpec_eq_error_iff {spec : FilterSpec} {error : SelectorError} :
    ofSpec spec = .error error ↔ spec.Malformed error := by
  obtain ⟨pattern, fault⟩ := error
  unfold ofSpec FilterSpec.Malformed
  rcases spec.pattern with _ | source
  · simp
  · rcases hglob : Glob.ofSource source with cause | glob
    · simp only [hglob, Except.error.injEq, SelectorError.mk.injEq, Option.some.injEq]
      constructor
      · rintro ⟨rfl, rfl⟩
        exact ⟨rfl, hglob⟩
      · rintro ⟨rfl, hfault⟩
        exact ⟨rfl, Except.error.inj (hglob.symm.trans hfault)⟩
    · simp only [hglob, reduceCtorEq, Option.some.injEq, false_iff]
      rintro ⟨rfl, hfault⟩
      exact absurd (hglob.symm.trans hfault) (by simp)

theorem DocumentSelector.ofSpecs_eq_inTurn (specs : List FilterSpec) (number : Nat) :
    ofSpecs specs = inTurn (fun _ => DocumentFilter.ofSpec) number specs := by
  induction specs generalizing number with
  | nil => rfl
  | cons spec rest ih =>
      rw [ofSpecs, inTurn, ih (number + 1)]
      rcases DocumentFilter.ofSpec spec with error | filter <;> rfl

/-- The first malformed pattern of a selector is its error. -/
theorem DocumentSelector.ofSpecs_eq_error_iff {specs : List FilterSpec} {error : SelectorError} :
    ofSpecs specs = .error error ↔
      ∃ earlier spec later, specs = earlier ++ spec :: later ∧
        (∃ selector, ofSpecs earlier = .ok selector) ∧ spec.Malformed error := by
  rw [ofSpecs_eq_inTurn specs 0, inTurn_eq_error_iff]
  simp only [← ofSpecs_eq_inTurn, DocumentFilter.ofSpec_eq_error_iff]

/-- The selector of a binding applies and is malformed, and what its first fault is. -/
def Binding.Malformed (binding : Binding) (error : SelectorError) : Prop :=
  binding.isScoped = true ∧ ∃ earlier spec later,
    binding.handler.selector = some (earlier ++ spec :: later) ∧
      (∃ selector, DocumentSelector.ofSpecs earlier = .ok selector) ∧ spec.Malformed error

theorem Descriptor.ofBinding_eq_error_iff
    {id : Nat} {binding : Binding} {error : SelectorError} :
    ofBinding id binding = .error error ↔ binding.Malformed error := by
  unfold ofBinding Binding.Malformed
  rcases binding.isScoped with _ | _
  · simp
  · rcases binding.handler.selector with _ | specs
    · simp
    · have hmap : ∀ result : Except SelectorError DocumentSelector,
          (result.map fun selector => (⟨id, binding.method, binding.capability, binding.handler,
            some selector⟩ : Descriptor)) = .error error ↔ result = .error error := by
        intro result
        rcases result with cause | selector <;> simp [Except.map]
      simp only [hmap, DocumentSelector.ofSpecs_eq_error_iff, Option.some.injEq, true_and]

theorem Binding.Malformed.not_compiles
    {binding : Binding} {cause : SelectorError} (h : binding.Malformed cause) :
    ¬binding.Compiles := by
  rw [← Binding.exists_ofBinding_iff 0, Descriptor.ofBinding_eq_error_iff.mpr h]
  simp

namespace Registry

theorem describe_eq_inTurn (next : Nat) (bindings : List Binding) :
    (describe next bindings).1 = inTurn Descriptor.ofBinding next bindings := by
  induction bindings generalizing next with
  | nil => rfl
  | cons binding rest ih =>
      rw [describe, inTurn, ← ih]
      rcases Descriptor.ofBinding next binding with error | descriptor <;> rfl

/-- The first binding with a malformed selector is why describing fails. -/
theorem describe_eq_error_iff {next : Nat} {bindings : List Binding} {error : SelectorError} :
    (describe next bindings).1 = .error error ↔
      ∃ earlier binding later, bindings = earlier ++ binding :: later ∧
        (∀ other ∈ earlier, other.Compiles) ∧ binding.Malformed error := by
  rw [describe_eq_inTurn, inTurn_eq_error_iff]
  simp only [exists_inTurn_iff Binding.exists_ofBinding_iff, Descriptor.ofBinding_eq_error_iff]

/-! ## Clashes -/

variable {registered descriptors : List Descriptor}

/-- The first sole owner of a method is in the way of another one. -/
theorem owner?_eq_some_iff {descriptor owner : Descriptor} :
    owner? registered descriptor = some owner ↔
      ∃ before after, registered = before ++ owner :: after ∧
        (∀ listed ∈ before, listed.Compatible descriptor) ∧ ¬owner.Compatible descriptor := by
  rw [owner?]
  split
  next hsingle =>
    have htest : ∀ listed : Descriptor,
        (listed.method == descriptor.method && listed.singleOwner) = true ↔
          ¬listed.Compatible descriptor := by
      intro listed
      simp [Descriptor.Compatible, hsingle, and_comm]
    have hpasses : ∀ listed : Descriptor,
        (!(listed.method == descriptor.method && listed.singleOwner)) = true ↔
          listed.Compatible descriptor := by
      intro listed
      rw [Bool.not_eq_true', ← Bool.not_eq_true, htest, not_not]
    rw [List.find?_eq_some_iff_append]
    simp only [htest, hpasses]
    constructor
    · rintro ⟨howner, before, after, hsplit, hbefore⟩
      exact ⟨before, after, hsplit, hbefore, howner⟩
    · rintro ⟨before, after, hsplit, hbefore, howner⟩
      exact ⟨howner, before, after, hsplit, hbefore⟩
  next hshared => simp [Descriptor.Compatible, hshared]

theorem firstClash_cons_eq_some_iff {descriptor : Descriptor} {clash : Descriptor × Descriptor} :
    firstClash registered (descriptor :: descriptors) = some clash ↔
      (∃ owner, owner? registered descriptor = some owner ∧ (descriptor, owner) = clash) ∨
        owner? registered descriptor = none ∧
          firstClash (registered ++ [descriptor]) descriptors = some clash := by
  rw [firstClash]
  rcases owner? registered descriptor with _ | owner <;> simp

/-- The first descriptor that clashes is found together with the owner in its way. -/
theorem firstClash_eq_some_iff {descriptor owner : Descriptor} :
    firstClash registered descriptors = some (descriptor, owner) ↔
      ∃ earlier later, descriptors = earlier ++ descriptor :: later ∧
        firstClash registered earlier = none ∧
        owner? (registered ++ earlier) descriptor = some owner := by
  induction descriptors generalizing registered with
  | nil => simp [firstClash]
  | cons first rest ih =>
      rw [firstClash_cons_eq_some_iff, ih]
      constructor
      · rintro (⟨_, howner, heq⟩ | ⟨hfirst, earlier, later, rfl, hearlier, howner⟩)
        · cases heq
          exact ⟨[], rest, rfl, rfl, by simpa using howner⟩
        · refine ⟨first :: earlier, later, rfl,
            firstClash_cons_eq_none_iff.mpr ⟨hfirst, hearlier⟩, by simpa using howner⟩
      · rintro ⟨_ | ⟨_, earlier⟩, later, heq, hearlier, howner⟩
        · cases heq
          exact Or.inl ⟨owner, by simpa using howner, rfl⟩
        · cases heq
          obtain ⟨hfirst, hearlier⟩ := firstClash_cons_eq_none_iff.mp hearlier
          exact Or.inr ⟨hfirst, earlier, later, rfl, hearlier, by simpa using howner⟩

/-! ## The outcome of an insertion -/

/-- No method of the joining bindings has a sole owner among the listed ones, and none of them
gets two. -/
structure Undisputed (listed joining : List Binding) : Prop where
  apart : joining.Pairwise Binding.Compatible
  free : ∀ owner ∈ listed, ∀ binding ∈ joining, owner.Compatible binding

/-- Why bindings may not join the listed ones. -/
inductive Refuses (listed joining : List Binding) : RegistryError → Prop
  /-- The first binding with a malformed selector counts, and the first fault in it. -/
  | malformed {earlier later : List Binding} {binding : Binding} {cause : SelectorError}
      (split : joining = earlier ++ binding :: later)
      (compile : ∀ other ∈ earlier, other.Compiles)
      (fault : binding.Malformed cause) :
      Refuses listed joining (.selector cause)
  /-- The first binding that clashes counts.  Its owner comes first among the sole owners of
  its method, those listed and then those that join earlier. -/
  | clash {earlier later before after : List Binding} {binding owner : Binding}
      (compile : ∀ other ∈ joining, other.Compiles)
      (split : joining = earlier ++ binding :: later)
      (undisputed : Undisputed listed earlier)
      (owners : listed ++ earlier = before ++ owner :: after)
      (first : ∀ other ∈ before, other.Compatible binding)
      (owned : ¬owner.Compatible binding) :
      Refuses listed joining (.conflict binding.method binding.capability owner.handler.name)

variable {registry : Registry} {joining : List Binding} {error : RegistryError}

theorem firstClash_eq_none_iff_undisputed :
    firstClash registered descriptors = none ↔
      Undisputed (registered.map Descriptor.binding) (descriptors.map Descriptor.binding) := by
  rw [firstClash_eq_none_iff, Descriptor.pairwise_compatible_iff]
  constructor
  · rintro ⟨hapart, hfree⟩
    refine ⟨hapart, List.forall_mem_map.mpr fun listed hlisted => ?_⟩
    exact List.forall_mem_map.mpr fun descriptor hmem => hfree listed hlisted descriptor hmem
  · rintro ⟨hapart, hfree⟩
    refine ⟨hapart, fun listed hlisted descriptor hmem => ?_⟩
    exact hfree listed.binding (List.mem_map_of_mem hlisted)
      descriptor.binding (List.mem_map_of_mem hmem)

/-- Bindings of which one has a malformed selector are refused for the first of these. -/
theorem refuses_iff_of_describe
    {listed : List Binding} {next : Nat} {cause : SelectorError}
    (h : (describe next joining).1 = .error cause) :
    Refuses listed joining error ↔ error = .selector cause := by
  obtain ⟨earlier, binding, later, hsplit, hearlier, hfault⟩ := describe_eq_error_iff.mp h
  constructor
  · rintro (⟨hother, hcompile, hotherFault⟩ | ⟨hcompile, -, -, -, -, -⟩)
    · have hsame : (describe next joining).1 = .error _ :=
        describe_eq_error_iff.mpr ⟨_, _, _, hother, hcompile, hotherFault⟩
      rw [Except.error.inj (h.symm.trans hsame)]
    · have hmem : binding ∈ joining := hsplit ▸ List.mem_append_right _ List.mem_cons_self
      exact absurd (hcompile binding hmem) hfault.not_compiles
  · rintro rfl
    exact Refuses.malformed hsplit hearlier hfault

/-- Bindings whose selectors compile are refused for the first clash among their descriptors. -/
theorem refuses_iff_of_compiles
    (hcompile : ∀ binding ∈ descriptors.map Descriptor.binding, binding.Compiles) :
    Refuses (registered.map Descriptor.binding) (descriptors.map Descriptor.binding) error ↔
      ∃ descriptor owner, firstClash registered descriptors = some (descriptor, owner) ∧
        error = .conflict descriptor.method descriptor.capability owner.handler.name := by
  constructor
  · rintro (⟨hsplit, -, hfault⟩ | ⟨-, hsplit, hundisputed, howners, hfirst, howned⟩)
    · have hmem := hsplit ▸ List.mem_append_right _ List.mem_cons_self
      exact absurd (hcompile _ hmem) hfault.not_compiles
    · obtain ⟨earlier, _, rfl, rfl, hlater⟩ := List.map_eq_append_iff.mp hsplit
      obtain ⟨descriptor, later, rfl, rfl, rfl⟩ := List.map_eq_cons_iff.mp hlater
      rw [← List.map_append] at howners
      obtain ⟨before, _, hlisted, rfl, hafter⟩ := List.map_eq_append_iff.mp howners
      obtain ⟨owner, after, rfl, rfl, rfl⟩ := List.map_eq_cons_iff.mp hafter
      refine ⟨descriptor, owner, firstClash_eq_some_iff.mpr ⟨earlier, later, rfl, ?_, ?_⟩, rfl⟩
      · exact firstClash_eq_none_iff_undisputed.mpr hundisputed
      · exact owner?_eq_some_iff.mpr ⟨before, after, hlisted,
          fun listed hmem => hfirst listed.binding (List.mem_map_of_mem hmem), howned⟩
  · rintro ⟨descriptor, owner, hclash, rfl⟩
    obtain ⟨earlier, later, rfl, hearlier, howner⟩ := firstClash_eq_some_iff.mp hclash
    obtain ⟨before, after, howners, hfirst, howned⟩ := owner?_eq_some_iff.mp howner
    have hbindings : registered.map Descriptor.binding ++ earlier.map Descriptor.binding =
        before.map Descriptor.binding ++ owner.binding :: after.map Descriptor.binding := by
      rw [← List.map_append, howners, List.map_append, List.map_cons]
    have hothers : ∀ other ∈ before.map Descriptor.binding, other.Compatible descriptor.binding :=
      List.forall_mem_map.mpr fun listed hmem => hfirst listed hmem
    exact Refuses.clash hcompile (by rw [List.map_append, List.map_cons])
      (firstClash_eq_none_iff_undisputed.mp hearlier) hbindings hothers howned

theorem insert_eq_error_iff :
    (registry.insert joining).1 = .error error ↔ Refuses registry.bindings joining error := by
  rcases describe_cases registry.nextId joining with
    ⟨descriptors, hdescribes, hdescribe⟩ | ⟨cause, unused, -, hdescribe⟩
  · rw [← hdescribes.length_eq] at hdescribe
    have hcompile := hdescribes.compiles
    rw [← hdescribes.bindings] at hcompile ⊢
    rw [bindings, refuses_iff_of_compiles hcompile, hdescribes.bindings]
    rcases hclash : firstClash registry.descriptors descriptors with _ | ⟨descriptor, owner⟩
    · simp [insert_of_describe hdescribe hclash]
    · simp [insert, hdescribe, hclash, eq_comm]
  · rw [refuses_iff_of_describe (congrArg Prod.fst hdescribe)]
    simp [insert, hdescribe, eq_comm]

theorem insert_eq_ok_iff :
    (∃ ids, (registry.insert joining).1 = .ok ids) ↔
      (∀ binding ∈ joining, binding.Compiles) ∧ Undisputed registry.bindings joining := by
  constructor
  · rintro ⟨ids, h⟩
    rcases registry.insert_cases joining with
      ⟨cause, unused, -, hfailed⟩ | ⟨descriptors, hdescribes, hclash, -⟩
    · rw [hfailed] at h
      cases h
    · rw [firstClash_eq_none_iff_undisputed, hdescribes.bindings] at hclash
      exact ⟨hdescribes.compiles, hclash⟩
  · rintro ⟨hcompile, hundisputed⟩
    obtain ⟨descriptors, hdescribes, hdescribe⟩ := exists_describes hcompile registry.nextId
    rw [bindings, ← hdescribes.bindings, ← firstClash_eq_none_iff_undisputed] at hundisputed
    exact ⟨_, congrArg Prod.fst (insert_of_describe hdescribe hundisputed)⟩

/-- An insertion of bindings either appends one descriptor for each of them, in order, or leaves
what is listed as it was, and the bindings decide which. -/
structure AllOrNothing (registry : Registry) (joining : List Binding)
    (result : Except RegistryError (List Nat) × Registry) : Prop where
  succeeds : (∃ ids, result.1 = .ok ids) ↔
    (∀ binding ∈ joining, binding.Compiles) ∧ Undisputed registry.bindings joining
  appends : ∀ ids, result.1 = .ok ids → ∃ descriptors,
    Describes registry.nextId joining descriptors ∧ descriptors.map Descriptor.id = ids ∧
      result.2.descriptors = registry.descriptors ++ descriptors
  refuses : ∀ error, result.1 = .error error ↔ Refuses registry.bindings joining error
  unchanged : ∀ error, result.1 = .error error → result.2.snapshot = registry.snapshot

theorem insert_allOrNothing (registry : Registry) (joining : List Binding) :
    registry.AllOrNothing joining (registry.insert joining) := by
  refine ⟨insert_eq_ok_iff, ?_, fun error => insert_eq_error_iff, ?_⟩
  · intro ids h
    rcases registry.insert_cases joining with
      ⟨cause, unused, -, hfailed⟩ | ⟨descriptors, hdescribes, -, hinserted⟩
    · rw [hfailed] at h
      cases h
    · rw [hinserted] at h ⊢
      cases h
      exact ⟨descriptors, hdescribes, rfl, rfl⟩
  · intro error h
    rcases registry.insert_cases joining with
      ⟨cause, unused, -, hfailed⟩ | ⟨descriptors, -, -, hinserted⟩
    · rw [hfailed]
      rfl
    · rw [hinserted] at h
      cases h

/-! ## Handlers constructed from types -/

/-- What comes of constructing handlers of several types: all of them, or the error of the
first type that fails.  Every attempt takes a serial number. -/
inductive Constructs (registry : Registry) (types : List HandlerType) :
    Except ResolutionError (List Handler) → Prop
  | all {handlers : List Handler}
      (made : List.Forall₂ (fun numbered handler =>
        registry.resolver numbered.1 numbered.2 = .ok handler)
        (types.zipIdx registry.nextSerial) handlers) :
      Constructs registry types (.ok handlers)
  | failing {earlier later : List HandlerType} {type : HandlerType} {handlers : List Handler}
      {cause : ResolutionError}
      (split : types = earlier ++ type :: later)
      (made : List.Forall₂ (fun numbered handler =>
        registry.resolver numbered.1 numbered.2 = .ok handler)
        (earlier.zipIdx registry.nextSerial) handlers)
      (failed : registry.resolver type (registry.nextSerial + earlier.length) = .error cause) :
      Constructs registry types (.error cause)

theorem resolveAll_eq_inTurn (registry : Registry) (types : List HandlerType) :
    (registry.resolveAll types).1 =
      inTurn (fun serial type => registry.resolver type serial) registry.nextSerial types := by
  induction types generalizing registry with
  | nil => rfl
  | cons type rest ih =>
      have hrest := ih { registry with nextSerial := registry.nextSerial + 1 }
      rw [resolveAll, resolve, inTurn, ← hrest]
      rcases registry.resolver type registry.nextSerial with cause | handler <;> rfl

theorem constructs_iff
    {types : List HandlerType} {made : Except ResolutionError (List Handler)} :
    registry.Constructs types made ↔ (registry.resolveAll types).1 = made := by
  rw [resolveAll_eq_inTurn]
  constructor
  · rintro (hmade | ⟨hsplit, hmade, hfailed⟩)
    · exact inTurn_eq_ok_iff.mpr hmade
    · exact inTurn_eq_error_iff.mpr
        ⟨_, _, _, hsplit, ⟨_, inTurn_eq_ok_iff.mpr hmade⟩, hfailed⟩
  · intro h
    rcases made with cause | handlers
    · obtain ⟨earlier, type, later, hsplit, ⟨handlers, hmade⟩, hfailed⟩ := inTurn_eq_error_iff.mp h
      exact Constructs.failing hsplit (inTurn_eq_ok_iff.mp hmade) hfailed
    · exact Constructs.all (inTurn_eq_ok_iff.mp h)

/-- An add that has handlers constructed first is refused if that fails, and inserts the
bindings otherwise. -/
def Follows (registry : Registry) (made : Except ResolutionError (List Binding))
    (result : Except RegistryError (List Nat) × Registry) : Prop :=
  match made with
  | .error cause => result.1 = .error (.resolution cause) ∧ result.2.snapshot = registry.snapshot
  | .ok joining => registry.AllOrNothing joining result

/-- Every way of adding is all or nothing. -/
structure AddsAllOrNothing (registry : Registry) : Prop where
  add : ∀ handlers, registry.AllOrNothing (bindingsOf handlers) (registry.add handlers)
  constructs : ∀ types, ∃ made, registry.Constructs types made
  addTypes : ∀ types made, registry.Constructs types made →
    registry.Follows (made.map bindingsOf) (registry.addTypes types)
  unresolved : ∀ types cause,
    (registry.addTypes types).1 = .error (.resolution cause) ↔
      registry.Constructs types (.error cause)
  addMethod : ∀ method handler,
    registry.AllOrNothing [Binding.toMethod method handler] (registry.addMethod method handler)
  addMethodWith : ∀ method made,
    registry.Follows (made.map fun handler => [Binding.toMethod method handler])
      (registry.addMethodWith method made)
  addMethodType : ∀ method type,
    registry.Follows ((registry.resolver type registry.nextSerial).map fun handler =>
      [Binding.toMethod method handler]) (registry.addMethodType method type)

theorem AllOrNothing.of_nextSerial
    {nextSerial : Nat} {result : Except RegistryError (List Nat) × Registry}
    (h : { registry with nextSerial := nextSerial }.AllOrNothing joining result) :
    registry.AllOrNothing joining result :=
  ⟨h.succeeds, h.appends, h.refuses, h.unchanged⟩

theorem AllOrNothing.ne_resolution
    {result : Except RegistryError (List Nat) × Registry}
    (h : registry.AllOrNothing joining result) (cause : ResolutionError) :
    result.1 ≠ .error (.resolution cause) := by
  intro hresult
  cases (h.refuses _).mp hresult

theorem addMethodWith_follows
    (registry : Registry) (method : String) (made : Except ResolutionError Handler) :
    registry.Follows (made.map fun handler => [Binding.toMethod method handler])
      (registry.addMethodWith method made) := by
  rcases made with cause | handler
  · exact ⟨rfl, rfl⟩
  · exact insert_allOrNothing registry [Binding.toMethod method handler]

theorem addTypes_follows (registry : Registry) (types : List HandlerType) :
    registry.Follows ((registry.resolveAll types).1.map bindingsOf)
      (registry.addTypes types) := by
  obtain ⟨nextSerial, hregistry⟩ := Operation.exists_resolveAll_eq registry types
  rw [addTypes]
  rcases hmade : registry.resolveAll types with ⟨cause | handlers, after⟩
  · rw [hmade] at hregistry
    exact ⟨rfl, by rw [hregistry]; rfl⟩
  · rw [hmade] at hregistry
    cases hregistry
    exact (insert_allOrNothing { registry with nextSerial := nextSerial }
      (bindingsOf handlers)).of_nextSerial

theorem addTypes_eq_resolution_iff
    {types : List HandlerType} {cause : ResolutionError} :
    (registry.addTypes types).1 = .error (.resolution cause) ↔
      (registry.resolveAll types).1 = .error cause := by
  have hfollows := registry.addTypes_follows types
  rcases hmade : (registry.resolveAll types).1 with other | handlers
  · rw [hmade] at hfollows
    rw [hfollows.1]
    simp
  · rw [hmade] at hfollows
    simpa using hfollows.ne_resolution cause

theorem addMethodType_follows (registry : Registry) (method : String) (type : HandlerType) :
    registry.Follows ((registry.resolver type registry.nextSerial).map fun handler =>
      [Binding.toMethod method handler]) (registry.addMethodType method type) := by
  rw [addMethodType, resolve]
  rcases registry.resolver type registry.nextSerial with cause | handler
  · exact ⟨rfl, rfl⟩
  · exact (insert_allOrNothing { registry with nextSerial := registry.nextSerial + 1 }
      [Binding.toMethod method handler]).of_nextSerial

/-- Whatever a registry lists, an add succeeds exactly when the selectors of its bindings compile
and no binding clashes; it then appends its descriptors in order, and otherwise it changes
nothing and reports the first fault. -/
theorem adds_all_or_nothing (registry : Registry) : registry.AddsAllOrNothing := by
  refine ⟨fun handlers => registry.insert_allOrNothing (bindingsOf handlers),
    fun types => ⟨_, constructs_iff.mpr rfl⟩, ?_, ?_,
    fun method handler => registry.insert_allOrNothing [Binding.toMethod method handler],
    registry.addMethodWith_follows, registry.addMethodType_follows⟩
  · intro types made hmade
    rw [← constructs_iff.mp hmade]
    exact registry.addTypes_follows types
  · intro types cause
    rw [addTypes_eq_resolution_iff, constructs_iff]

end Registry

end Switchboard
