import Mathlib.Data.List.Basic
import Mathlib.Tactic.Common
import Switchboard.Proofs.Registry.Replay

/-!
# Generations

The generation of a registry stamps what it lists.  Inserting, removing and
clearing each move it by one if they change the list, and leave it alone if they
do not, so along a run the generations never fall and a generation stands for one
list only.

An add that takes a name away from another registration is two changes in one:
the add, and the drop of the registration that was held there.
-/

namespace Switchboard

/-! ## Single changes -/

namespace Registry

/-- The generation moves by one if the list changes and stays if it does not. -/
def Stamps (before after : Registry) : Prop :=
  after.generation =
    before.generation + if after.descriptors = before.descriptors then 0 else 1

theorem stamps_of_snapshot_eq
    {before after : Registry} (h : after.snapshot = before.snapshot) :
    before.Stamps after := by
  obtain ⟨hgeneration, hdescriptors⟩ := Snapshot.mk.inj h
  rw [Stamps, hgeneration, if_pos hdescriptors, Nat.add_zero]

theorem stamps_appended (registry : Registry) (descriptors : List Descriptor) :
    registry.Stamps (registry.appended descriptors) := by
  cases descriptors with
  | nil => simp [Stamps, appended]
  | cons descriptor rest => simp [Stamps, appended]

theorem stamps_remove (registry : Registry) (ids : List Nat) :
    registry.Stamps (registry.remove ids) := by
  rw [Stamps, remove_descriptors]
  by_cases hsame : (registry.descriptors.filter fun descriptor => descriptor.id ∉ ids) =
      registry.descriptors
  · rw [if_pos hsame, remove, hsame]
    simp
  · have hshorter : (registry.descriptors.filter fun descriptor => descriptor.id ∉ ids).length <
        registry.descriptors.length := by
      refine lt_of_le_of_ne (List.length_filter_le _ _) fun hlength => hsame ?_
      exact List.filter_eq_self.mpr (List.length_filter_eq_length_iff.mp hlength)
    rw [if_neg hsame, remove, if_pos hshorter]

theorem stamps_clear (registry : Registry) : registry.Stamps registry.clear := by
  rw [Stamps, clear_descriptors, clear]
  by_cases hempty : registry.descriptors = []
  · simp [hempty]
  · have hne : [] ≠ registry.descriptors := fun heq => hempty heq.symm
    rw [if_neg (by simpa using hempty), if_neg hne]

end Registry

/-! ## Snapshots in order -/

/-- A later snapshot has no smaller generation, and lists the same if it has the
same one. -/
structure Snapshot.Precedes (earlier later : Snapshot) : Prop where
  generation_le : earlier.generation ≤ later.generation
  descriptors_eq :
    earlier.generation = later.generation → earlier.descriptors = later.descriptors

namespace Snapshot.Precedes

theorem refl (snapshot : Snapshot) : snapshot.Precedes snapshot :=
  ⟨le_rfl, fun _ => rfl⟩

theorem trans
    {first second third : Snapshot}
    (hfirst : first.Precedes second) (hsecond : second.Precedes third) :
    first.Precedes third := by
  have hle := hfirst.generation_le
  have hle' := hsecond.generation_le
  refine ⟨hle.trans hle', ?_⟩
  intro heq
  exact (hfirst.descriptors_eq (by omega)).trans (hsecond.descriptors_eq (by omega))

end Snapshot.Precedes

theorem Registry.Stamps.precedes
    {before after : Registry} (h : before.Stamps after) :
    before.snapshot.Precedes after.snapshot := by
  constructor
  · change before.generation ≤ after.generation
    rw [h]
    exact Nat.le_add_right _ _
  · intro heq
    change before.generation = after.generation at heq
    by_contra hne
    have hchanged : after.descriptors ≠ before.descriptors := fun hsame => hne hsame.symm
    rw [h, if_neg hchanged] at heq
    omega

/-! ## Operations -/

namespace Operation

variable {desk : Desk}

/-- The name that an add takes from a registration that is held under it. -/
def displaced? (desk : Desk) (operation : Operation) : Option String :=
  operation.keep.filter fun name => (Table.find? desk.held name).isSome

/-- The same operation, with the registration of an add detached at once. -/
def detached : Operation → Operation
  | .add handlers _ => .add handlers none
  | .addTypes types _ => .addTypes types none
  | .addMethod method handler _ => .addMethod method handler none
  | .addMethodWith method made _ => .addMethodWith method made none
  | .addMethodType method type _ => .addMethodType method type none
  | operation => operation

theorem displaced?_eq_none_iff
    {operation : Operation} :
    operation.displaced? desk = none ↔
      ∀ name, operation.keep = some name → Table.find? desk.held name = none := by
  simp [displaced?, Option.filter_eq_none_iff]

theorem displaced?_eq_some_iff
    {operation : Operation} {name : String} :
    operation.displaced? desk = some name ↔
      operation.keep = some name ∧ (Table.find? desk.held name).isSome := by
  simp [displaced?, Option.filter_eq_some_iff]

theorem isAdd_of_keep
    {operation : Operation} {name : String} (h : operation.keep = some name) :
    operation.isAdd = true := by
  cases operation <;> first | rfl | cases h

theorem displaced?_detached (desk : Desk) (operation : Operation) :
    operation.detached.displaced? desk = none := by
  cases operation <;> rfl

/-- What an add makes of the registry does not depend on the name for its
registration. -/
theorem exists_settle_of_isAdd
    {operation : Operation} (hadd : operation.isAdd = true) (desk : Desk) :
    ∃ result,
      operation.perform desk = reportAdd (desk.settle operation.keep result) ∧
        operation.detached.perform desk = reportAdd (desk.settle none result) := by
  cases operation with
  | add handlers keep => exact ⟨desk.registry.add handlers, rfl, rfl⟩
  | addTypes types keep => exact ⟨desk.registry.addTypes types, rfl, rfl⟩
  | addMethod method handler keep => exact ⟨desk.registry.addMethod method handler, rfl, rfl⟩
  | addMethodWith method made keep => exact ⟨desk.registry.addMethodWith method made, rfl, rfl⟩
  | addMethodType method type keep => exact ⟨desk.registry.addMethodType method type, rfl, rfl⟩
  | _ => cases hadd

/-- An add that takes a name away leaves the registry as the add and a drop of the
name would. -/
theorem perform_registry_of_displaced?
    (halive : desk.alive = true) {operation : Operation} {name : String}
    (hname : operation.displaced? desk = some name)
    {ids : List Nat} (hadded : (operation.perform desk).1 = .added ids) :
    (operation.perform desk).2.registry =
      (performAll desk [operation.detached, .drop name]).registry := by
  obtain ⟨hkeep, -⟩ := displaced?_eq_some_iff.mp hname
  obtain ⟨⟨outcome, registry⟩, hperform, hdetached⟩ :=
    exists_settle_of_isAdd (isAdd_of_keep hkeep) desk
  rw [hkeep] at hperform
  cases outcome with
  | error error =>
      rw [hperform] at hadded
      cases hadded
  | ok made =>
      obtain ⟨held, hsettle, -, -⟩ := Desk.settle_some halive name made registry
      have hkept : (operation.perform desk).2.registry =
          registry.remove (desk.guarded name) := by
        rw [hperform]
        change (desk.settle (some name) (.ok made, registry)).2.registry = _
        rw [hsettle]
      have hmiddle : (operation.detached.perform desk).2 = { desk with registry := registry } := by
        rw [hdetached]
        rfl
      have halive' : ({ desk with registry := registry } : Desk).alive = true := halive
      rw [performAll_cons, performAll_cons, performAll_nil, hmiddle, perform_drop halive' name,
        hkept]
      rfl

theorem perform_add_of_free
    (halive : desk.alive = true) {operation : Operation} (hadd : operation.isAdd = true)
    (hfree : operation.displaced? desk = none) :
    (∃ error, (operation.perform desk).1 = .refused error) ∨
    ∃ descriptors nextSerial,
      (operation.perform desk).1 = .added (descriptors.map Descriptor.id) ∧
      (operation.perform desk).2.registry =
        Registry.appended { desk.registry with nextSerial := nextSerial } descriptors := by
  rcases perform_add_cases hadd desk with
    ⟨error, nextId, nextSerial, -, hperform⟩ |
    ⟨request, descriptors, nextSerial, -, -, -, hperform⟩
  · exact Or.inl ⟨error, by rw [hperform]⟩
  · refine Or.inr ⟨descriptors, nextSerial, by rw [hperform], ?_⟩
    rw [hperform]
    cases hkeep : operation.keep with
    | none => rfl
    | some name =>
        obtain ⟨held, hsettle, -, -⟩ := Desk.settle_some halive name
          (descriptors.map Descriptor.id)
          (Registry.appended { desk.registry with nextSerial := nextSerial } descriptors)
        have hnone := Desk.guarded_eq_nil_of_find? (displaced?_eq_none_iff.mp hfree name hkeep)
        rw [hnone, Registry.remove_nil] at hsettle
        rw [hsettle]

theorem snapshot_perform_of_refused
    {operation : Operation} {error : RegistryError}
    (h : (operation.perform desk).1 = .refused error) :
    (operation.perform desk).2.registry.snapshot = desk.registry.snapshot := by
  have hreport : (operation.perform desk).1.ofAdd = true := by
    rw [h]
    rfl
  rcases perform_add_cases (isAdd_of_report hreport) desk with
    ⟨cause, nextId, nextSerial, -, hperform⟩ |
    ⟨request, descriptors, nextSerial, -, -, -, hperform⟩
  · rw [hperform]
    rfl
  · rw [hperform] at h
    cases h

theorem perform_detach_registry (desk : Desk) (name : String) :
    ((detach name).perform desk).2.registry = desk.registry := by
  simp only [perform, Desk.detach]
  cases Table.find? desk.held name <;> rfl

theorem perform_stamps
    (halive : desk.alive = true) {operation : Operation}
    (hfree : operation.displaced? desk = none) :
    desk.registry.Stamps (operation.perform desk).2.registry := by
  cases hadd : operation.isAdd with
  | true =>
      rcases perform_add_of_free halive hadd hfree with
        ⟨error, hrefused⟩ | ⟨descriptors, nextSerial, -, hregistry⟩
      · exact Registry.stamps_of_snapshot_eq (snapshot_perform_of_refused hrefused)
      · rw [hregistry]
        exact Registry.stamps_appended { desk.registry with nextSerial := nextSerial } descriptors
  | false =>
      cases operation with
      | dispose name =>
          rw [(perform_dispose halive name).2]
          exact Registry.stamps_remove _ _
      | drop name =>
          rw [perform_drop halive name]
          exact Registry.stamps_remove _ _
      | detach name =>
          exact Registry.stamps_of_snapshot_eq (by rw [perform_detach_registry])
      | clear => exact Registry.stamps_clear _
      | build kind => exact Registry.stamps_of_snapshot_eq rfl
      | elsewhere count => exact Registry.stamps_of_snapshot_eq rfl
      | _ => cases hadd

/-! ## Operations without effect -/

/-- An operation that finds nothing to change in the registry: a failed add, one without
bindings, a second disposal, one of descriptors that are no longer listed, and whatever
leaves registered handlers alone. -/
inductive Idle (desk : Desk) : Operation → Prop where
  | refused {operation : Operation} {error : RegistryError}
      (report : (operation.perform desk).1 = .refused error) : Idle desk operation
  | unbound {operation : Operation} (report : (operation.perform desk).1 = .added [])
      (free : operation.displaced? desk = none) : Idle desk operation
  | disposedBefore {name : String}
      (report : ((dispose name).perform desk).1 = .disposed false) : Idle desk (dispose name)
  | disposeUnlisted {name : String}
      (unlisted : ∀ descriptor ∈ desk.registry.descriptors, descriptor.id ∉ desk.guarded name) :
      Idle desk (dispose name)
  | dropUnlisted {name : String}
      (unlisted : ∀ descriptor ∈ desk.registry.descriptors, descriptor.id ∉ desk.guarded name) :
      Idle desk (drop name)
  | detach (name : String) : Idle desk (detach name)
  | clearEmpty (empty : desk.registry.descriptors = []) : Idle desk clear
  | build (kind : HandlerKind) : Idle desk (build kind)
  | elsewhere (count : Nat) : Idle desk (elsewhere count)

theorem guarded_of_disposed_false
    (halive : desk.alive = true) {name : String}
    (h : ((dispose name).perform desk).1 = .disposed false) :
    desk.guarded name = [] := by
  have hnot : (desk.pending? name).isSome ≠ true := fun hsome => by
    rw [(perform_dispose halive name).1.mpr hsome] at h
    cases h
  rw [Desk.guarded, Option.not_isSome_iff_eq_none.mp hnot, Option.getD_none]

theorem snapshot_perform_of_idle
    (halive : desk.alive = true) {operation : Operation} (h : operation.Idle desk) :
    (operation.perform desk).2.registry.snapshot = desk.registry.snapshot := by
  cases h with
  | refused report => exact snapshot_perform_of_refused report
  | unbound report free =>
      rcases perform_add_of_free halive (isAdd_of_added report) free with
        ⟨error, hrefused⟩ | ⟨descriptors, nextSerial, hadded, hregistry⟩
      · exact snapshot_perform_of_refused hrefused
      · rw [report, Report.added.injEq] at hadded
        have hnone : descriptors = [] := List.map_eq_nil_iff.mp hadded.symm
        rw [hregistry, hnone]
        simp [Registry.snapshot, Registry.appended]
  | disposedBefore report =>
      rw [(perform_dispose halive _).2, guarded_of_disposed_false halive report,
        Registry.remove_nil]
  | disposeUnlisted unlisted =>
      rw [(perform_dispose halive _).2, Registry.remove_eq_self unlisted]
  | dropUnlisted unlisted => rw [perform_drop halive _, Registry.remove_eq_self unlisted]
  | detach name => rw [perform_detach_registry]
  | clearEmpty empty => simp [perform, Desk.clear, Registry.clear, empty]
  | build kind => rfl
  | elsewhere count => rfl

/-- An operation that leaves the list as it was had nothing to change. -/
theorem idle_of_descriptors_eq
    (halive : desk.alive = true) {operation : Operation}
    (hfree : operation.displaced? desk = none)
    (h : (operation.perform desk).2.registry.descriptors = desk.registry.descriptors) :
    operation.Idle desk := by
  have hunlisted : ∀ name, (desk.registry.remove (desk.guarded name)).descriptors =
      desk.registry.descriptors →
        ∀ descriptor ∈ desk.registry.descriptors, descriptor.id ∉ desk.guarded name := by
    intro name hsame descriptor hmem
    rw [Registry.remove_descriptors, List.filter_eq_self] at hsame
    simpa using hsame descriptor hmem
  cases hadd : operation.isAdd with
  | true =>
      rcases perform_add_of_free halive hadd hfree with
        ⟨error, hrefused⟩ | ⟨descriptors, nextSerial, hadded, hregistry⟩
      · exact .refused hrefused
      · rw [hregistry] at h
        have hnone : descriptors = [] := by
          simpa [Registry.appended] using h
        exact .unbound (by rw [hadded, hnone]; rfl) hfree
  | false =>
      cases operation with
      | dispose name =>
          rw [(perform_dispose halive name).2] at h
          exact .disposeUnlisted (hunlisted name h)
      | drop name =>
          rw [perform_drop halive name] at h
          exact .dropUnlisted (hunlisted name h)
      | detach name => exact .detach name
      | clear =>
          have hcleared : (clear.perform desk).2.registry.descriptors = [] :=
            Registry.clear_descriptors desk.registry
          exact .clearEmpty (h.symm.trans hcleared)
      | build kind => exact .build kind
      | elsewhere count => exact .elsewhere count
      | _ => cases hadd

/-! ## Runs -/

theorem perform_precedes
    (h : desk.Orderly) (operation : Operation) :
    desk.registry.snapshot.Precedes (operation.perform desk).2.registry.snapshot := by
  cases hname : operation.displaced? desk with
  | none => exact (perform_stamps h.alive hname).precedes
  | some name =>
      obtain ⟨hkeep, -⟩ := displaced?_eq_some_iff.mp hname
      cases hreport : (operation.perform desk).1 with
      | added ids =>
          have hadd := perform_stamps h.alive (displaced?_detached desk operation)
          have hmiddle := (operation.detached.perform_effect h).orderly h
          have hdrop : (operation.detached.perform desk).2.registry.Stamps
              ((drop name).perform (operation.detached.perform desk).2).2.registry :=
            perform_stamps hmiddle.alive rfl
          rw [perform_registry_of_displaced? h.alive hname hreport]
          exact hadd.precedes.trans hdrop.precedes
      | refused error =>
          rw [snapshot_perform_of_refused hreport]
          exact Snapshot.Precedes.refl _
      | _ =>
          rcases perform_add_cases (isAdd_of_keep hkeep) desk with
            ⟨error, nextId, nextSerial, -, hperform⟩ |
            ⟨request, descriptors, nextSerial, -, -, -, hperform⟩
          · simp [hperform] at hreport
          · simp [hperform] at hreport

theorem performAll_precedes
    (h : desk.Orderly) (operations : List Operation) :
    desk.registry.snapshot.Precedes (performAll desk operations).registry.snapshot := by
  induction operations generalizing desk with
  | nil => exact Snapshot.Precedes.refl _
  | cons operation rest ih =>
      exact (operation.perform_precedes h).trans (ih ((operation.perform_effect h).orderly h))

/-- What an operation does to the generation.  An add that takes a name from another
registration counts as the add and a drop. -/
structure Counted (desk : Desk) (operation : Operation) : Prop where
  stamped : operation.displaced? desk = none →
    desk.registry.Stamps (operation.perform desk).2.registry
  changes : operation.displaced? desk = none → ¬operation.Idle desk →
    (operation.perform desk).2.registry.descriptors ≠ desk.registry.descriptors
  idle : operation.Idle desk →
    (operation.perform desk).2.registry.snapshot = desk.registry.snapshot
  displacing : ∀ name ids, operation.displaced? desk = some name →
    (operation.perform desk).1 = .added ids →
      (operation.perform desk).2.registry =
        (performAll desk [operation.detached, .drop name]).registry

end Operation

/-- Any two snapshots of a run are told apart by their generations unless they list the
same, and every operation moves the generation by its changes of the list. -/
theorem generations_identify
    (resolver : Resolver) (firstId : Nat) (earlier later : List Operation) :
    let desk := Operation.performAll (Desk.opened resolver firstId) earlier
    desk.registry.snapshot.Precedes (Operation.performAll desk later).registry.snapshot ∧
      ∀ operation : Operation, operation.Counted desk := by
  intro desk
  have horderly : desk.Orderly :=
    Operation.performAll_orderly (Desk.opened_orderly resolver firstId) earlier
  refine ⟨Operation.performAll_precedes horderly later, ?_⟩
  intro operation
  refine ⟨Operation.perform_stamps horderly.alive, ?_, ?_, ?_⟩
  · intro hfree hbusy hsame
    exact hbusy (Operation.idle_of_descriptors_eq horderly.alive hfree hsame)
  · exact Operation.snapshot_perform_of_idle horderly.alive
  · intro name ids hname hadded
    exact Operation.perform_registry_of_displaced? horderly.alive hname hadded

end Switchboard
