import Mathlib.Tactic.Common
import Switchboard.Proofs.Registry.Operation

/-!
# The journal of a run

Every operation leaves an entry that says what was asked and what was reported.
The main statement gives the state after an operation from the entry alone: which
descriptors stay and which join the list, and what releasing each held
registration would now take from it.
-/

namespace Switchboard

/-! ## Entries -/

/-- What one operation leaves in the journal. -/
structure Entry where
  operation : Operation
  /-- What an add asked for. -/
  request : Option Request
  report : Report
  deriving Repr

namespace Entry

/-- The ids that a successful add reported. -/
def ids (entry : Entry) : List Nat :=
  match entry.report with
  | .added ids => ids
  | _ => []

/-- The descriptors that a successful add created: one for each binding of its
request, under the ids reported. -/
def created (entry : Entry) : List Descriptor :=
  (entry.ids.zip ((entry.request.map Request.bindings).getD [])).filterMap fun (id, binding) =>
    (Descriptor.ofBinding id binding).toOption

/-- The name under which a successful add holds its registration. -/
def held? (entry : Entry) : Option String :=
  match entry.report with
  | .added _ => entry.operation.keep
  | _ => none

/-- The name whose registration is disposed: explicitly, by a drop, or because
another registration takes its place. -/
def disposed? (entry : Entry) : Option String :=
  match entry.operation with
  | .dispose name | .drop name => some name
  | _ => entry.held?

/-- The name whose registration is detached. -/
def detached? (entry : Entry) : Option String :=
  match entry.operation with
  | .detach name => some name
  | _ => none

/-- Whether every descriptor is removed. -/
def clears (entry : Entry) : Bool :=
  match entry.operation with
  | .clear => true
  | _ => false

/-- Whether a descriptor leaves the list of a desk. -/
def strikes (entry : Entry) (desk : Desk) (descriptor : Descriptor) : Bool :=
  entry.clears || entry.disposed?.any fun name => descriptor.id ∈ desk.guarded name

theorem strikes_eq_false_iff (entry : Entry) (desk : Desk) (descriptor : Descriptor) :
    entry.strikes desk descriptor = false ↔
      entry.clears = false ∧
        ∀ name, entry.disposed? = some name → descriptor.id ∉ desk.guarded name := by
  unfold strikes
  cases entry.disposed? <;> simp

theorem disposed?_of_held? {entry : Entry} {name : String} (h : entry.held? = some name) :
    entry.disposed? = some name := by
  obtain ⟨operation, request, report⟩ := entry
  cases operation with
  | dispose _ => cases report <;> simp [held?, Operation.keep] at h
  | drop _ => cases report <;> simp [held?, Operation.keep] at h
  | _ => exact h

theorem detached?_ne_of_disposed?
    {entry : Entry} {name other : String} (h : entry.disposed? = some name) :
    entry.detached? ≠ some other := by
  obtain ⟨operation, request, report⟩ := entry
  cases operation with
  | detach _ => cases report <;> simp [disposed?, held?, Operation.keep] at h
  | _ => simp [detached?]

theorem clears_of_isAdd {entry : Entry} (h : entry.operation.isAdd = true) :
    entry.clears = false := by
  obtain ⟨operation, request, report⟩ := entry
  cases operation <;> first | rfl | simp [Operation.isAdd] at h

theorem detached?_of_isAdd {entry : Entry} (h : entry.operation.isAdd = true) :
    entry.detached? = none := by
  obtain ⟨operation, request, report⟩ := entry
  cases operation <;> first | rfl | simp [Operation.isAdd] at h

theorem disposed?_of_isAdd {entry : Entry} (h : entry.operation.isAdd = true) :
    entry.disposed? = entry.held? := by
  obtain ⟨operation, request, report⟩ := entry
  cases operation <;> first | rfl | simp [Operation.isAdd] at h

/-- Only a successful add holds a registration. -/
theorem held?_of_not_added {entry : Entry} (h : ∀ ids, entry.report ≠ .added ids) :
    entry.held? = none := by
  unfold held?
  split
  next ids hreport => exact absurd hreport (h ids)
  next => rfl

/-- Only a successful add creates descriptors. -/
theorem created_of_not_added {entry : Entry} (h : ∀ ids, entry.report ≠ .added ids) :
    entry.created = [] := by
  have hids : entry.ids = [] := by
    unfold ids
    split
    next ids hreport => exact absurd hreport (h ids)
    next => rfl
  simp [created, hids]

theorem created_eq_of_describes
    {entry : Entry} {request : Request} {next : Nat} {descriptors : List Descriptor}
    (hrequest : entry.request = some request)
    (hids : entry.ids = descriptors.map Descriptor.id)
    (hdescribes : Registry.Describes next request.bindings descriptors) :
    entry.created = descriptors := by
  have hbindings : (entry.request.map Request.bindings).getD [] =
      descriptors.map Descriptor.binding := by
    simp [hrequest, hdescribes.bindings]
  unfold created
  rw [hids, hbindings, List.zip_map', List.filterMap_map]
  have hsome : ∀ descriptor ∈ descriptors,
      ((fun (id, binding) => (Descriptor.ofBinding id binding).toOption) ∘
        fun descriptor : Descriptor => (descriptor.id, descriptor.binding)) descriptor =
        some descriptor := by
    intro descriptor hmem
    have hdescribed : Descriptor.ofBinding descriptor.id descriptor.binding = .ok descriptor :=
      hdescribes.described descriptor hmem
    simp [hdescribed, Except.toOption]
  rw [List.filterMap_congr hsome, List.filterMap_some]

end Entry

/-- The entry that an operation leaves when it is performed on a desk. -/
def Operation.entry (desk : Desk) (operation : Operation) : Entry :=
  ⟨operation, operation.request? desk.registry, (operation.perform desk).1⟩

/-- A successful add creates one descriptor for each binding of its request, and
none of them clashes. -/
theorem Operation.created_of_added
    {desk : Desk} {operation : Operation} {ids : List Nat}
    (h : (operation.entry desk).report = .added ids) :
    ∃ request, (operation.entry desk).request = some request ∧
      Registry.Describes desk.registry.nextId request.bindings (operation.entry desk).created ∧
      Registry.firstClash desk.registry.descriptors (operation.entry desk).created = none ∧
      (operation.entry desk).created.map Descriptor.id = ids := by
  have hadd : operation.isAdd = true := Operation.isAdd_of_added h
  rcases Operation.perform_add_cases hadd desk with
    ⟨error, nextId, nextSerial, -, hperform⟩ |
    ⟨request, descriptors, nextSerial, hrequest, hdescribes, hclash, hperform⟩
  · simp [Operation.entry, hperform] at h
  · have hreport : (operation.entry desk).report = .added (descriptors.map Descriptor.id) := by
      simp [Operation.entry, hperform]
    have hcreated : (operation.entry desk).created = descriptors :=
      Entry.created_eq_of_describes hrequest (by simp [Entry.ids, hreport]) hdescribes
    rw [hreport, Report.added.injEq] at h
    rw [hcreated]
    exact ⟨request, hrequest, hdescribes, hclash, h⟩

theorem Operation.created_cases (desk : Desk) (operation : Operation) :
    (∃ request, (operation.entry desk).request = some request ∧
      (operation.entry desk).report =
        .added ((operation.entry desk).created.map Descriptor.id) ∧
      (operation.entry desk).created.map Descriptor.binding = request.bindings) ∨
    ((∀ ids, (operation.entry desk).report ≠ .added ids) ∧
      (operation.entry desk).created = []) := by
  cases hreport : (operation.entry desk).report with
  | added ids =>
      obtain ⟨request, hrequest, hdescribes, -, hids⟩ := Operation.created_of_added hreport
      exact Or.inl ⟨request, hrequest, by rw [hids], hdescribes.bindings⟩
  | _ => exact Or.inr ⟨by simp, Entry.created_of_not_added (by simp [hreport])⟩

/-! ## The effect of one operation -/

/-- The invariant of a desk whose registry still exists: the ids increase along
the list, and no id in use is handed out again. -/
structure Desk.Orderly (desk : Desk) : Prop where
  alive : desk.alive = true
  increasing : (desk.registry.descriptors.map Descriptor.id).Pairwise (· < ·)
  fresh : ∀ descriptor ∈ desk.registry.descriptors, descriptor.id < desk.registry.nextId
  guarded_fresh : ∀ name, ∀ id ∈ desk.guarded name, id < desk.registry.nextId

/-- What an operation with a given entry makes of a desk. -/
structure Effect (desk : Desk) (entry : Entry) (after : Desk) : Prop where
  alive : after.alive = desk.alive
  descriptors : after.registry.descriptors =
    (desk.registry.descriptors.filter fun descriptor => !entry.strikes desk descriptor) ++
      entry.created
  pending : ∀ name, after.pending? name =
    if entry.held? = some name then some (entry.created.map Descriptor.id)
    else if entry.disposed? = some name ∨ entry.detached? = some name then none
    else desk.pending? name
  increasing : (entry.created.map Descriptor.id).Pairwise (· < ·)
  created_fresh : ∀ descriptor ∈ entry.created,
    desk.registry.nextId ≤ descriptor.id ∧ descriptor.id < after.registry.nextId
  nextId_le : desk.registry.nextId ≤ after.registry.nextId

namespace Effect

open Operation

variable {desk : Desk}

/-- An operation that adds nothing only has to be followed through the list and
the pending registrations. -/
theorem of_not_added
    {entry : Entry} {after : Desk} (hreport : ∀ ids, entry.report ≠ .added ids)
    (halive : after.alive = desk.alive)
    (hdescriptors : after.registry.descriptors =
      desk.registry.descriptors.filter fun descriptor => !entry.strikes desk descriptor)
    (hpending : ∀ name, after.pending? name =
      if entry.disposed? = some name ∨ entry.detached? = some name then none
      else desk.pending? name)
    (hnextId : desk.registry.nextId ≤ after.registry.nextId) :
    Effect desk entry after := by
  have hcreated : entry.created = [] := Entry.created_of_not_added hreport
  have hheld : entry.held? = none := Entry.held?_of_not_added hreport
  refine ⟨halive, ?_, ?_, by simp [hcreated], by simp [hcreated], hnextId⟩
  · rw [hdescriptors, hcreated, List.append_nil]
  · intro name
    rw [hpending name, hheld]
    simp

/-- An operation that only draws numbers. -/
theorem of_numbered
    {entry : Entry} (nextId nextSerial : Nat) (hle : desk.registry.nextId ≤ nextId)
    (hreport : ∀ ids, entry.report ≠ .added ids) (hclears : entry.clears = false)
    (hdisposed : entry.disposed? = none) (hdetached : entry.detached? = none) :
    Effect desk entry
      { desk with
        registry := { desk.registry with nextId := nextId, nextSerial := nextSerial } } := by
  refine of_not_added hreport rfl ?_ ?_ hle
  · simp [Entry.strikes, hclears, hdisposed]
  · intro name
    simp only [hdisposed, hdetached, reduceCtorEq, or_self, if_false]
    rfl

/-! ### Adding -/

/-- The descriptors of an add are not among those that a displaced registration
takes along, for their ids are new. -/
theorem filter_guarded_append
    (h : desk.Orderly) (name : String) {descriptors : List Descriptor}
    (hfresh : ∀ descriptor ∈ descriptors, desk.registry.nextId ≤ descriptor.id) :
    ((desk.registry.descriptors ++ descriptors).filter
        fun descriptor => descriptor.id ∉ desk.guarded name) =
      (desk.registry.descriptors.filter fun descriptor => descriptor.id ∉ desk.guarded name) ++
        descriptors := by
  rw [List.filter_append]
  congr 1
  apply List.filter_eq_self.mpr
  intro descriptor hmem
  have hle := hfresh descriptor hmem
  have hnot : descriptor.id ∉ desk.guarded name := fun hguarded => by
    have hlt := h.guarded_fresh name descriptor.id hguarded
    omega
  simpa using hnot

section Added

variable {entry : Entry} {bindings : List Binding} {registry : Registry}

/-- A successful add whose registration is detached at once. -/
theorem of_detached_add
    (hdescribes : Registry.Describes desk.registry.nextId bindings entry.created)
    (hregistry : registry.descriptors = desk.registry.descriptors ++ entry.created)
    (hnextId : registry.nextId = desk.registry.nextId + bindings.length)
    (hheld : entry.held? = none) (hclears : entry.clears = false)
    (hdisposed : entry.disposed? = none) (hdetached : entry.detached? = none) :
    Effect desk entry { desk with registry := registry } where
  alive := rfl
  descriptors := by simp [Entry.strikes, hclears, hdisposed, hregistry]
  pending name := by
    simp only [hheld, hdisposed, hdetached, reduceCtorEq, if_false, or_self]
    rfl
  increasing := hdescribes.increasing
  created_fresh descriptor hmem := by
    rw [hnextId]
    exact hdescribes.id_bounds hmem
  nextId_le := by
    rw [hnextId]
    exact Nat.le_add_right _ _

/-- A successful add whose registration is held under a name. -/
theorem of_held_add
    (h : desk.Orderly) {name : String} {held : Table Registration}
    (hdescribes : Registry.Describes desk.registry.nextId bindings entry.created)
    (hregistry : registry.descriptors = desk.registry.descriptors ++ entry.created)
    (hnextId : registry.nextId = desk.registry.nextId + bindings.length)
    (hheld : entry.held? = some name) (hclears : entry.clears = false)
    (hdetached : entry.detached? = none)
    (hself : Table.find? held name = some ⟨entry.created.map Descriptor.id, false⟩)
    (hother : ∀ other, other ≠ name → Table.find? held other = Table.find? desk.held other) :
    Effect desk entry
      { desk with registry := registry.remove (desk.guarded name), held := held } where
  alive := rfl
  descriptors := by
    have hdisposed : entry.disposed? = some name := Entry.disposed?_of_held? hheld
    have hfilter := filter_guarded_append h name fun descriptor hmem =>
      (hdescribes.id_bounds hmem).1
    simp only [Registry.remove_descriptors, Entry.strikes, hclears, hdisposed, hregistry]
    simpa using hfilter
  pending other := by
    rw [hheld, Entry.disposed?_of_held? hheld, hdetached]
    by_cases heq : name = other
    · subst heq
      simp [Desk.pending?, hself]
    · have hne : other ≠ name := fun h => heq h.symm
      simp only [Option.some.injEq, heq, if_false, reduceCtorEq, or_self]
      exact Desk.pending?_congr (hother other hne)
  increasing := hdescribes.increasing
  created_fresh descriptor hmem := by
    rw [Registry.remove_nextId, hnextId]
    exact hdescribes.id_bounds hmem
  nextId_le := by
    rw [Registry.remove_nextId]
    omega

end Added

theorem of_add
    (h : desk.Orderly) {operation : Operation} (hadd : operation.isAdd = true) :
    Effect desk (operation.entry desk) (operation.perform desk).2 := by
  have hclears : (operation.entry desk).clears = false := Entry.clears_of_isAdd hadd
  have hdetached : (operation.entry desk).detached? = none := Entry.detached?_of_isAdd hadd
  have hdisposed : (operation.entry desk).disposed? = (operation.entry desk).held? :=
    Entry.disposed?_of_isAdd hadd
  rcases perform_add_cases hadd desk with
    ⟨error, nextId, nextSerial, hle, hperform⟩ |
    ⟨request, descriptors, nextSerial, hrequest, hdescribes, -, hperform⟩
  · have hreport : ∀ ids, (operation.entry desk).report ≠ .added ids := by
      simp [entry, hperform]
    rw [hperform]
    exact of_numbered nextId nextSerial hle hreport hclears
      (hdisposed.trans (Entry.held?_of_not_added hreport)) hdetached
  · have hreport : (operation.entry desk).report = .added (descriptors.map Descriptor.id) := by
      simp [entry, hperform]
    have hcreated : (operation.entry desk).created = descriptors :=
      Entry.created_eq_of_describes hrequest (by simp [Entry.ids, hreport]) hdescribes
    have hheld : (operation.entry desk).held? = operation.keep := by
      simp only [Entry.held?, hreport]
      rfl
    have hnextId : desk.registry.nextId + descriptors.length =
        desk.registry.nextId + request.bindings.length := by
      rw [hdescribes.length_eq]
    rw [hperform]
    subst hcreated
    cases hkeep : operation.keep with
    | none =>
        rw [hkeep] at hheld
        exact of_detached_add hdescribes rfl hnextId hheld hclears (hdisposed.trans hheld) hdetached
    | some name =>
        rw [hkeep] at hheld
        obtain ⟨held, hsettle, hself, hother⟩ := Desk.settle_some h.alive name
          ((operation.entry desk).created.map Descriptor.id)
          (Registry.appended { desk.registry with nextSerial := nextSerial }
            (operation.entry desk).created)
        rw [hsettle]
        exact of_held_add h hdescribes rfl hnextId hheld hclears hdetached hself hother

/-! ### Releasing -/

/-- An operation that disposes the registration held under a name, which is
afterwards gone or known to be released. -/
theorem of_disposal
    {entry : Entry} {name : String} {held : Table Registration}
    (hreport : ∀ ids, entry.report ≠ .added ids) (hclears : entry.clears = false)
    (hdisposed : entry.disposed? = some name) (hdetached : entry.detached? = none)
    (hself : ∀ registration, Table.find? held name = some registration →
      registration.released = true)
    (hother : ∀ other, other ≠ name → Table.find? held other = Table.find? desk.held other) :
    Effect desk entry
      { desk with registry := desk.registry.remove (desk.guarded name), held := held } := by
  refine of_not_added hreport rfl ?_ ?_ (by simp)
  · simp [Registry.remove_descriptors, Entry.strikes, hclears, hdisposed]
  · intro other
    rw [hdisposed, hdetached]
    by_cases heq : name = other
    · subst heq
      cases hfind : Table.find? held name with
      | none => simp [Desk.pending?, hfind]
      | some registration => simp [Desk.pending?, hfind, hself registration hfind]
    · have hne : other ≠ name := fun h => heq h.symm
      simp only [Option.some.injEq, heq, if_false, reduceCtorEq, or_self]
      exact Desk.pending?_congr (hother other hne)

/-- Naming a registration that is not held changes nothing. -/
theorem of_unknown
    {entry : Entry} {name : String} (hfind : Table.find? desk.held name = none)
    (hreport : ∀ ids, entry.report ≠ .added ids) (hclears : entry.clears = false)
    (hdisposed : ∀ other, entry.disposed? = some other → other = name)
    (hdetached : ∀ other, entry.detached? = some other → other = name) :
    Effect desk entry desk := by
  refine of_not_added hreport rfl ?_ ?_ le_rfl
  · have hstays : ∀ descriptor, entry.strikes desk descriptor = false := by
      intro descriptor
      rw [Entry.strikes_eq_false_iff]
      refine ⟨hclears, ?_⟩
      intro other hother
      rw [hdisposed other hother, Desk.guarded_eq_nil_of_find? hfind]
      exact List.not_mem_nil
    simp [hstays]
  · intro other
    split
    next hnamed =>
      have hother : other = name := hnamed.elim (hdisposed other) (hdetached other)
      rw [hother]
      exact Desk.pending?_eq_none_of_find? hfind
    next => rfl

theorem of_dispose (h : desk.Orderly) (name : String) :
    Effect desk ((dispose name).entry desk) ((dispose name).perform desk).2 := by
  cases hfind : Table.find? desk.held name with
  | none =>
      have hperform : (dispose name).perform desk = (.unknown, desk) := by
        simp [perform, Desk.dispose, hfind]
      rw [hperform]
      exact of_unknown hfind (by simp [entry, hperform]) rfl
        (by simp [entry, Entry.disposed?]) (by simp [entry, Entry.detached?])
  | some registration =>
      have hperform : (dispose name).perform desk =
          (.disposed (desk.pending? name).isSome,
            { desk with
              registry := desk.registry.remove (desk.guarded name)
              held := Table.insert name { registration with released := true } desk.held }) := by
        simp [perform, Desk.dispose, hfind, Desk.release_eq h.alive hfind]
      rw [hperform]
      refine of_disposal (by simp [entry, hperform]) rfl rfl rfl ?_
        (fun other hne => Table.find?_insert_of_ne hne _ _)
      intro other hother
      rw [Table.find?_insert_self, Option.some.injEq] at hother
      rw [← hother]

theorem of_drop (h : desk.Orderly) (name : String) :
    Effect desk ((drop name).entry desk) ((drop name).perform desk).2 := by
  cases hfind : Table.find? desk.held name with
  | none =>
      have hperform : (drop name).perform desk = (.unknown, desk) := by
        simp [perform, Desk.drop, hfind]
      rw [hperform]
      exact of_unknown hfind (by simp [entry, hperform]) rfl
        (by simp [entry, Entry.disposed?]) (by simp [entry, Entry.detached?])
  | some registration =>
      have hperform : (drop name).perform desk =
          (.settled,
            { desk with
              registry := desk.registry.remove (desk.guarded name)
              held := Table.erase name desk.held }) := by
        simp [perform, Desk.drop, hfind, Desk.release_eq h.alive hfind]
      rw [hperform]
      exact of_disposal (by simp [entry, hperform]) rfl rfl rfl
        (by simp [Table.find?_erase_self])
        (fun other hne => Table.find?_erase_of_ne hne _)

theorem of_detach (name : String) :
    Effect desk ((detach name).entry desk) ((detach name).perform desk).2 := by
  cases hfind : Table.find? desk.held name with
  | none =>
      have hperform : (detach name).perform desk = (.unknown, desk) := by
        simp [perform, Desk.detach, hfind]
      have hreport : ∀ ids, ((detach name).entry desk).report ≠ .added ids := by
        simp [entry, hperform]
      have hdisposed : ((detach name).entry desk).disposed? = none :=
        Entry.held?_of_not_added hreport
      rw [hperform]
      exact of_unknown hfind hreport rfl (by simp [hdisposed]) (by simp [entry, Entry.detached?])
  | some registration =>
      have hperform : (detach name).perform desk =
          (.settled, { desk with held := Table.erase name desk.held }) := by
        simp [perform, Desk.detach, hfind]
      have hreport : ∀ ids, ((detach name).entry desk).report ≠ .added ids := by
        simp [entry, hperform]
      have hdisposed : ((detach name).entry desk).disposed? = none :=
        Entry.held?_of_not_added hreport
      have hclears : ((detach name).entry desk).clears = false := rfl
      have hdetached : ((detach name).entry desk).detached? = some name := rfl
      rw [hperform]
      refine of_not_added hreport rfl ?_ ?_ le_rfl
      · simp [Entry.strikes, hclears, hdisposed]
      · intro other
        rw [hdisposed, hdetached]
        by_cases heq : name = other
        · subst heq
          simp [Desk.pending?, Table.find?_erase_self]
        · have hne : other ≠ name := fun h => heq h.symm
          simp only [Option.some.injEq, heq, if_false, reduceCtorEq, or_self]
          exact Desk.pending?_congr (Table.find?_erase_of_ne hne _)

theorem of_clear : Effect desk (clear.entry desk) (clear.perform desk).2 := by
  have hreport : ∀ ids, (clear.entry desk).report ≠ .added ids := by
    simp [entry, perform]
  have hdisposed : (clear.entry desk).disposed? = none := Entry.held?_of_not_added hreport
  have hclears : (clear.entry desk).clears = true := rfl
  have hdetached : (clear.entry desk).detached? = none := rfl
  refine of_not_added hreport rfl ?_ ?_ ?_
  · simp [perform, Desk.clear, Entry.strikes, hclears]
  · intro name
    simp only [hdisposed, hdetached, reduceCtorEq, or_self, if_false]
    rfl
  · simp [perform, Desk.clear]

theorem of_build (kind : HandlerKind) :
    Effect desk ((build kind).entry desk) ((build kind).perform desk).2 :=
  of_numbered desk.registry.nextId (desk.registry.nextSerial + 1) le_rfl
    (by simp [entry, perform]) rfl rfl rfl

theorem of_elsewhere (count : Nat) :
    Effect desk ((elsewhere count).entry desk) ((elsewhere count).perform desk).2 :=
  of_numbered (desk.registry.nextId + count) desk.registry.nextSerial
    (Nat.le_add_right _ _) (by simp [entry, perform]) rfl rfl rfl

end Effect

/-- The entry of an operation determines its effect. -/
theorem Operation.perform_effect
    {desk : Desk} (h : desk.Orderly) (operation : Operation) :
    Effect desk (operation.entry desk) (operation.perform desk).2 := by
  cases operation with
  | add handlers keep => exact Effect.of_add h rfl
  | addTypes types keep => exact Effect.of_add h rfl
  | addMethod method handler keep => exact Effect.of_add h rfl
  | addMethodWith method made keep => exact Effect.of_add h rfl
  | addMethodType method type keep => exact Effect.of_add h rfl
  | dispose name => exact Effect.of_dispose h name
  | drop name => exact Effect.of_drop h name
  | detach name => exact Effect.of_detach name
  | clear => exact Effect.of_clear
  | build kind => exact Effect.of_build kind
  | elsewhere count => exact Effect.of_elsewhere count

/-! ## Order -/

namespace Effect

variable {desk after : Desk} {entry : Entry}

theorem mem_of_mem_descriptors
    (h : Effect desk entry after) {descriptor : Descriptor}
    (hmem : descriptor ∈ after.registry.descriptors) :
    descriptor ∈ desk.registry.descriptors ∨ descriptor ∈ entry.created := by
  rw [h.descriptors, List.mem_append] at hmem
  exact hmem.imp_left fun hkept => List.mem_of_mem_filter hkept

theorem guarded_cases (h : Effect desk entry after) (name : String) :
    after.guarded name = entry.created.map Descriptor.id ∨
      after.guarded name = [] ∨ after.guarded name = desk.guarded name := by
  unfold Desk.guarded
  rw [h.pending name]
  split
  · exact Or.inl rfl
  · split
    · exact Or.inr (Or.inl rfl)
    · exact Or.inr (Or.inr rfl)

theorem orderly (h : Effect desk entry after) (horderly : desk.Orderly) :
    after.Orderly where
  alive := h.alive.trans horderly.alive
  increasing := by
    rw [h.descriptors, List.map_append, List.pairwise_append]
    refine ⟨horderly.increasing.sublist (List.filter_sublist.map _), h.increasing, ?_⟩
    intro older holder newer hnewer
    obtain ⟨kept, hkept, rfl⟩ := List.mem_map.mp holder
    obtain ⟨made, hmade, rfl⟩ := List.mem_map.mp hnewer
    have hlt := horderly.fresh kept (List.mem_of_mem_filter hkept)
    have hle := (h.created_fresh made hmade).1
    omega
  fresh := by
    intro descriptor hmem
    rcases h.mem_of_mem_descriptors hmem with hold | hnew
    · exact lt_of_lt_of_le (horderly.fresh descriptor hold) h.nextId_le
    · exact (h.created_fresh descriptor hnew).2
  guarded_fresh := by
    intro name id hid
    rcases h.guarded_cases name with hnew | hnone | hold
    · rw [hnew] at hid
      obtain ⟨descriptor, hmem, rfl⟩ := List.mem_map.mp hid
      exact (h.created_fresh descriptor hmem).2
    · simp [hnone] at hid
    · rw [hold] at hid
      exact lt_of_lt_of_le (horderly.guarded_fresh name id hid) h.nextId_le

end Effect

end Switchboard
