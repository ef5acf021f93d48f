import Mathlib.Tactic.Common
import Switchboard.Proofs.Registry.Insertion
import Switchboard.Registry.Desk

/-!
# What one operation does to a desk

All five adds come down to one: construct the handlers, insert the bindings that
the request asks for, and settle the registration.  The two views of a desk that
matter afterwards are the list of descriptors and, for every name, the ids that
releasing the registration held under it would take from the list.
-/

namespace Switchboard

/-! ## What a release would take -/

namespace Desk

/-- The ids under the registration held under a name, unless it was released. -/
def pending? (desk : Desk) (name : String) : Option (List Nat) :=
  (Table.find? desk.held name).bind fun registration =>
    if registration.released then none else some registration.ids

/-- The ids that releasing the registration held under a name takes from the list. -/
def guarded (desk : Desk) (name : String) : List Nat := (desk.pending? name).getD []

theorem pending?_congr
    {desk other : Desk} {name : String}
    (h : Table.find? desk.held name = Table.find? other.held name) :
    desk.pending? name = other.pending? name := by
  simp [pending?, h]

theorem release_eq
    {desk : Desk} (halive : desk.alive = true) {name : String} {registration : Registration}
    (hheld : Table.find? desk.held name = some registration) :
    desk.release registration =
      ((desk.pending? name).isSome,
        { desk with registry := desk.registry.remove (desk.guarded name) }) := by
  cases hreleased : registration.released with
  | true => simp [release, hreleased, guarded, pending?, hheld]
  | false => simp [release, hreleased, halive, guarded, pending?, hheld]

/-- A name under which nothing is held has nothing pending. -/
theorem pending?_eq_none_of_find?
    {desk : Desk} {name : String} (h : Table.find? desk.held name = none) :
    desk.pending? name = none := by
  simp [pending?, h]

theorem guarded_eq_nil_of_find?
    {desk : Desk} {name : String} (h : Table.find? desk.held name = none) :
    desk.guarded name = [] := by
  simp [guarded, pending?_eq_none_of_find? h]

/-! ## Settling -/

/-- Holding a registration under a name disposes the one it displaces. -/
theorem settle_some
    {desk : Desk} (halive : desk.alive = true) (name : String) (ids : List Nat)
    (registry : Registry) :
    ∃ held, (desk.settle (some name) (.ok ids, registry)).2 =
        { desk with registry := registry.remove (desk.guarded name), held := held } ∧
      Table.find? held name = some ⟨ids, false⟩ ∧
      ∀ other, other ≠ name → Table.find? held other = Table.find? desk.held other := by
  cases hheld : Table.find? desk.held name with
  | none =>
      refine ⟨Table.insert name ⟨ids, false⟩ desk.held, ?_,
        Table.find?_insert_self _ _ _, fun other hne => Table.find?_insert_of_ne hne _ _⟩
      rw [guarded_eq_nil_of_find? hheld, Registry.remove_nil]
      simp [settle, drop, hheld]
  | some registration =>
      refine ⟨Table.insert name ⟨ids, false⟩ (Table.erase name desk.held), ?_,
        Table.find?_insert_self _ _ _, ?_⟩
      · have hlives : ({ desk with registry := registry } : Desk).alive = true := halive
        have hrelease : ({ desk with registry := registry } : Desk).release registration =
            ((desk.pending? name).isSome,
              { desk with registry := registry.remove (desk.guarded name) }) :=
          release_eq hlives hheld
        simp [settle, drop, hheld, hrelease]
      · intro other hne
        rw [Table.find?_insert_of_ne hne, Table.find?_erase_of_ne hne]

end Desk

/-! ## Requests -/

/-- What an add asks of a registry once its handlers are constructed. -/
inductive Request where
  /-- To register handlers for the capabilities they declare. -/
  | declared (handlers : List Handler)
  /-- To register a handler under an explicit method. -/
  | explicit (method : String) (handler : Handler)
  deriving DecidableEq, Repr

/-- The bindings that a request asks for, in order. -/
def Request.bindings : Request → List Binding
  | .declared handlers => Registry.bindingsOf handlers
  | .explicit method handler => [Binding.toMethod method handler]

/-- Whether a report tells the outcome of an add. -/
def Report.ofAdd : Report → Bool
  | .added _ | .refused _ => true
  | _ => false

namespace Operation

/-- Whether the operation is one of the adds. -/
def isAdd : Operation → Bool
  | .add _ _ | .addTypes _ _ | .addMethod _ _ _ | .addMethodWith _ _ _ | .addMethodType _ _ _ =>
      true
  | _ => false

/-- The name under which an add holds its registration, unless it detaches it. -/
def keep : Operation → Option String
  | .add _ keep | .addTypes _ keep | .addMethod _ _ keep | .addMethodWith _ _ keep
  | .addMethodType _ _ keep => keep
  | _ => none

/-- What an add asks of the registry; nothing when a handler cannot be
constructed. -/
def request? (registry : Registry) : Operation → Option Request
  | .add handlers _ => some (.declared handlers)
  | .addTypes types _ => (registry.resolveAll types).1.toOption.map .declared
  | .addMethod method handler _ => some (.explicit method handler)
  | .addMethodWith method made _ => made.toOption.map (.explicit method)
  | .addMethodType method type _ => (registry.resolve type).1.toOption.map (.explicit method)
  | _ => none

/-! ## Adding -/

/-- Constructing handlers changes only the serial number of the next instance. -/
theorem exists_resolveAll_eq (registry : Registry) (types : List HandlerType) :
    ∃ nextSerial, (registry.resolveAll types).2 = { registry with nextSerial := nextSerial } := by
  induction types generalizing registry with
  | nil => exact ⟨registry.nextSerial, rfl⟩
  | cons type rest ih =>
      cases hmade : registry.resolver type registry.nextSerial with
      | error error =>
          exact ⟨registry.nextSerial + 1, by
            simp [Registry.resolveAll, Registry.resolve, hmade]⟩
      | ok handler =>
          obtain ⟨nextSerial, hrest⟩ :=
            ih { registry with nextSerial := registry.nextSerial + 1 }
          exact ⟨nextSerial, by
            simp [Registry.resolveAll, Registry.resolve, hmade, hrest]⟩

/-- An add either cannot construct its handlers, or it inserts the bindings of
its request and settles the registration. -/
theorem perform_add
    {operation : Operation} (hadd : operation.isAdd = true) (desk : Desk) :
    ∃ nextSerial,
      (operation.request? desk.registry = none ∧ ∃ error,
        operation.perform desk =
          (.refused error,
            { desk with registry := { desk.registry with nextSerial := nextSerial } })) ∨
      ∃ request, operation.request? desk.registry = some request ∧
        operation.perform desk =
          reportAdd (desk.settle operation.keep
            (Registry.insert { desk.registry with nextSerial := nextSerial }
              request.bindings)) := by
  -- The adds that construct their handlers may fail before they insert anything.
  cases operation with
  | add handlers keep =>
      exact ⟨desk.registry.nextSerial, Or.inr ⟨.declared handlers, rfl, rfl⟩⟩
  | addTypes types keep =>
      obtain ⟨nextSerial, hregistry⟩ := exists_resolveAll_eq desk.registry types
      refine ⟨nextSerial, ?_⟩
      have hpair : desk.registry.resolveAll types =
          ((desk.registry.resolveAll types).1,
            { desk.registry with nextSerial := nextSerial }) := by
        rw [← hregistry]
      cases hmade : (desk.registry.resolveAll types).1 with
      | error error =>
          rw [hmade] at hpair
          refine Or.inl ⟨by simp [request?, hmade, Except.toOption], .resolution error, ?_⟩
          simp [perform, Desk.addTypes, Registry.addTypes, hpair, Desk.settle, reportAdd]
      | ok handlers =>
          rw [hmade] at hpair
          refine Or.inr ⟨.declared handlers, by simp [request?, hmade, Except.toOption], ?_⟩
          simp only [perform, Desk.addTypes, Registry.addTypes, hpair]
          rfl
  | addMethod method handler keep =>
      exact ⟨desk.registry.nextSerial, Or.inr ⟨.explicit method handler, rfl, rfl⟩⟩
  | addMethodWith method made keep =>
      refine ⟨desk.registry.nextSerial, ?_⟩
      cases made with
      | error error => exact Or.inl ⟨rfl, .resolution error, rfl⟩
      | ok handler => exact Or.inr ⟨.explicit method handler, rfl, rfl⟩
  | addMethodType method type keep =>
      refine ⟨desk.registry.nextSerial + 1, ?_⟩
      cases hmade : desk.registry.resolver type desk.registry.nextSerial with
      | error error =>
          refine Or.inl
            ⟨by simp [request?, Registry.resolve, hmade, Except.toOption],
              .resolution error, ?_⟩
          simp [perform, Desk.addMethodType, Registry.addMethodType, Registry.addMethodWith,
            Registry.resolve, hmade, Desk.settle, reportAdd]
      | ok handler =>
          refine Or.inr
            ⟨.explicit method handler,
              by simp [request?, Registry.resolve, hmade, Except.toOption], ?_⟩
          simp only [perform, Desk.addMethodType, Registry.addMethodType,
            Registry.addMethodWith, Registry.resolve, hmade]
          rfl
  | _ => simp [isAdd] at hadd

/-- An add is refused and takes at most ids and serial numbers, or it appends one
descriptor for each binding of its request, reports their ids and settles. -/
theorem perform_add_cases
    {operation : Operation} (hadd : operation.isAdd = true) (desk : Desk) :
    (∃ error nextId nextSerial, desk.registry.nextId ≤ nextId ∧
      operation.perform desk =
        (.refused error,
          { desk with
            registry := { desk.registry with nextId := nextId, nextSerial := nextSerial } })) ∨
    ∃ request descriptors nextSerial,
      operation.request? desk.registry = some request ∧
      Registry.Describes desk.registry.nextId request.bindings descriptors ∧
      Registry.firstClash desk.registry.descriptors descriptors = none ∧
      operation.perform desk =
        (.added (descriptors.map Descriptor.id),
          (desk.settle operation.keep
            (.ok (descriptors.map Descriptor.id),
              Registry.appended { desk.registry with nextSerial := nextSerial }
                descriptors)).2) := by
  obtain ⟨nextSerial, ⟨-, error, hperform⟩ | ⟨request, hrequest, hperform⟩⟩ :=
    perform_add hadd desk
  · exact Or.inl ⟨error, desk.registry.nextId, nextSerial, le_rfl, hperform⟩
  · rcases Registry.insert_cases { desk.registry with nextSerial := nextSerial }
        request.bindings with
      ⟨error, unused, hle, hinsert⟩ | ⟨descriptors, hdescribes, hclash, hinsert⟩
    · refine Or.inl ⟨error, unused, nextSerial, hle, ?_⟩
      rw [hperform, hinsert]
      rfl
    · refine Or.inr ⟨request, descriptors, nextSerial, hrequest, hdescribes, hclash, ?_⟩
      rw [hperform, hinsert]
      cases operation.keep <;> rfl

/-- Only an add reports ids or an error. -/
theorem isAdd_of_report
    {desk : Desk} {operation : Operation} (h : (operation.perform desk).1.ofAdd = true) :
    operation.isAdd = true := by
  cases operation with
  | dispose name => simp only [perform] at h; split at h <;> cases h
  | drop name => simp only [perform] at h; split at h <;> cases h
  | detach name => simp only [perform] at h; split at h <;> cases h
  | clear => cases h
  | build kind => cases h
  | elsewhere count => cases h
  | _ => rfl

theorem isAdd_of_added
    {desk : Desk} {operation : Operation} {ids : List Nat}
    (h : (operation.perform desk).1 = .added ids) : operation.isAdd = true := by
  have hreport : (operation.perform desk).1.ofAdd = true := by
    rw [h]
    rfl
  exact isAdd_of_report hreport

/-! ## Releasing -/

/-- Disposing takes the pending ids from the registry and reports whether there
were any to take. -/
theorem perform_dispose
    {desk : Desk} (halive : desk.alive = true) (name : String) :
    (((dispose name).perform desk).1 = .disposed true ↔ (desk.pending? name).isSome) ∧
      ((dispose name).perform desk).2.registry = desk.registry.remove (desk.guarded name) := by
  cases hfind : Table.find? desk.held name with
  | none =>
      rw [Desk.guarded_eq_nil_of_find? hfind, Desk.pending?_eq_none_of_find? hfind]
      simp [perform, Desk.dispose, hfind]
  | some registration =>
      simp [perform, Desk.dispose, hfind, Desk.release_eq halive hfind]

theorem perform_drop
    {desk : Desk} (halive : desk.alive = true) (name : String) :
    ((drop name).perform desk).2.registry = desk.registry.remove (desk.guarded name) := by
  cases hfind : Table.find? desk.held name with
  | none =>
      rw [Desk.guarded_eq_nil_of_find? hfind]
      simp [perform, Desk.drop, hfind]
  | some registration =>
      simp [perform, Desk.drop, hfind, Desk.release_eq halive hfind]

end Operation

end Switchboard
