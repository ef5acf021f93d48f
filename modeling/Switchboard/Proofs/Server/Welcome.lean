import Mathlib.Data.List.Basic
import Mathlib.Tactic.Common
import Switchboard.Proofs.Registry.Insertion
import Switchboard.Server

/-!
# Every client is welcomed

The built-in handlers share their capabilities with any number of others, so no
handler that the application registered can keep them out.  The selector that the
sync handler is scoped to is the one the client asked for if it compiles, and else
the default.  So the initialization succeeds whatever the client sends, and it
appends the descriptors of the built-in handlers to those that were there.
-/

namespace Switchboard

/-! ## The settings -/

namespace ServerConfig

/-- The default selector compiles. -/
theorem exists_ofSpecs_default :
    ∃ selector, DocumentSelector.ofSpecs ({} : ServerConfig).documentSelector = .ok selector :=
  ⟨_, rfl⟩

theorem exists_ofSpecs_withValidSelector (config : ServerConfig) :
    ∃ selector,
      DocumentSelector.ofSpecs config.withValidSelector.documentSelector = .ok selector := by
  unfold withValidSelector
  cases hselector : DocumentSelector.ofSpecs config.documentSelector with
  | ok selector => exact ⟨selector, hselector⟩
  | error error => exact exists_ofSpecs_default

/-- Whatever a client sends, the selector of the settings compiles. -/
theorem exists_ofSpecs_ofInitializeParams (params : Json) :
    ∃ selector,
      DocumentSelector.ofSpecs (ofInitializeParams params).documentSelector = .ok selector := by
  unfold ofInitializeParams
  split
  · exact exists_ofSpecs_default
  · exact exists_ofSpecs_default
  · exact exists_ofSpecs_withValidSelector _

end ServerConfig

/-! ## Adding a handler of a shared capability -/

/-- The descriptors of a handler's service of a capability, one for each method,
under consecutive ids. -/
def Descriptor.series (next : Nat) (capability : Capability) (handler : Handler)
    (selector : Option DocumentSelector) : List Descriptor :=
  (capability.methods.zipIdx next).map fun (method, id) =>
    ⟨id, method, some capability, handler, selector⟩

namespace Registry

/-- Descriptors that need not be the only ones of their methods clash with none. -/
theorem firstClash_eq_none_of_shared
    (registered : List Descriptor) {descriptors : List Descriptor}
    (h : ∀ descriptor ∈ descriptors, descriptor.singleOwner = false) :
    firstClash registered descriptors = none := by
  induction descriptors generalizing registered with
  | nil => rfl
  | cons descriptor rest ih =>
      have hshared := h descriptor List.mem_cons_self
      have howner : owner? registered descriptor = none := by simp [owner?, hshared]
      rw [firstClash, howner]
      exact ih _ fun other hother => h other (List.mem_cons_of_mem _ hother)

theorem describe_methods
    {capability : Capability} {handler : Handler} {selector : Option DocumentSelector}
    (h : ∀ id method, Descriptor.ofBinding id ⟨method, some capability, handler⟩ =
      .ok ⟨id, method, some capability, handler, selector⟩)
    (next : Nat) (methods : List String) :
    describe next (methods.map fun method => ⟨method, some capability, handler⟩) =
      (.ok ((methods.zipIdx next).map fun (method, id) =>
        ⟨id, method, some capability, handler, selector⟩), next + methods.length) := by
  induction methods generalizing next with
  | nil => rfl
  | cons method rest ih =>
      simp only [List.map_cons, describe, h, ih, List.zipIdx_cons, Except.map, List.length_cons]
      congr 1
      omega

/-- A handler of one shared capability whose selector compiles is always added. -/
theorem add_shared
    (registry : Registry) {capability : Capability} {handler : Handler}
    {selector : Option DocumentSelector}
    (hdeclared : handler.capabilities = [capability]) (hshared : capability.ownership = .multi)
    (h : ∀ id method, Descriptor.ofBinding id ⟨method, some capability, handler⟩ =
      .ok ⟨id, method, some capability, handler, selector⟩) :
    registry.add [handler] =
      (.ok ((Descriptor.series registry.nextId capability handler selector).map Descriptor.id),
        registry.appended (Descriptor.series registry.nextId capability handler selector)) := by
  have hrow : (Capability.all.filter fun other => other ∈ handler.capabilities) =
      [capability] := by
    rw [hdeclared]
    cases capability <;> rfl
  have hbindings : bindingsOf [handler] =
      capability.methods.map fun method => ⟨method, some capability, handler⟩ := by
    simp [bindingsOf, List.eraseDups_cons, Binding.ofHandler, hrow]
  have hdescribe := describe_methods h registry.nextId capability.methods
  rw [add, hbindings]
  apply insert_of_describe
  · rw [hdescribe]
    simp [Descriptor.series]
  · apply firstClash_eq_none_of_shared
    intro descriptor hmem
    obtain ⟨entry, -, rfl⟩ := List.mem_map.mp hmem
    simp [Descriptor.singleOwner, hshared]

end Registry

/-! ## The built-in handlers -/

namespace Desk

/-- A new handler of one shared capability whose selector compiles is always added. -/
theorem add_build_shared
    (desk : Desk) (kind : HandlerKind) {capability : Capability}
    {selector : Option DocumentSelector}
    (hdeclared : (desk.build kind).1.capabilities = [capability])
    (hshared : capability.ownership = .multi)
    (h : ∀ id method, Descriptor.ofBinding id ⟨method, some capability, (desk.build kind).1⟩ =
      .ok ⟨id, method, some capability, (desk.build kind).1, selector⟩) :
    ∃ ids registry,
      (desk.build kind).2.add [(desk.build kind).1] =
        (.ok ids, { desk with registry := registry }) ∧
      registry.nextSerial = desk.registry.nextSerial + 1 ∧
      registry.nextId = desk.registry.nextId + capability.methods.length ∧
      registry.descriptors = desk.registry.descriptors ++
        Descriptor.series desk.registry.nextId capability (desk.build kind).1 selector := by
  let series := Descriptor.series desk.registry.nextId capability (desk.build kind).1 selector
  have hadd : (desk.build kind).2.registry.add [(desk.build kind).1] =
      (.ok (series.map Descriptor.id), (desk.build kind).2.registry.appended series) :=
    Registry.add_shared _ hdeclared hshared h
  have hlength : series.length = capability.methods.length := by
    simp [series, Descriptor.series]
  refine ⟨series.map Descriptor.id, (desk.build kind).2.registry.appended series, ?_, rfl, ?_, rfl⟩
  · simp only [add, settle, hadd]
    rfl
  · rw [← hlength]
    rfl

/-- The descriptors of the built-in handlers that a desk adds for some settings, of
which the selector is compiled. -/
def builtinDescriptors (desk : Desk) (config : ServerConfig) (selector : DocumentSelector)
    (sharesDocuments : Bool) : List Descriptor :=
  let next := desk.registry.nextId
  let serial := desk.registry.nextSerial
  Descriptor.series next .textDocumentSync ⟨serial, .documentSync config.documentSelector⟩
      (some selector) ++
    [⟨next + Capability.textDocumentSync.methods.length, "workspace/executeCommand",
      some .executeCommand,
      ⟨serial + 1, .executeCommand (.ofCommands config.commands sharesDocuments)⟩, none⟩]

/-- The built-in handlers are always added, if their selector compiles. -/
theorem addBuiltin_eq
    (desk : Desk) {config : ServerConfig} {selector : DocumentSelector}
    (hselector : DocumentSelector.ofSpecs config.documentSelector = .ok selector)
    (sharesDocuments : Bool) :
    ∃ registry,
      desk.addBuiltin config sharesDocuments = (.ok (), { desk with registry := registry }) ∧
      registry.descriptors = desk.registry.descriptors ++
        desk.builtinDescriptors config selector sharesDocuments := by
  let syncKind : HandlerKind := .documentSync config.documentSelector
  let commandKind : HandlerKind := .executeCommand (.ofCommands config.commands sharesDocuments)
  have hsync : ∀ id method,
      Descriptor.ofBinding id ⟨method, some .textDocumentSync, (desk.build syncKind).1⟩ =
        .ok ⟨id, method, some .textDocumentSync, (desk.build syncKind).1, some selector⟩ := by
    intro id method
    have hscoped : Capability.textDocumentSync.documentScoped = true := by decide
    have hspecs : (desk.build syncKind).1.selector = some config.documentSelector := rfl
    simp only [Descriptor.ofBinding, Binding.isScoped, hscoped, hspecs, hselector, Except.map]
  obtain ⟨ids, first, hfirst, hserial, hnext, hdescriptors⟩ :=
    desk.add_build_shared syncKind rfl rfl hsync
  let between : Desk := { desk with registry := first }
  have hcommands : ∀ id method, Descriptor.ofBinding id
      ⟨method, some .executeCommand, (between.build commandKind).1⟩ =
        .ok ⟨id, method, some .executeCommand, (between.build commandKind).1, none⟩ :=
    fun _ _ => rfl
  obtain ⟨commandIds, second, hsecond, -, -, hmore⟩ :=
    between.add_build_shared commandKind rfl rfl hcommands
  refine ⟨second, ?_, ?_⟩
  · unfold addBuiltin
    simp only
    rw [hfirst]
    simp only
    rw [hsecond]
  · have hbuilt : (between.build commandKind).1 =
        ⟨desk.registry.nextSerial + 1, commandKind⟩ := by
      rw [← hserial]
      rfl
    have hbetween : between.registry.nextId =
        desk.registry.nextId + Capability.textDocumentSync.methods.length := hnext
    have hlisted : between.registry.descriptors = _ := hdescriptors
    rw [hmore, hlisted, List.append_assoc, hbuilt, hbetween]
    rfl

/-- Every client is welcomed, whatever it sends and whatever is registered: the list of
descriptors stays as it is, and the descriptors of the built-in handlers follow it. -/
theorem welcome_appends_builtin (desk : Desk) (params : Json) (sharesDocuments : Bool) :
    let config := ServerConfig.ofInitializeParams params
    let client := ClientTree.ofInitializeParams params
    ∃ selector registry,
      DocumentSelector.ofSpecs config.documentSelector = .ok selector ∧
      desk.welcome params sharesDocuments =
        (.ok ⟨registry.snapshot.serverCapabilities client, config.serverName, client⟩,
          { desk with registry := registry }) ∧
      registry.descriptors =
        desk.registry.descriptors ++ desk.builtinDescriptors config selector sharesDocuments := by
  intro config client
  obtain ⟨selector, hselector⟩ := ServerConfig.exists_ofSpecs_ofInitializeParams params
  obtain ⟨registry, hadded, hdescriptors⟩ := desk.addBuiltin_eq hselector sharesDocuments
  refine ⟨selector, registry, hselector, ?_, hdescriptors⟩
  simp only [welcome, hadded, config, client]

end Desk

end Switchboard
