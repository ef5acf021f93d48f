import Mathlib.Data.List.Nodup
import Mathlib.Tactic.Common
import Switchboard.Proofs.Negotiation.Names
import Switchboard.Proofs.Registry.Ownership

/-!
# The scope told to the client

A registration of a capability that is scoped to documents carries a selector in
protocol form, and the client sends what it matches.  The registry routes by the
compiled selectors of its descriptors.  Compiling keeps the protocol form and
writing a filter keeps every field, so what the client reads compiles to the
selector that routes.  One registration speaks for all descriptors of its handler
instance: they are compiled from one selector.
-/

namespace Switchboard

/-! ## Filters in JSON -/

namespace FilterSpec

theorem optional_text (value : Option String) :
    Json.optional Json.text? (value.map Json.string) = some value := by
  cases value <;> rfl

/-- The fields of a filter in JSON, with those that have no value. -/
def fields (spec : FilterSpec) : List (String × Option Json) :=
  [("language", spec.language.map .string), ("scheme", spec.scheme.map .string),
    ("pattern", spec.pattern.map .string)]

theorem toJson_eq (spec : FilterSpec) :
    spec.toJson =
      .ofMembers (spec.fields.filterMap fun field => field.2.map (Prod.mk field.1)) := by
  obtain ⟨language, scheme, pattern⟩ := spec
  cases language <;> cases scheme <;> cases pattern <;> rfl

/-- A filter is read as it was written: the fields left out are those without a value. -/
theorem ofJson?_toJson (spec : FilterSpec) : ofJson? spec.toJson = some spec := by
  have hfind : ∀ name value, (name, value) ∈ spec.fields →
      spec.toJson.member? name = value := by
    intro name value hmem
    rw [toJson_eq]
    exact Table.find?_ofList_filterMap (by simp [fields]) hmem
  have hfields : spec.toJson.fields? ["language", "scheme", "pattern"] =
      some (["language", "scheme", "pattern"].map spec.toJson.member?) := rfl
  have hvalues : ["language", "scheme", "pattern"].map spec.toJson.member? =
      spec.fields.map Prod.snd := by
    rw [List.map_cons, List.map_cons, List.map_cons,
      hfind "language" (spec.language.map .string) (by simp [fields]),
      hfind "scheme" (spec.scheme.map .string) (by simp [fields]),
      hfind "pattern" (spec.pattern.map .string) (by simp [fields])]
    rfl
  rw [ofJson?, hfields, hvalues]
  simp [fields, optional_text]

end FilterSpec

namespace DocumentSelector

theorem listOf?_toJson (selector : DocumentSelector) :
    Json.listOf? FilterSpec.ofJson? selector.toJson = some selector.toSpecs := by
  have hread : FilterSpec.ofJson? ∘ FilterSpec.toJson = fun spec => pure spec :=
    funext FilterSpec.ofJson?_toJson
  rw [toJson, Json.listOf?, List.mapM_map, hread, List.mapM_pure, List.map_id']
  rfl

theorem toSpecs_of_ofSpecs
    {specs : List FilterSpec} {selector : DocumentSelector}
    (h : ofSpecs specs = .ok selector) : selector.toSpecs = specs := by
  induction specs generalizing selector with
  | nil =>
      cases h
      rfl
  | cons spec rest ih =>
      rw [ofSpecs] at h
      cases hfilter : DocumentFilter.ofSpec spec with
      | error error =>
          rw [hfilter] at h
          cases h
      | ok filter =>
          cases hrest : ofSpecs rest with
          | error error =>
              rw [hfilter, hrest] at h
              cases h
          | ok filters =>
              rw [hfilter, hrest] at h
              cases h
              rw [toSpecs, List.map_cons, DocumentFilter.toSpec_ofSpec hfilter]
              exact congrArg (spec :: ·) (ih hrest)

end DocumentSelector

/-! ## Scopes of descriptors -/

namespace Descriptor

variable {descriptor other : Descriptor}

/-- Where the selector of the handler applies, it is compiled. -/
theorem Described.selector_cases
    (h : descriptor.Described) (hscoped : descriptor.binding.isScoped = true) :
    (descriptor.handler.selector = none ∧ descriptor.selector = none) ∨
    ∃ specs selector, descriptor.handler.selector = some specs ∧
      DocumentSelector.ofSpecs specs = .ok selector ∧ descriptor.selector = some selector := by
  have hhandler : descriptor.binding.handler = descriptor.handler := rfl
  rw [Described, ofBinding, hscoped, hhandler] at h
  cases hselector : descriptor.handler.selector with
  | none =>
      rw [hselector] at h
      have hnone := congrArg Descriptor.selector (Except.ok.inj h)
      exact Or.inl ⟨rfl, hnone.symm⟩
  | some specs =>
      cases hspecs : DocumentSelector.ofSpecs specs with
      | error error =>
          simp only [hselector, hspecs, Except.map] at h
          cases h
      | ok selector =>
          simp only [hselector, hspecs, Except.map] at h
          have hsome := congrArg Descriptor.selector (Except.ok.inj h)
          exact Or.inr ⟨specs, selector, rfl, hspecs, hsome.symm⟩

theorem Described.selector_eq
    (h : descriptor.Described) (hother : other.Described)
    (hscoped : descriptor.binding.isScoped = true) (hscoped' : other.binding.isScoped = true)
    (hsame : other.handler = descriptor.handler) :
    other.selector = descriptor.selector := by
  rcases h.selector_cases hscoped with ⟨hnone, hselector⟩ |
    ⟨specs, selector, hspecs, hcompiled, hselector⟩
  · rcases hother.selector_cases hscoped' with ⟨-, hselector'⟩ | ⟨specs, selector, hspecs, -, -⟩
    · exact hselector'.trans hselector.symm
    · rw [hsame, hnone] at hspecs
      cases hspecs
  · rcases hother.selector_cases hscoped' with ⟨hnone, -⟩ |
      ⟨specs', selector', hspecs', hcompiled', hselector'⟩
    · rw [hsame, hspecs] at hnone
      cases hnone
    · rw [hsame, hspecs] at hspecs'
      cases hspecs'
      rw [hcompiled] at hcompiled'
      cases hcompiled'
      exact hselector'.trans hselector.symm

/-- What a client is told of the scope of a descriptor: null, where the descriptor
admits every document, or filters that compile to a selector of the documents it
admits. -/
inductive ToldAs (descriptor : Descriptor) : Json → Prop where
  | everything (all : ∀ document, descriptor.admits document = true) : ToldAs descriptor .null
  | filters {told : Json} {specs : List FilterSpec} {selector : DocumentSelector}
      (given : told ≠ .null)
      (decoded : Json.listOf? FilterSpec.ofJson? told = some specs)
      (compiled : DocumentSelector.ofSpecs specs = .ok selector)
      (same : ∀ document, selector.admits document = descriptor.admits document) :
      ToldAs descriptor told

/-- The selector of a descriptor in protocol form, null for none. -/
def scopeJson (descriptor : Descriptor) : Json :=
  (descriptor.selector.map DocumentSelector.toJson).getD .null

theorem Described.toldAs
    (h : descriptor.Described) (hscoped : descriptor.binding.isScoped = true) :
    descriptor.ToldAs descriptor.scopeJson := by
  rcases h.selector_cases hscoped with ⟨-, hselector⟩ | ⟨specs, selector, -, hcompiled, hselector⟩
  · rw [scopeJson, hselector]
    apply ToldAs.everything
    intro document
    rw [admits, hselector]
  · have hspecs := DocumentSelector.toSpecs_of_ofSpecs hcompiled
    have hjson : descriptor.scopeJson = selector.toJson := by
      rw [scopeJson, hselector]
      rfl
    rw [hjson]
    refine ToldAs.filters (by simp [DocumentSelector.toJson]) selector.listOf?_toJson
      (hspecs.symm ▸ hcompiled) ?_
    intro document
    rw [admits, hselector]

end Descriptor

/-! ## Scopes of registrations -/

namespace DynamicRegistration

/-- Whether a registration is named after a descriptor. -/
def NamedAfter (made : DynamicRegistration) (descriptor : Descriptor) : Prop :=
  made.id = toString descriptor.id ++ ":" ++ made.method

theorem NamedAfter.id_eq
    {made : DynamicRegistration} {descriptor other : Descriptor}
    (h : made.NamedAfter descriptor) (hother : made.NamedAfter other) :
    descriptor.id = other.id := by
  have hnames : registrationName descriptor.id made.method =
      registrationName other.id made.method := h.symm.trans hother
  exact (registrationName_inj hnames).1

/-- The document selector that a registration carries to the client. -/
def scope? (made : DynamicRegistration) : Option Json :=
  (made.toJson.member? "registerOptions").bind fun options => options.member? "documentSelector"

theorem toJson_registerOptions (made : DynamicRegistration) :
    made.toJson.member? "registerOptions" = made.options := by
  have hfields : made.toJson = .ofMembers
      ([("id", some (.string made.id)), ("method", some (.string made.method)),
        ("registerOptions", made.options)].filterMap fun field =>
          field.2.map (Prod.mk field.1)) := by
    rw [toJson]
    cases made.options <;> rfl
  rw [hfields, Json.ofMembers, Json.member?_object]
  exact Table.find?_ofList_filterMap (by simp) (by simp)

end DynamicRegistration

namespace Snapshot

variable {snapshot : Snapshot} {tree : ClientTree} {capability : Capability}

theorem find?_registrationOptions
    (hscoped : capability.documentScoped = true) (descriptor : Descriptor) :
    Table.find? (registrationOptions capability descriptor) "documentSelector" =
      some descriptor.scopeJson := by
  rw [registrationOptions, if_pos hscoped, Table.find?_insert_self, Descriptor.scopeJson]
  cases descriptor.selector <;> rfl

/-- The scope stands beside the handler's own options and those of the method. -/
theorem scope?_registration
    (hscoped : capability.documentScoped = true) (descriptor : Descriptor) (method : String) :
    (registration capability descriptor method).scope? = some descriptor.scopeJson := by
  have hoptions : ∀ options : Table Json,
      Table.find? options "documentSelector" = some descriptor.scopeJson →
        (if options.isEmpty then none else some (Json.object options)).bind
          (fun options => options.member? "documentSelector") = some descriptor.scopeJson := by
    intro options hfind
    cases options with
    | nil => cases hfind
    | cons entry rest => exact hfind
  rw [DynamicRegistration.scope?, DynamicRegistration.toJson_registerOptions]
  apply hoptions
  split
  · rw [Table.find?_insert_of_ne (by decide)]
    exact find?_registrationOptions hscoped descriptor
  · exact find?_registrationOptions hscoped descriptor

theorem exists_leader_of_mem_registeredFor
    {made : DynamicRegistration} (h : made ∈ snapshot.registeredFor tree capability) :
    ∃ leader ∈ snapshot.forCapability capability, ∃ method,
      made = registration capability leader method := by
  rw [registeredFor_eq_registrationsFor, registrationsFor] at h
  split at h
  · obtain ⟨leader, hleader, hmade⟩ := List.mem_flatMap.mp h
    obtain ⟨method, -, rfl⟩ := List.mem_map.mp hmade
    exact ⟨leader, mem_of_mem_onePerHandler hleader, method, rfl⟩
  · cases h

/-- A registration is named after one descriptor and tells the client the scope of every
descriptor of the same handler instance. -/
structure ToldToRoute (snapshot : Snapshot) (capability : Capability)
    (made : DynamicRegistration) (named : Descriptor) (told : Json) : Prop where
  listed : named ∈ snapshot.forCapability capability
  names : ∀ descriptor ∈ snapshot.descriptors, made.NamedAfter descriptor ↔ descriptor = named
  carried : made.scope? = some told
  scope : ∀ descriptor ∈ snapshot.forCapability capability,
    descriptor.handler = named.handler → descriptor.ToldAs told

end Snapshot

theorem Registry.Lawful.toldAs_of_forCapability
    {registry : Registry} (h : registry.Lawful) {capability : Capability}
    (hscoped : capability.documentScoped = true) {named descriptor : Descriptor}
    (hnamed : named ∈ registry.snapshot.forCapability capability)
    (hdescriptor : descriptor ∈ registry.snapshot.forCapability capability)
    (hsame : descriptor.handler = named.handler) :
    descriptor.ToldAs named.scopeJson := by
  have hdescribed : ∀ other ∈ registry.snapshot.forCapability capability,
      other.Described ∧ other.binding.isScoped = true := by
    intro other hother
    obtain ⟨hmem, hcapability⟩ := Snapshot.mem_forCapability.mp hother
    refine ⟨h.described other hmem, ?_⟩
    rw [Binding.isScoped, Descriptor.binding, hcapability]
    exact hscoped
  obtain ⟨howner, hownerScoped⟩ := hdescribed named hnamed
  obtain ⟨hother, hotherScoped⟩ := hdescribed descriptor hdescriptor
  have hselector := howner.selector_eq hother hownerScoped hotherScoped hsame
  have hjson : named.scopeJson = descriptor.scopeJson := by
    rw [Descriptor.scopeJson, Descriptor.scopeJson, hselector]
  rw [hjson]
  exact hother.toldAs hotherScoped

/-- In every reachable registry a registration of a document capability tells the client
the documents that the descriptors of its handler instance admit, and compiling a
selector loses nothing of its protocol form. -/
theorem registered_scope_routes
    (resolver : Resolver) (firstId : Nat) (operations : List Operation) (tree : ClientTree)
    (capability : Capability) (hscoped : capability.documentScoped = true) :
    let snapshot := (Operation.performAll (Desk.opened resolver firstId)
      operations).registry.snapshot
    (∀ made ∈ snapshot.registeredFor tree capability, ∃ named told,
      snapshot.ToldToRoute capability made named told) ∧
      ∀ specs selector, DocumentSelector.ofSpecs specs = .ok selector →
        selector.toSpecs = specs := by
  intro snapshot
  have hlawful := Operation.opened_performAll_lawful resolver firstId operations
  have hids : (snapshot.descriptors.map Descriptor.id).Nodup :=
    (Operation.performAll_orderly (Desk.opened_orderly resolver firstId)
      operations).increasing.imp Nat.ne_of_lt
  refine ⟨?_, fun specs selector => DocumentSelector.toSpecs_of_ofSpecs⟩
  intro made hmade
  obtain ⟨leader, hleader, method, rfl⟩ := Snapshot.exists_leader_of_mem_registeredFor hmade
  refine ⟨leader, leader.scopeJson, hleader, ?_, Snapshot.scope?_registration hscoped leader method,
    ?_⟩
  · intro descriptor hdescriptor
    constructor
    · intro hnamed
      have hleaderNamed : (Snapshot.registration capability leader method).NamedAfter leader := rfl
      exact List.inj_on_of_nodup_map hids hdescriptor
        (Snapshot.mem_forCapability.mp hleader).1 (hnamed.id_eq hleaderNamed)
    · rintro rfl
      rfl
  · intro descriptor hdescriptor hsame
    exact hlawful.toldAs_of_forCapability hscoped hleader hdescriptor hsame

/-- A handler that answers hovers in the Lean files of a folder. -/
def scopedHover : Handler :=
  ⟨0, .application ⟨"hover", "Hover", "Hover", [.hover],
    some [⟨some "lean", none, some "/work/*.lean"⟩], []⟩⟩

def dynamicHoverClient : ClientTree :=
  ⟨.ofMembers [("textDocument", .ofMembers [("hover",
    .ofMembers [("dynamicRegistration", .bool true)])])]⟩

theorem hover_scope_told :
    let snapshot := (Operation.performAll (Desk.opened Resolver.none 1)
      [.add [scopedHover] none]).registry.snapshot
    (snapshot.registeredFor dynamicHoverClient .hover).map DynamicRegistration.scope? =
      [some (.array [.ofMembers [("language", .string "lean"),
        ("pattern", .string "/work/*.lean")]])] ∧
    ∀ made ∈ snapshot.registeredFor dynamicHoverClient .hover, ∃ named told,
      snapshot.ToldToRoute .hover made named told := by
  intro snapshot
  have hscope : (snapshot.registeredFor dynamicHoverClient .hover).map
      DynamicRegistration.scope? =
        [some (.array [.ofMembers [("language", .string "lean"),
          ("pattern", .string "/work/*.lean")]])] := by
    decide +kernel
  exact ⟨hscope, (registered_scope_routes Resolver.none 1 [.add [scopedHover] none]
    dynamicHoverClient .hover (by decide)).1⟩

end Switchboard
