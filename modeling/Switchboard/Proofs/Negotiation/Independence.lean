import Mathlib.Data.List.Basic
import Mathlib.Tactic.Common
import Switchboard.Proofs.Json.Record
import Switchboard.Proofs.Negotiation.Advertisement

/-!
# Every field of the advertisement by itself

The advertisement is put together from one proposal for each capability and then
read as a whole.  A proposal that cannot be read by itself is left out, and one
that can is read in the same way next to all others.  So the reading of the whole
never fails, and what stands under a field depends on the client's node for one
capability and on the handlers of that capability, whatever else is registered or
declared.
-/

namespace Switchboard

/-! ## The advertisement as a record -/

namespace Options

variable {capability : Capability} {field : String}

theorem exists_advertisedShape (hfield : capability.serverField = some field) :
    ∃ shape, advertisedShape capability = some shape := by
  have htable : ∀ capability ∈ Capability.all, capability.serverField.isSome →
      (advertisedShape capability).isSome := by
    decide +kernel
  have hsome := htable capability (Capability.mem_all capability) (by simp [hfield])
  exact Option.isSome_iff_exists.mp hsome

/-- What is made from the names of the fields comes in the order of the capabilities. -/
theorem filterMap_advertisementFields {α : Type} (make : String → Option α) :
    (advertisementFields.filterMap fun entry => make entry.1) =
      Capability.all.filterMap fun capability => capability.serverField.bind make := by
  rw [advertisementFields, List.filterMap_filterMap]
  congr 1
  funext capability
  cases hfield : capability.serverField with
  | none => rfl
  | some field =>
      obtain ⟨shape, hshape⟩ := exists_advertisedShape hfield
      rw [hshape]
      rfl

theorem advertisedShape_solid :
    ∀ capability ∈ Capability.all, ∀ shape ∈ advertisedShape capability, shape.solid = true := by
  decide +kernel

theorem advertised_ne_null {value result : Json}
    (h : advertised capability value = some result) : result ≠ .null := by
  obtain ⟨shape, hshape, hread⟩ := Option.bind_eq_some_iff.mp h
  have hsolid := advertisedShape_solid capability (Capability.mem_all capability) shape hshape
  exact Json.Shape.read_ne_null hsolid hread

theorem read_advertisementShape_isSome {members : List (String × Json)} :
    (advertisementShape.read (.object members)).isSome ↔
      ∀ entry ∈ advertisementFields,
        (Json.optional entry.2.read (Table.find? members entry.1)).isSome := by
  rw [advertisementShape, Json.Shape.struct, Json.Shape.read, Option.isSome_map]
  exact Json.Shape.readNamed_free_isSome

/-- An advertisement with a single field can be read if the value is null or can be
advertised for the capability of the field. -/
theorem admits_single_iff (hfield : capability.serverField = some field) (value : Json) :
    advertisementShape.admits (.ofMembers [(field, value)]) = true ↔
      value = .null ∨ (advertised capability value).isSome := by
  obtain ⟨shape, hshape⟩ := exists_advertisedShape hfield
  have hmem : (field, shape) ∈ advertisementFields :=
    mem_advertisementFields.mpr ⟨capability, hfield, hshape⟩
  have hown : (Json.optional shape.read (some value)).isSome ↔
      value = .null ∨ (advertised capability value).isSome := by
    rw [advertised, hshape, Option.bind_some]
    cases value <;> simp [Json.optional]
  rw [Json.Shape.admits, Json.ofMembers, read_advertisementShape_isSome, ← hown]
  constructor
  · intro hall
    simpa [Table.ofList, Table.insert, Table.find?] using hall _ hmem
  · rintro hreads ⟨other, otherShape⟩ hother
    by_cases hsame : other = field
    · obtain ⟨owner, howner, hownerShape⟩ := mem_advertisementFields.mp hother
      have heq : owner = capability :=
        Capability.eq_of_serverField_eq owner (Capability.mem_all owner) capability
          (Capability.mem_all capability) (by simp [howner]) (by rw [howner, hsame, hfield])
      have hshapes : otherShape = shape :=
        Option.some.inj (hownerShape.symm.trans (heq ▸ hshape))
      subst hsame hshapes
      simpa [Table.ofList, Table.insert, Table.find?] using hreads
    · simp [Table.ofList, Table.insert, Table.find?, hsame, Json.optional]

/-- The value to be advertised for a capability that the given handlers have, in the
order of their registration: the options of all instances combined when several may own
the capability, else those of the first instance, else the default. -/
def preferred (capability : Capability) (handlers : List Handler) : Option Json :=
  let own (handler : Handler) := handler.options capability
  let offered := match capability.ownership with
    | .multi => reduce capability (handlers.eraseDups.filterMap own)
    | .single => handlers.head?.bind own
  offered.or capability.defaultAdvertisement

end Options

namespace Snapshot

variable {snapshot : Snapshot} {tree : ClientTree} {capability : Capability} {field : String}

/-! ## The reading of the whole -/

theorem find?_proposals (hfield : capability.serverField = some field) :
    Table.find? (Table.ofList (snapshot.proposals tree)) field =
      snapshot.proposed tree capability field := by
  have hentry : ∀ (other : Capability) (made : String × Json),
      (other.serverField.bind fun field =>
        (snapshot.proposed tree other field).map fun value => (field, value)) = some made →
      other.serverField = some made.1 := by
    intro other made hmade
    obtain ⟨name, hname, hvalue⟩ := Option.bind_eq_some_iff.mp hmade
    obtain ⟨value, -, rfl⟩ := Option.map_eq_some_iff.mp hvalue
    exact hname
  refine (Capability.find?_fields hentry hfield).trans ?_
  rw [hfield, Option.bind_some, Option.map_map]
  simp [Function.comp_def]

/-- Read as a part of the whole, a proposal is what is advertised for its capability. -/
theorem optional_proposed
    (hfield : capability.serverField = some field) {shape : Json.Shape}
    (hshape : Options.advertisedShape capability = some shape) :
    Json.optional shape.read (snapshot.proposed tree capability field) =
      some (snapshot.advertisement tree capability) := by
  have hadvertised : ∀ value, Options.advertised capability value = shape.read value := by
    intro value
    rw [Options.advertised, hshape, Option.bind_some]
  simp only [proposed, advertisement]
  split
  next =>
    cases hchosen : snapshot.chosen (tree.dynamicSupport capability) with
    | none => rfl
    | some value =>
        have hadmits := Options.admits_single_iff hfield value
        rw [hadvertised] at hadmits
        rw [Option.filter_some]
        -- Null passes the test alone, and the reading of the whole drops it.
        split
        next hadmitted =>
          rcases hadmits.mp hadmitted with rfl | hreads
          · rfl
          · obtain ⟨result, hresult⟩ := Option.isSome_iff_exists.mp hreads
            cases value <;> simp [Json.optional, hadvertised, hresult]
        next hrefused =>
          have hunread : shape.read value = none := by
            by_contra hreads
            exact hrefused (hadmits.mpr (Or.inr (Option.isSome_iff_ne_none.mpr hreads)))
          cases value <;> simp [Json.optional, hadvertised, hunread]
  next => rfl

theorem advertisement_ne_null : snapshot.advertisement tree capability ≠ some .null := by
  intro hnull
  simp only [advertisement] at hnull
  split at hnull
  · split at hnull
    · cases hnull
    · cases hnull
    · exact Options.advertised_ne_null hnull rfl
  · cases hnull

/-- No proposal spoils the reading of the whole. -/
theorem read_proposals (snapshot : Snapshot) (tree : ClientTree) :
    Options.advertisementShape.read (.ofMembers (snapshot.proposals tree)) =
      some (snapshot.serverCapabilities tree) := by
  have hreads : ∀ entry ∈ Options.advertisementFields,
      Json.optional entry.2.read
          (Table.find? (Table.ofList (snapshot.proposals tree)) entry.1) =
        some ((snapshot.serverCapabilities tree).member? entry.1) := by
    rintro ⟨field, shape⟩ hentry
    obtain ⟨capability, hfield, hshape⟩ := Options.mem_advertisementFields.mp hentry
    rw [find?_proposals hfield, optional_proposed hfield hshape,
      serverCapabilities_member? tree hfield]
  have hsolid : ∀ entry ∈ Options.advertisementFields,
      (snapshot.serverCapabilities tree).member? entry.1 ≠ some .null := by
    rintro ⟨field, shape⟩ hentry
    obtain ⟨capability, hfield, -⟩ := Options.mem_advertisementFields.mp hentry
    rw [serverCapabilities_member? tree hfield]
    exact advertisement_ne_null
  have hentries : (Options.advertisementFields.filterMap fun entry =>
        ((snapshot.serverCapabilities tree).member? entry.1).map fun value => (entry.1, value)) =
      Capability.all.filterMap (snapshot.advertisedField tree) := by
    rw [Options.filterMap_advertisementFields fun field =>
      ((snapshot.serverCapabilities tree).member? field).map fun value => (field, value)]
    congr 1
    funext capability
    rw [advertisedField]
    cases hfield : capability.serverField with
    | none => rfl
    | some field =>
        rw [Option.bind_some, serverCapabilities_member? tree hfield]
        cases snapshot.advertisement tree capability <;> rfl
  rw [Options.advertisementShape, Json.Shape.struct, Json.ofMembers, Json.Shape.read,
    Json.Shape.readNamed_free_eq_some hreads hsolid, hentries]
  rfl

theorem assembled_eq_serverCapabilities (snapshot : Snapshot) (tree : ClientTree) :
    snapshot.assembled tree = snapshot.serverCapabilities tree := by
  rw [assembled, read_proposals, Option.getD_some]

/-! ## What a field depends on -/

/-- The handlers of the descriptors of a capability, in the order of registration. -/
def handlersFor (snapshot : Snapshot) (capability : Capability) : List Handler :=
  (snapshot.forCapability capability).map Descriptor.handler

theorem nodup_eraseDups_handlersFor (snapshot : Snapshot) (capability : Capability) :
    (snapshot.handlersFor capability).eraseDups.Nodup := by
  rw [handlersFor, ← map_handler_onePerHandler]
  exact (leads_onePerHandler _).distinct

/-- The chosen value depends on nothing but the handlers of the capability. -/
theorem chosen_eq_preferred
    (hstatic : (tree.dynamicSupport capability).isStatic = true) :
    snapshot.chosen (tree.dynamicSupport capability) =
      Options.preferred capability (snapshot.handlersFor capability) := by
  have hoffered : (onePerHandler (snapshot.forCapability capability)).filterMap
        Descriptor.options =
      (snapshot.handlersFor capability).eraseDups.filterMap fun handler =>
        handler.options capability := by
    rw [handlersFor, ← map_handler_onePerHandler, List.filterMap_map]
    apply List.filterMap_congr
    intro descriptor hdescriptor
    exact options_of_mem_forCapability (mem_of_mem_onePerHandler hdescriptor)
  have hfirst : ((onePerHandler (snapshot.forCapability capability)).head?.map
        Descriptor.options).join =
      (snapshot.handlersFor capability).head?.bind fun handler => handler.options capability := by
    rw [handlersFor]
    cases hlist : snapshot.forCapability capability with
    | nil => rfl
    | cons descriptor rest =>
        have hdescriptor : descriptor ∈ snapshot.forCapability capability := by
          rw [hlist]
          exact List.mem_cons_self
        exact options_of_mem_forCapability hdescriptor
  simp only [chosen, staticOptions, Options.preferred, ClientTree.dynamicSupport_capability,
    hstatic, StaticOptions.reduced, StaticOptions.offered, StaticOptions.first, if_true]
  cases capability.ownership with
  | multi =>
      exact congrArg
        (fun offered => (Options.reduce capability offered).or capability.defaultAdvertisement)
        hoffered
  | single => exact congrArg (fun offered => offered.or capability.defaultAdvertisement) hfirst

theorem handlersFor_ne_nil_iff :
    snapshot.handlersFor capability ≠ [] ↔
      ∃ descriptor ∈ snapshot.descriptors, descriptor.capability = some capability := by
  rw [← containsCapability_iff]
  simp [handlersFor, containsCapability]

theorem advertisement_eq_some_iff {result : Json} :
    snapshot.advertisement tree capability = some result ↔
      (tree.dynamicSupport capability).isStatic = true ∧
      (∃ descriptor ∈ snapshot.descriptors, descriptor.capability = some capability) ∧
      ∃ value, Options.preferred capability (snapshot.handlersFor capability) = some value ∧
        value ≠ .null ∧ Options.advertised capability value = some result := by
  rw [← containsCapability_iff]
  by_cases hstatic : (tree.dynamicSupport capability).isStatic = true
  · rw [← chosen_eq_preferred hstatic]
    by_cases hcontains : snapshot.containsCapability capability = true
    · have hactive : snapshot.hasStatic (tree.dynamicSupport capability) = true := by
        simp [hasStatic, hstatic, hcontains]
      simp only [advertisement, hactive, if_true]
      cases hchosen : snapshot.chosen (tree.dynamicSupport capability) with
      | none => simp
      | some value => cases value <;> simp [hstatic, hcontains]
    · simp [advertisement, hasStatic, hcontains]
  · simp [advertisement, hasStatic, hstatic]

/-- A field of the advertisement is decided by its own capability. -/
structure AdvertisesAlone (snapshot : Snapshot) (tree : ClientTree) (capability : Capability)
    (field : String) : Prop where
  /-- When the field is set, and to what. -/
  decided : ∀ result, (snapshot.serverCapabilities tree).member? field = some result ↔
    (tree.dynamicSupport capability).isStatic = true ∧
    (∃ descriptor ∈ snapshot.descriptors, descriptor.capability = some capability) ∧
    ∃ value, Options.preferred capability (snapshot.handlersFor capability) = some value ∧
      value ≠ .null ∧ Options.advertised capability value = some result
  /-- Other nodes, handlers and options have no say in it. -/
  independent : ∀ (other : Snapshot) (otherTree : ClientTree),
    otherTree.node capability = tree.node capability →
      other.handlersFor capability = snapshot.handlersFor capability →
        (other.serverCapabilities otherTree).member? field =
          (snapshot.serverCapabilities tree).member? field
  /-- The proposals are always readable together. -/
  assembled : Options.advertisementShape.read (.ofMembers (snapshot.proposals tree)) =
    some (snapshot.serverCapabilities tree)

/-- Whatever is registered and whatever the client declares, no capability has a say in
what is advertised for another. -/
theorem advertised_alone (hfield : capability.serverField = some field)
    (snapshot : Snapshot) (tree : ClientTree) :
    snapshot.AdvertisesAlone tree capability field := by
  have hdecided : ∀ (other : Snapshot) (otherTree : ClientTree) (result : Json),
      (other.serverCapabilities otherTree).member? field = some result ↔
        (otherTree.dynamicSupport capability).isStatic = true ∧
        (∃ descriptor ∈ other.descriptors, descriptor.capability = some capability) ∧
        ∃ value, Options.preferred capability (other.handlersFor capability) = some value ∧
          value ≠ .null ∧ Options.advertised capability value = some result := by
    intro other otherTree result
    rw [serverCapabilities_member? otherTree hfield, advertisement_eq_some_iff]
  refine ⟨hdecided snapshot tree, ?_, read_proposals snapshot tree⟩
  intro other otherTree hnode hhandlers
  have hsupport : otherTree.dynamicSupport capability = tree.dynamicSupport capability := by
    rw [ClientTree.dynamicSupport, ClientTree.support, hnode]
    rfl
  have hregistered : (∃ descriptor ∈ other.descriptors, descriptor.capability = some capability) ↔
      ∃ descriptor ∈ snapshot.descriptors, descriptor.capability = some capability := by
    rw [← handlersFor_ne_nil_iff, ← handlersFor_ne_nil_iff, hhandlers]
  apply Option.ext
  intro result
  rw [hdecided, hdecided, hsupport, hregistered, hhandlers]

/-- A client that supports hovers and completions from the start. -/
def patientClient : ClientTree :=
  ⟨.ofMembers [("textDocument", .ofMembers [("completion", .ofMembers []),
    ("hover", .ofMembers [])])]⟩

/-- A handler that answers hovers and offers no options. -/
def plainHover : Handler :=
  ⟨0, .application ⟨"hover", "Hover", "Hover", [.hover], none, []⟩⟩

/-- A handler that answers completions and offers malformed options. -/
def brokenCompletion : Handler :=
  ⟨1, .application ⟨"completion", "Completion", "Completion", [.completion], none,
    [(.completion, .ofMembers [("triggerCharacters", .integer 5)])]⟩⟩

/-- Hovers are advertised beside the malformed options as they are without them. -/
theorem hover_beside_brokenCompletion :
    let plain := (({} : Registry).add [plainHover]).2.snapshot
    let mixed := (({} : Registry).add [plainHover, brokenCompletion]).2.snapshot
    mixed.AdvertisesAlone patientClient .hover "hoverProvider" ∧
      (mixed.serverCapabilities patientClient).member? "completionProvider" = none ∧
      (mixed.serverCapabilities patientClient).member? "hoverProvider" =
        (plain.serverCapabilities patientClient).member? "hoverProvider" ∧
      (plain.serverCapabilities patientClient).member? "hoverProvider" = some (.bool true) := by
  intro plain mixed
  have halone : mixed.AdvertisesAlone patientClient .hover "hoverProvider" :=
    advertised_alone rfl mixed patientClient
  have hsame : plain.handlersFor .hover = mixed.handlersFor .hover := by
    decide +kernel
  refine ⟨halone, by decide +kernel, ?_, by decide +kernel⟩
  exact (halone.independent plain patientClient rfl hsame).symm

end Snapshot

end Switchboard
