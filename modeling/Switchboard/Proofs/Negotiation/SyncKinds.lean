import Mathlib.Data.List.Basic
import Mathlib.Tactic.Common
import Switchboard.Proofs.Negotiation.Independence
import Switchboard.Proofs.Negotiation.Repeats
import Switchboard.Proofs.Options.Sync

/-!
# The kind of change over either channel

A client learns which edits a server wants from the advertisement or from the registration
for changes.  Each computes the kind of change by itself and has a default of its own for
options that name none, so a handler may ask different clients for different edits.
-/

namespace Switchboard

namespace Options

/-! ## Sync options of one handler -/

/-- A kind of change that the protocol has: none, full or incremental. -/
def IsSyncKind (kind : Int) : Prop := 0 ≤ kind ∧ kind ≤ 2

instance (kind : Int) : Decidable (IsSyncKind kind) :=
  inferInstanceAs (Decidable (0 ≤ kind ∧ kind ≤ 2))

/-- What a handler may offer as sync options: nothing, a kind of change, or an object that
names a kind of change or none. -/
inductive SyncOffer : Option Json → Prop where
  | nothing : SyncOffer none
  | bare {kind : Int} (known : IsSyncKind kind) : SyncOffer (some (.integer kind))
  | named {members : Table Json} {kind : Int}
      (given : Table.find? members "change" = some (.integer kind)) (known : IsSyncKind kind) :
      SyncOffer (some (.object members))
  | unnamed {members : Table Json} (missing : Table.find? members "change" = none) :
      SyncOffer (some (.object members))

/-- The options are an object that names no kind of change. -/
def LeavesKindOpen (offer : Option Json) : Prop :=
  ∃ members, offer = some (.object members) ∧ Table.find? members "change" = none

/-- The kinds of change that are advertised and registered for the options of a handler. -/
inductive KindsFor : Option Json → Int → Int → Prop where
  | nothing : KindsFor none 1 1
  | bare (kind : Int) : KindsFor (some (.integer kind)) kind kind
  | named {members : Table Json} {kind : Int}
      (given : Table.find? members "change" = some (.integer kind)) :
      KindsFor (some (.object members)) kind kind
  | unnamed {members : Table Json} (missing : Table.find? members "change" = none) :
      KindsFor (some (.object members)) 0 1

/-- The two kinds differ for nothing but options that leave the kind open. -/
theorem KindsFor.eq_iff
    {offer : Option Json} {advertised registered : Int} (h : KindsFor offer advertised registered) :
    advertised = registered ↔ ¬LeavesKindOpen offer := by
  cases h with
  | nothing => simp [LeavesKindOpen]
  | bare kind => simp [LeavesKindOpen]
  | named given => simp [LeavesKindOpen, given]
  | unnamed missing => simp [LeavesKindOpen, missing]

/-- The kind of change that is advertised for the options of the only handler. -/
def soleAdvertisedKind (offer : Option Json) : Int :=
  (offer.map fun option => max 0 ((kind? option).getD 0)).getD 1

/-- The kind of change that is registered for the options of a handler. -/
def soleRegisteredKind (offer : Option Json) : Int := (offer.bind kind?).getD 1

/-- Options that name a kind of change are announced with it over both channels. -/
theorem IsSyncKind.sole_eq
    {option : Json} {kind : Int} (h : IsSyncKind kind)
    (hkind : kind? option = (Json.integer kind).integer64?) :
    soleAdvertisedKind (some option) = kind ∧ soleRegisteredKind (some option) = kind := by
  obtain ⟨hlow, hhigh⟩ := h
  have hread : kind? option = some kind := by
    rw [hkind]
    exact (integer64?_eq_some_iff _ kind).mpr ⟨rfl, by omega, by omega⟩
  simp [soleAdvertisedKind, soleRegisteredKind, hread, hlow]

/-- Options that name none are announced with the defaults of the channels. -/
theorem sole_eq_of_unnamed {members : Table Json} (h : Table.find? members "change" = none) :
    soleAdvertisedKind (some (.object members)) = 0 ∧
      soleRegisteredKind (some (.object members)) = 1 := by
  have hread : kind? (.object members) = none := by
    simp [kind?, Json.isObject, h]
  simp [soleAdvertisedKind, soleRegisteredKind, hread]

namespace SyncOffer

variable {offer : Option Json}

theorem kindsFor (h : SyncOffer offer) :
    KindsFor offer (soleAdvertisedKind offer) (soleRegisteredKind offer) ∧
      IsSyncKind (soleAdvertisedKind offer) := by
  cases h with
  | nothing => exact ⟨.nothing, by decide⟩
  | @bare kind known =>
      have hkind : kind? (.integer kind) = (Json.integer kind).integer64? := rfl
      obtain ⟨hadvertised, hregistered⟩ := known.sole_eq hkind
      rw [hadvertised, hregistered]
      exact ⟨.bare _, known⟩
  | @named members kind given known =>
      have hkind : kind? (.object members) = (Json.integer kind).integer64? := by
        simp [kind?, Json.isObject, given]
      obtain ⟨hadvertised, hregistered⟩ := known.sole_eq hkind
      rw [hadvertised, hregistered]
      exact ⟨.named given, known⟩
  | unnamed missing =>
      obtain ⟨hadvertised, hregistered⟩ := sole_eq_of_unnamed missing
      rw [hadvertised, hregistered]
      exact ⟨.unnamed missing, by decide⟩

end SyncOffer

/-! ## Written totals -/

namespace SyncTotal

/-- The fields of advertised sync options, each with the shape of its values. -/
def shapes : List (String × Json.Shape) :=
  [("openClose", .flag), ("change", .integer32), ("willSave", .flag),
    ("willSaveWaitUntil", .flag),
    ("save", .either [.flag, .struct [Json.Shape.free "includeText" .flag]])]

variable (total : SyncTotal)

theorem read_member?
    (hlow : -2147483648 ≤ total.change) (hhigh : total.change ≤ 2147483647) :
    ∀ field ∈ shapes, Json.optional field.2.read (total.toJson.member? field.1) =
      some (total.toJson.member? field.1) := by
  simp only [shapes, List.forall_mem_cons, member?_openClose, member?_change, member?_willSave,
    member?_willSaveWaitUntil, member?_save]
  refine ⟨?_, ?_, ?_, ?_, ?_, by simp⟩
  · simp [Json.optional, Json.Shape.read, Json.bool?]
  · simp [Json.optional, Json.Shape.read, Json.integer32?, Json.integerWithin?, hlow, hhigh]
  · split <;> simp [Json.optional, Json.Shape.read, Json.bool?]
  · split <;> simp [Json.optional, Json.Shape.read, Json.bool?]
  · rcases total.save with _ | _ | _ <;> rfl

theorem filterMap_shapes :
    (shapes.filterMap fun field =>
      (total.toJson.member? field.1).map fun value => (field.1, value)) =
      total.fields.filterMap fun field => field.2.map (Prod.mk field.1) := by
  have hfields : total.fields = shapes.map fun field => (field.1, total.toJson.member? field.1) := by
    simp only [shapes, List.map_cons, List.map_nil, member?_openClose, member?_change,
      member?_willSave, member?_willSaveWaitUntil, member?_save]
    rfl
  rw [hfields, List.filterMap_map]
  rfl

/-- A total is advertised as it is written. -/
theorem advertised_toJson
    (hlow : -2147483648 ≤ total.change) (hhigh : total.change ≤ 2147483647) :
    advertised .textDocumentSync total.toJson = some total.toJson := by
  have hsolid : ∀ field ∈ shapes, total.toJson.member? field.1 ≠ some .null := by
    simp only [shapes, List.forall_mem_cons, member?_openClose, member?_change, member?_willSave,
      member?_willSaveWaitUntil, member?_save]
    refine ⟨by simp, by simp, ?_, ?_, ?_, by simp⟩
    · split <;> simp
    · split <;> simp
    · rcases total.save with _ | _ <;> simp
  have hnamed : (Json.Shape.struct (shapes.map fun field =>
      Json.Shape.free field.1 field.2)).read total.toJson = some total.toJson := by
    conv_rhs => rw [toJson_eq_fields, ← filterMap_shapes]
    exact congrArg (Option.map Json.ofMembers)
      (Json.Shape.readNamed_free_eq_some (total.read_member? hlow hhigh) hsolid)
  have hbare : Json.Shape.integer32.read total.toJson = none := rfl
  have hshape : advertisedShape .textDocumentSync = some (.either [.integer32,
      .struct (shapes.map fun field => Json.Shape.free field.1 field.2)]) := rfl
  rw [advertised, hshape, Option.bind_some, Json.Shape.read, Json.Shape.readFirst, hbare,
    Json.Shape.readFirst, hnamed]

end SyncTotal

theorem integer64?_soleRegisteredKind (offer : Option Json) :
    (Json.integer (soleRegisteredKind offer)).integer64? = some (soleRegisteredKind offer) := by
  rw [soleRegisteredKind]
  cases hkind : offer.bind kind? with
  | none => rfl
  | some kind =>
      obtain ⟨option, -, hoption⟩ := Option.bind_eq_some_iff.mp hkind
      obtain ⟨-, hfits⟩ := (kind?_eq_some_iff option kind).mp hoption
      exact (integer64?_eq_some_iff _ kind).mpr ⟨rfl, hfits⟩

/-- The value preferred for the options of the only handler. -/
theorem preferred_textDocumentSync
    {handlers : List Handler} {handler : Handler} (hsole : handlers.eraseDups = [handler]) :
    preferred .textDocumentSync handlers =
      some (match handler.options .textDocumentSync with
        | none => .integer 1
        | some option => (SyncTotal.add {} option).toJson) := by
  have howner : Capability.textDocumentSync.ownership = .multi := rfl
  simp only [preferred, howner, hsole, List.filterMap_cons, List.filterMap_nil]
  cases handler.options .textDocumentSync with
  | none => rfl
  | some option => rfl

/-- What is advertised for the options of the only handler has their kind of change. -/
theorem exists_advertised_sole
    {handlers : List Handler} {handler : Handler} (hsole : handlers.eraseDups = [handler])
    (hoffer : SyncOffer (handler.options .textDocumentSync)) :
    ∃ value, preferred .textDocumentSync handlers = some value ∧ value ≠ .null ∧
      ∃ result, advertised .textDocumentSync value = some result ∧
        kind? result = some (soleAdvertisedKind (handler.options .textDocumentSync)) := by
  refine ⟨_, preferred_textDocumentSync hsole, ?_⟩
  obtain ⟨hlow, hhigh⟩ := hoffer.kindsFor.2
  cases hoption : handler.options .textDocumentSync with
  | none => exact ⟨by simp, .integer 1, rfl, rfl⟩
  | some option =>
      rw [hoption] at hlow hhigh
      have hchange : (SyncTotal.add {} option).change = soleAdvertisedKind (some option) :=
        SyncTotal.change_add {} option le_rfl
      have hkind : kind? (SyncTotal.add {} option).toJson =
          some (SyncTotal.add {} option).change := by
        refine (kind?_eq_some_iff _ _).mpr ⟨Or.inr (SyncTotal.member?_change _), ?_, ?_⟩ <;> omega
      refine ⟨by simp [SyncTotal.toJson, Json.ofMembers], _,
        SyncTotal.advertised_toJson _ (by omega) (by omega), ?_⟩
      rw [hkind, hchange]

end Options

namespace Snapshot

/-- The kind of change that is advertised to a client. -/
def advertisedKind? (snapshot : Snapshot) (tree : ClientTree) : Option Int :=
  ((snapshot.serverCapabilities tree).member? "textDocumentSync").bind Options.kind?

/-- The kinds of change in the registrations for changes. -/
def registeredKinds (snapshot : Snapshot) (tree : ClientTree) : List (Option Int) :=
  (snapshot.registrationsOf tree "textDocument/didChange").map fun made =>
    (made.options.bind fun options => options.member? "syncKind").bind Json.integer64?

variable {snapshot : Snapshot} {tree : ClientTree} {handler : Handler}

/-- A capability with a single handler instance has a single leader. -/
theorem exists_leader_of_sole
    {capability : Capability}
    (hsole : ∀ other, other ∈ snapshot.handlersFor capability ↔ other = handler) :
    (snapshot.handlersFor capability).eraseDups = [handler] ∧
      ∃ leader ∈ snapshot.forCapability capability, leader.handler = handler ∧
        onePerHandler (snapshot.forCapability capability) = [leader] := by
  have hsingle : (snapshot.handlersFor capability).eraseDups = [handler] := by
    refine List.perm_singleton.mp ((List.perm_ext_iff_of_nodup
      (snapshot.nodup_eraseDups_handlersFor capability) (List.nodup_singleton handler)).mpr ?_)
    intro other
    rw [List.mem_eraseDups, hsole, List.mem_singleton]
  have hhandlers : (onePerHandler (snapshot.forCapability capability)).map Descriptor.handler =
      [handler] := (map_handler_onePerHandler _).trans hsingle
  obtain ⟨leader, hleader, hhandler⟩ := List.map_eq_singleton_iff.mp hhandlers
  exact ⟨hsingle, leader, mem_of_mem_onePerHandler (by simp [hleader]), hhandler, hleader⟩

theorem advertisedKind?_of_sole
    (hsole : ∀ other, other ∈ snapshot.handlersFor .textDocumentSync ↔ other = handler)
    (hoffer : Options.SyncOffer (handler.options .textDocumentSync))
    (hinitial : tree.channel .textDocumentSync = .initial) :
    snapshot.advertisedKind? tree =
      some (Options.soleAdvertisedKind (handler.options .textDocumentSync)) := by
  obtain ⟨hsingle, -⟩ := exists_leader_of_sole hsole
  obtain ⟨value, hvalue, hsolid, result, hresult, hkind⟩ :=
    Options.exists_advertised_sole hsingle hoffer
  have hadvertised : snapshot.advertisement tree .textDocumentSync = some result := by
    refine advertisement_eq_some_iff.mpr ⟨ClientTree.dynamicSupport_isStatic_iff.mpr hinitial, ?_,
      value, hvalue, hsolid, hresult⟩
    exact handlersFor_ne_nil_iff.mp (List.ne_nil_of_mem ((hsole handler).mpr rfl))
  have hfield : Capability.textDocumentSync.serverField = some "textDocumentSync" := rfl
  rw [advertisedKind?, serverCapabilities_member? tree hfield, hadvertised]
  exact hkind

theorem syncKind_eq (descriptor : Descriptor) :
    syncKind descriptor = Options.soleRegisteredKind descriptor.options := by
  rw [syncKind, Options.soleRegisteredKind]
  rcases descriptor.options with _ | ⟨_ | _ | _ | _ | _ | _ | _⟩ <;> rfl

/-- The registration for changes tells the kind of change of its descriptor. -/
theorem options_registration_didChange (capability : Capability) (descriptor : Descriptor) :
    ((registration capability descriptor "textDocument/didChange").options.bind
        fun options => options.member? "syncKind") =
      some (.integer (Options.soleRegisteredKind descriptor.options)) := by
  have hfind := Table.find?_insert_self "syncKind" (Json.integer (syncKind descriptor))
    (registrationOptions capability descriptor)
  rw [syncKind_eq] at hfind
  simp only [registration, if_true, syncKind_eq]
  split
  next hempty =>
    rw [List.isEmpty_iff.mp hempty] at hfind
    cases hfind
  next => exact hfind

theorem registeredKinds_of_sole
    (hsole : ∀ other, other ∈ snapshot.handlersFor .textDocumentSync ↔ other = handler)
    (hdeferred : tree.channel .textDocumentSync = .deferred) :
    snapshot.registeredKinds tree =
      [some (Options.soleRegisteredKind (handler.options .textDocumentSync))] := by
  obtain ⟨-, leader, hmem, rfl, hleader⟩ := exists_leader_of_sole hsole
  have hmethod : "textDocument/didChange" ∈ Capability.textDocumentSync.registrationMethods := by
    decide +kernel
  rw [registeredKinds, registrationsOf_eq_map hmethod, if_pos hdeferred, hleader, List.map_singleton,
    List.map_singleton, options_registration_didChange, Option.bind_some,
    Options.integer64?_soleRegisteredKind, options_of_mem_forCapability hmem]

end Snapshot

/-- The only sync handler is announced with one kind of change over both channels, unless
its options are an object that names none: such options are advertised without changes and
registered with full ones. -/
theorem sync_kinds_agree_iff
    (snapshot : Snapshot) (handler : Handler)
    (hsole : ∀ other, other ∈ snapshot.handlersFor .textDocumentSync ↔ other = handler)
    (hoffer : Options.SyncOffer (handler.options .textDocumentSync))
    (early late : ClientTree)
    (hinitial : early.channel .textDocumentSync = .initial)
    (hdeferred : late.channel .textDocumentSync = .deferred) :
    ∃ advertised registered,
      Options.KindsFor (handler.options .textDocumentSync) advertised registered ∧
      snapshot.advertisedKind? early = some advertised ∧
      snapshot.registeredKinds late = [some registered] ∧
      (advertised = registered ↔ ¬Options.LeavesKindOpen (handler.options .textDocumentSync)) := by
  have hkinds := hoffer.kindsFor.1
  have hadvertised := Snapshot.advertisedKind?_of_sole hsole hoffer hinitial
  have hregistered := Snapshot.registeredKinds_of_sole hsole hdeferred
  exact ⟨_, _, hkinds, hadvertised, hregistered, hkinds.eq_iff⟩

/-- A client that supports document synchronization from the start. -/
def earlySyncClient : ClientTree :=
  ⟨.ofMembers [("textDocument", .ofMembers [("synchronization", .ofMembers [])])]⟩

/-- A client that registers document synchronization dynamically. -/
def lateSyncClient : ClientTree :=
  ⟨.ofMembers [("textDocument", .ofMembers [("synchronization",
    .ofMembers [("dynamicRegistration", .bool true)])])]⟩

/-- A handler of document synchronization with the given options. -/
def syncHandler (options : Json) : Handler :=
  ⟨0, .application ⟨"sync", "Sync", "Sync", [.textDocumentSync], none,
    [(.textDocumentSync, options)]⟩⟩

/-- What a registry lists that has nothing but this handler. -/
def syncSnapshot (options : Json) : Snapshot :=
  (({} : Registry).add [syncHandler options]).2.snapshot

theorem mem_handlersFor_syncSnapshot (options : Json) (other : Handler) :
    other ∈ (syncSnapshot options).handlersFor .textDocumentSync ↔ other = syncHandler options := by
  have hhandlers : (syncSnapshot options).handlersFor .textDocumentSync =
      List.replicate 6 (syncHandler options) := rfl
  simp [hhandlers]

/-- Options that name a kind of change beside a flag. -/
def incrementalSync : Json := .object [("change", .integer 2), ("openClose", .bool true)]

/-- Options with the flag alone. -/
def flagSync : Json := .object [("openClose", .bool true)]

theorem incrementalSync_kinds :
    (∀ other, other ∈ (syncSnapshot incrementalSync).handlersFor .textDocumentSync ↔
      other = syncHandler incrementalSync) ∧
    ∃ kind, (syncSnapshot incrementalSync).advertisedKind? earlySyncClient = some kind ∧
      (syncSnapshot incrementalSync).registeredKinds lateSyncClient = [some kind] := by
  have hsole := mem_handlersFor_syncSnapshot incrementalSync
  obtain ⟨advertised, registered, -, hadvertised, hregistered, hiff⟩ :=
    sync_kinds_agree_iff (syncSnapshot incrementalSync) (syncHandler incrementalSync) hsole
      (.named rfl (by decide : Options.IsSyncKind 2)) earlySyncClient lateSyncClient
      (by decide +kernel) (by decide +kernel)
  have hnamed : ¬Options.LeavesKindOpen
      ((syncHandler incrementalSync).options .textDocumentSync) := by
    rintro ⟨members, hmembers, hmissing⟩
    cases hmembers
    cases hmissing
  exact ⟨hsole, advertised, hadvertised, hiff.mpr hnamed ▸ hregistered⟩

/-- With the flag alone, one client is to send no changes and the other full ones. -/
theorem flagSync_kinds :
    (∀ other, other ∈ (syncSnapshot flagSync).handlersFor .textDocumentSync ↔
      other = syncHandler flagSync) ∧
    Options.SyncOffer ((syncHandler flagSync).options .textDocumentSync) ∧
    earlySyncClient.channel .textDocumentSync = .initial ∧
    lateSyncClient.channel .textDocumentSync = .deferred ∧
    (syncSnapshot flagSync).advertisedKind? earlySyncClient = some 0 ∧
    (syncSnapshot flagSync).registeredKinds lateSyncClient = [some 1] :=
  ⟨mem_handlersFor_syncSnapshot flagSync, .unnamed rfl, by decide +kernel, by decide +kernel,
    by decide +kernel, by decide +kernel⟩

end Switchboard
