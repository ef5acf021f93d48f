import Mathlib.Tactic.Common
import Switchboard.Loop

/-!
# What a message does to the open documents

Handlers do not touch the open documents, so a message changes them by the notice
that it carries and in no other way.  A request carries none, and neither does a
notification whose parameters do not read.
-/

namespace Switchboard

variable {σ : Type}

/-- The document that a notice is about. -/
def SyncNotice.uri : SyncNotice → String
  | .opened uri _ _ _ | .changed uri _ _ | .closed uri | .saved uri _ | .saving uri _ => uri

/-- The notice that a message carries. -/
def Message.notice? : Message → Option SyncNotice
  | .notification method params => (SyncNotice.reader? method).bind fun read => read params
  | _ => none

namespace DocumentStore

/-- The store after a notice, if there is one. -/
def trackAny (filters : List DocumentFilter) (store : DocumentStore) :
    Option SyncNotice → DocumentStore
  | none => store
  | some notice => store.track filters notice

theorem get?_opened (store : DocumentStore) (uri : String) (document : Document) :
    get? (store.opened uri document) uri = some document :=
  Table.find?_insert_self uri document store

theorem get?_closed (store : DocumentStore) (uri : String) : get? (store.closed uri).2 uri = none :=
  Table.find?_erase_self uri store

theorem get?_changed
    (store : DocumentStore) (uri : String) (changes : List ContentChange) (version : Int) :
    get? (store.changed uri changes version).2 uri =
      (store.get? uri).map fun document => document.applyChanges changes version := by
  unfold changed
  cases hstored : store.get? uri with
  | none => exact hstored
  | some document => exact Table.find?_insert_self _ _ _

theorem get?_changed_of_ne
    (store : DocumentStore) {other uri : String} (h : uri ≠ other)
    (changes : List ContentChange) (version : Int) :
    get? (store.changed other changes version).2 uri = store.get? uri := by
  unfold changed
  split
  · rfl
  · exact Table.find?_insert_of_ne h _ _

/-- A notice about another document does not touch a document. -/
theorem get?_track_of_ne
    (filters : List DocumentFilter) (store : DocumentStore) {notice : SyncNotice} {uri : String}
    (h : notice.uri ≠ uri) :
    get? (store.track filters notice) uri = store.get? uri := by
  cases notice with
  | opened other language version text =>
      rw [track]
      split
      · exact Table.find?_insert_of_ne (Ne.symm h) _ _
      · rfl
  | changed other version changes => exact get?_changed_of_ne store (Ne.symm h) changes version
  | closed other => exact Table.find?_erase_of_ne (Ne.symm h) store
  | saved other newer =>
      cases newer with
      | none => rfl
      | some text =>
          rw [track]
          split
          · rfl
          · exact get?_changed_of_ne store (Ne.symm h) _ _
  | saving other reason => rfl

end DocumentStore

namespace SyncNotice

theorem exists_saving_of_readSaving?
    {params : Json} {notice : SyncNotice} (h : readSaving? params = some notice) :
    ∃ uri reason, notice = .saving uri reason := by
  unfold readSaving? at h
  obtain ⟨fields, -, h⟩ := Option.bind_eq_some_iff.mp h
  split at h
  · obtain ⟨uri, -, h⟩ := Option.bind_eq_some_iff.mp h
    obtain ⟨reason, -, h⟩ := Option.bind_eq_some_iff.mp h
    cases h
    exact ⟨uri, reason, rfl⟩
  · cases h

theorem reader?_of_not_tracksMethod
    {method : String} (hmethod : DocumentStore.tracksMethod method = false)
    {read : Json → Option SyncNotice} (hread : reader? method = some read) :
    read = readSaving? := by
  unfold reader? at hread
  split at hread
  case h_1 | h_2 | h_3 | h_4 => exact absurd hmethod (by decide)
  case h_5 | h_6 => exact (Option.some.inj hread).symm
  case h_7 => cases hread

end SyncNotice

/-- A method that the store does not follow carries at most the announcement of a save. -/
theorem trackAny_of_not_tracksMethod
    {method : String} (hmethod : DocumentStore.tracksMethod method = false)
    (filters : List DocumentFilter) (store : DocumentStore) (params : Json) :
    store.trackAny filters (Message.notice? (.notification method params)) = store := by
  cases hnotice : Message.notice? (.notification method params) with
  | none => rfl
  | some notice =>
      obtain ⟨read, hreader, hread⟩ := Option.bind_eq_some_iff.mp hnotice
      have hsaving := SyncNotice.reader?_of_not_tracksMethod hmethod hreader
      subst hsaving
      obtain ⟨uri, reason, rfl⟩ := SyncNotice.exists_saving_of_readSaving? hread
      rfl

theorem Host.documents_invokeAll
    (app : Application σ) (host : Host σ) (descriptors : List Descriptor) (params : Json) :
    (host.invokeAll app descriptors params).documents = host.documents := by
  induction descriptors generalizing host with
  | nil => rfl
  | cons descriptor rest ih =>
      rw [invokeAll, List.foldl_cons]
      exact (ih _).trans (documents_invoke app host descriptor params)

namespace LoopState

theorem observed_eq_trackAny (host : Host σ) (method : String) (params : Json) :
    observed host method params =
      host.documents.trackAny host.snapshot.documentFilters
        (Message.notice? (.notification method params)) := by
  unfold observed DocumentStore.observe
  cases hmethod : DocumentStore.tracksMethod method with
  | false => exact (trackAny_of_not_tracksMethod hmethod _ _ _).symm
  | true =>
      rw [if_pos rfl, Message.notice?]
      cases (SyncNotice.reader? method).bind fun read => read params <;> rfl

theorem documents_deliver (app : Application σ) (host : Host σ) (method : String) (params : Json) :
    (deliver app host method params).documents = observed host method params :=
  Host.documents_invokeAll app _ _ params

theorem documents_answer
    (app : Application σ) (state : LoopState σ) (id : RequestId) (method : String)
    (params : Json) :
    (state.answer app id method params).state.host.documents = state.host.documents := by
  have hdispatch : (dispatch app state.host id method params).2.documents =
      state.host.documents := by
    unfold dispatch
    split
    · rfl
    · exact Host.documents_invoke app _ _ params
  unfold answer
  split
  · rfl
  · split
    · rfl
    · split
      · rfl
      · exact hdispatch

/-- The open documents follow the notice that a message carries. -/
theorem documents_handle (app : Application σ) (state : LoopState σ) (message : Message) :
    (state.handle app message).state.host.documents =
      state.host.documents.trackAny state.host.snapshot.documentFilters message.notice? := by
  cases message with
  | request id method params => exact documents_answer app state id method params
  | response id result error => rfl
  | notification method params =>
      by_cases hexit : method = "exit"
      · subst hexit
        rfl
      · rw [handle, if_neg hexit]
        exact (documents_deliver app state.host method params).trans
          (observed_eq_trackAny state.host method params)

end LoopState

end Switchboard
