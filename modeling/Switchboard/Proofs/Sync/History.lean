import Mathlib.Data.List.Basic
import Mathlib.Data.List.Induction
import Mathlib.Tactic.Common
import Switchboard.Proofs.Loop.Lifecycle
import Switchboard.Proofs.Sync.Continuity

/-!
# The open documents follow their editor

What the store holds after any history is read off the notices of the history alone.
A document is open when an opening of it was let in that no closing and no other
opening that was let in has come after, and it is then what this opening gave, with all
later changes and saves of it.

An opening that is not let in leaves the store as it is.  If the document was open, it
stays open with its old text, although the editor has replaced it: the store is in step
with the most recent opening exactly as long as no opening of an open document is
refused.
-/

namespace Switchboard

variable {σ : Type}

/-! ## What a notice does to a document -/

namespace SyncNotice

/-- The text of a document after a notice: changes of the document are applied to it, and a
save that comes with a text replaces it. -/
def textAfter (uri text : String) : SyncNotice → String
  | .changed other _ changes =>
      if other = uri then
        String.ofList (changes.foldl (fun text change => change.apply text) text.toList)
      else text
  | .saved other (some newer) => if other = uri then newer else text
  | _ => text

/-- The version that a change gives to a document. -/
def versionGiven? (uri : String) : SyncNotice → Option Int
  | .changed other version _ => if other = uri then some version else none
  | _ => none

end SyncNotice

namespace Document

/-- A document after some notices: its text follows them in order, and its version is the
one that the last change gave it. -/
def edited (document : Document) (uri : String) (notices : List SyncNotice) : Document where
  text := notices.foldl (SyncNotice.textAfter uri) document.text
  version :=
    (notices.filterMap (SyncNotice.versionGiven? uri)).getLast?.getD document.version
  language := document.language

theorem edited_append_singleton
    (document : Document) (uri : String) (notices : List SyncNotice) (notice : SyncNotice) :
    document.edited uri (notices ++ [notice]) = (document.edited uri notices).edited uri [notice] := by
  cases hversion : notice.versionGiven? uri <;>
    simp [edited, List.filterMap_append, hversion]

/-- A notice about another document leaves a document as it is. -/
theorem edited_of_uri_ne
    (document : Document) {uri : String} {notice : SyncNotice} (h : notice.uri ≠ uri) :
    document.edited uri [notice] = document := by
  cases notice with
  | changed other version changes =>
      have hother : other ≠ uri := h
      simp [edited, SyncNotice.textAfter, SyncNotice.versionGiven?, hother]
  | saved other newer =>
      have hother : other ≠ uri := h
      cases newer <;> simp [edited, SyncNotice.textAfter, SyncNotice.versionGiven?, hother]
  | _ => rfl

end Document

/-! ## Histories -/

/-- A notice as it met the store: with the filters that were registered when it came. -/
structure Observation where
  filters : List DocumentFilter
  notice : SyncNotice
  deriving DecidableEq, Repr

namespace Observation

/-- The document that an opening brings, if it is an opening of the document at a URI and
some filter admits it. -/
def admitted? (uri : String) (observation : Observation) : Option Document :=
  match observation.notice with
  | .opened other language version text =>
      if other = uri ∧
          observation.filters.any fun filter => filter.admits ⟨other, some language⟩ then
        some ⟨text, version, language⟩
      else none
  | _ => none

/-- The document is closed, or opened and let in. -/
def Displaces (uri : String) (observation : Observation) : Prop :=
  observation.notice = .closed uri ∨ (observation.admitted? uri).isSome

/-- The document is closed or opened, let in or not. -/
def Bounds (uri : String) (observation : Observation) : Prop :=
  observation.notice.boundary? = some uri

/-- The document is opened and not let in. -/
def Refuses (uri : String) (observation : Observation) : Prop :=
  (∃ language version text, observation.notice = .opened uri language version text) ∧
    observation.admitted? uri = none

theorem bounds_iff
    {uri : String} {observation : Observation} :
    observation.Bounds uri ↔
      observation.notice = .closed uri ∨ (observation.admitted? uri).isSome ∨
        observation.Refuses uri := by
  obtain ⟨filters, notice⟩ := observation
  cases notice with
  | opened other language version text =>
      by_cases hsame : other = uri
      · subst hsame
        cases hadmitted : admitted? other ⟨filters, .opened other language version text⟩ <;>
          simp [Bounds, SyncNotice.boundary?, Refuses, hadmitted]
      · simp [Bounds, SyncNotice.boundary?, Refuses, admitted?, hsame]
  | closed other => simp [Bounds, SyncNotice.boundary?, Refuses, admitted?]
  | _ => simp [Bounds, SyncNotice.boundary?, Refuses, admitted?]

end Observation

/-- After a history a document is open: some opening brought it, nothing that ends it came
later, and it is what the opening gave with all later edits. -/
def Holds (ends : Observation → Prop) (history : List Observation) (uri : String)
    (document : Document) : Prop :=
  ∃ earlier opening later opened,
    history = earlier ++ opening :: later ∧
    opening.admitted? uri = some opened ∧
    (∀ observation ∈ later, ¬ends observation) ∧
    document = opened.edited uri (later.map Observation.notice)

theorem not_holds_nil
    {ends : Observation → Prop} {uri : String} {document : Document} :
    ¬Holds ends [] uri document := by
  rintro ⟨earlier, opening, later, -, hsplit, -⟩
  simp at hsplit

/-- The last notice of a history brought the document, or it did not end it. -/
theorem holds_append_singleton
    {ends : Observation → Prop} {history : List Observation} {last : Observation}
    {uri : String} {document : Document} :
    Holds ends (history ++ [last]) uri document ↔
      last.admitted? uri = some document ∨
        ¬ends last ∧ ∃ before, Holds ends history uri before ∧
          document = before.edited uri [last.notice] := by
  constructor
  · rintro ⟨earlier, opening, later, opened, hsplit, hopened, hlater, rfl⟩
    rcases List.eq_nil_or_concat later with rfl | ⟨between, final, rfl⟩
    · obtain ⟨-, rfl⟩ := List.append_inj' hsplit rfl |>.imp_right List.singleton_inj.mp
      exact Or.inl hopened
    · have hregrouped : history ++ [last] = (earlier ++ opening :: between) ++ [final] := by
        rw [hsplit]
        simp
      obtain ⟨rfl, hlast⟩ := List.append_inj' hregrouped rfl
      obtain rfl := List.singleton_inj.mp hlast
      refine Or.inr ⟨hlater last (by simp), opened.edited uri (between.map Observation.notice),
        ⟨earlier, opening, between, opened, rfl, hopened, ?_, rfl⟩, ?_⟩
      · intro observation hmem
        exact hlater observation (by simp [hmem])
      · rw [← Document.edited_append_singleton]
        simp
  · rintro (hopened | ⟨hkept, before, ⟨earlier, opening, later, opened, rfl, hopened, hlater, rfl⟩, rfl⟩)
    · exact ⟨history, last, [], document, rfl, hopened, by simp, rfl⟩
    · refine ⟨earlier, opening, later ++ [last], opened, by simp, hopened, ?_, ?_⟩
      · intro observation hmem
        rcases List.mem_append.mp hmem with hmem | hmem
        · exact hlater observation hmem
        · rw [List.mem_singleton.mp hmem]
          exact hkept
      · rw [← Document.edited_append_singleton]
        simp

/-! ## The store after a history -/

namespace DocumentStore

variable {store : DocumentStore} {uri : String}

/-- What is open at a URI after a notice. -/
theorem get?_track
    (filters : List DocumentFilter) (store : DocumentStore) (notice : SyncNotice) (uri : String) :
    get? (store.track filters notice) uri =
      (Observation.admitted? uri ⟨filters, notice⟩).or
        (if notice = .closed uri then none
        else (store.get? uri).map fun document => document.edited uri [notice]) := by
  by_cases hsame : notice.uri = uri
  · subst hsame
    cases notice with
    | opened other language version text =>
        by_cases hadmitted :
            (filters.any fun filter => filter.admits ⟨other, some language⟩) = true
        · rw [track, if_pos hadmitted]
          simpa [Observation.admitted?, SyncNotice.uri, hadmitted] using get?_opened store other _
        · simp [track, Observation.admitted?, SyncNotice.uri, hadmitted, Document.edited,
            SyncNotice.textAfter, SyncNotice.versionGiven?]
    | changed other version changes =>
        rw [track, SyncNotice.uri, get?_changed]
        simp [Observation.admitted?, Document.edited, Document.applyChanges,
          SyncNotice.textAfter, SyncNotice.versionGiven?]
    | closed other =>
        rw [track, SyncNotice.uri, get?_closed]
        simp [Observation.admitted?]
    | saved other newer =>
        cases newer with
        | none =>
            simp [track, Observation.admitted?, Document.edited, SyncNotice.textAfter,
              SyncNotice.versionGiven?]
        | some text =>
            rw [track, SyncNotice.uri]
            cases hstored : store.get? other with
            | none => simp [hstored, Observation.admitted?]
            | some document =>
                simp only [get?_changed, hstored]
                simp [Observation.admitted?, Document.edited, Document.applyChanges,
                  ContentChange.apply, SyncNotice.textAfter, SyncNotice.versionGiven?]
    | saving other reason =>
        simp [track, Observation.admitted?, Document.edited, SyncNotice.textAfter,
          SyncNotice.versionGiven?]
  · have hnone : Observation.admitted? uri ⟨filters, notice⟩ = none := by
      cases notice <;> simp_all [Observation.admitted?, SyncNotice.uri]
    have hopen : notice ≠ .closed uri := fun heq => hsame (by rw [heq]; rfl)
    rw [get?_track_of_ne filters store hsame, hnone, if_neg hopen]
    simp [Document.edited_of_uri_ne _ hsame]

/-- A notice keeps the store in step with its history if what ends a document according to
the history is no longer in the store. -/
theorem holds_track
    {ends : Observation → Prop} {history : List Observation} {observation : Observation}
    (hstore : ∀ document, store.get? uri = some document ↔ Holds ends history uri document)
    (hends : observation.Displaces uri → ends observation)
    (hrefused : ends observation → ¬observation.Displaces uri → store.get? uri = none)
    (document : Document) :
    get? (store.track observation.filters observation.notice) uri = some document ↔
      Holds ends (history ++ [observation]) uri document := by
  rw [holds_append_singleton, get?_track]
  cases hadmitted : observation.admitted? uri with
  | some opened =>
      have hended : ends observation := hends (Or.inr (by simp [hadmitted]))
      simp [hended]
  | none =>
      by_cases hclosed : observation.notice = .closed uri
      · have hended : ends observation := hends (Or.inl hclosed)
        simp [hclosed, hended]
      · have hkept : ¬observation.Displaces uri := by
          simp [Observation.Displaces, hadmitted, hclosed]
        by_cases hended : ends observation
        · simp [hclosed, hended, hrefused hended hkept]
        · simp only [hclosed, hended, if_false, Option.none_or, reduceCtorEq,
            false_or, not_false_eq_true, true_and, Option.map_eq_some_iff, hstore]
          simp only [eq_comm]

end DocumentStore

/-! ## Runs of the loop -/

/-- What happens to a loop: it handles a message, or its registry is changed from outside. -/
inductive LoopEvent where
  | arrival (message : Message)
  | change (operation : Operation)

/-- The notice that an event carries. -/
def LoopEvent.notice? : LoopEvent → Option SyncNotice
  | .arrival message => message.notice?
  | .change _ => none

/-- The notice that a message reports to the store, if it is a notification by which an
editor opens, changes, closes or saves a document, and its parameters read. -/
def Message.reported? : Message → Option SyncNotice
  | .notification method params =>
      if DocumentStore.tracksMethod method then
        (SyncNotice.reader? method).bind fun read => read params
      else none
  | _ => none

namespace LoopState

variable {uri : String}

/-- The loop after an event. -/
def undergo (app : Application σ) (state : LoopState σ) : LoopEvent → LoopState σ
  | .arrival message => (state.handle app message).state
  | .change operation =>
      { state with host := { state.host with desk := (operation.perform state.host.desk).2 } }

/-- The loop after events that happen one after the other. -/
def undergoAll (app : Application σ) (state : LoopState σ) (events : List LoopEvent) :
    LoopState σ :=
  events.foldl (undergo app) state

/-- The notice of an event, as it meets the loop. -/
def observation? (state : LoopState σ) (event : LoopEvent) : Option Observation :=
  event.notice?.map (Observation.mk state.host.snapshot.documentFilters)

/-- The notices of events, each as it meets the loop. -/
def observations (app : Application σ) (state : LoopState σ) : List LoopEvent → List Observation
  | [] => []
  | event :: rest =>
      (state.observation? event).toList ++ observations app (state.undergo app event) rest

theorem undergoAll_append_singleton
    (app : Application σ) (state : LoopState σ) (events : List LoopEvent) (event : LoopEvent) :
    undergoAll app state (events ++ [event]) = (undergoAll app state events).undergo app event := by
  simp [undergoAll]

theorem observations_append_singleton
    (app : Application σ) (state : LoopState σ) (events : List LoopEvent) (event : LoopEvent) :
    observations app state (events ++ [event]) =
      observations app state events ++
        ((undergoAll app state events).observation? event).toList := by
  induction events generalizing state with
  | nil => simp [observations, undergoAll]
  | cons first rest ih => simp [observations, ih, undergoAll]

/-- A run of the loop is a series of messages up to the first exit. -/
theorem run_eq_undergoAll (app : Application σ) (state : LoopState σ) (messages : List Message) :
    (run app state messages).1 =
      undergoAll app state ((Message.upToExit messages).map LoopEvent.arrival) := by
  rw [run_eq_attend]
  induction Message.upToExit messages generalizing state with
  | nil => rfl
  | cons message rest ih => exact ih (state.handle app message).state

theorem documents_undergo
    (app : Application σ) (state : LoopState σ) (event : LoopEvent) :
    (state.undergo app event).host.documents =
      state.host.documents.trackAny state.host.snapshot.documentFilters event.notice? := by
  cases event with
  | arrival message => exact documents_handle app state message
  | change operation => rfl

/-- The store is in step with the history of a run if what ends a document according to
the history is never in the store. -/
theorem holds_undergoAll
    {ends : Observation → Prop} (app : Application σ) (state : LoopState σ)
    (hfresh : state.host.documents.get? uri = none)
    (hends : ∀ observation, observation.Displaces uri → ends observation)
    {events : List LoopEvent}
    (hrefused : ∀ earlier event later observation, events = earlier ++ event :: later →
      (undergoAll app state earlier).observation? event = some observation →
      ends observation → ¬observation.Displaces uri →
      (undergoAll app state earlier).host.documents.get? uri = none)
    (document : Document) :
    (undergoAll app state events).host.documents.get? uri = some document ↔
      Holds ends (observations app state events) uri document := by
  -- The induction takes the last event off, since what an event does depends on those before it.
  induction events using List.reverseRecOn generalizing document with
  | nil => simp [undergoAll, observations, hfresh, not_holds_nil]
  | append_singleton events event ih =>
      have hstore := ih fun earlier other later observation hsplit =>
        hrefused earlier other (later ++ [event]) observation (by simp [hsplit])
      rw [undergoAll_append_singleton, observations_append_singleton, documents_undergo]
      cases hnotice : event.notice? with
      | none => simpa [observation?, hnotice, DocumentStore.trackAny] using hstore document
      | some notice =>
          let observation : Observation :=
            ⟨(undergoAll app state events).host.snapshot.documentFilters, notice⟩
          have hmet : (undergoAll app state events).observation? event = some observation := by
            simp [observation?, hnotice, observation]
          rw [hmet]
          exact DocumentStore.holds_track hstore (hends observation)
            (hrefused events event [] observation rfl hmet) document

/-- How the open documents follow what happens to the loop. -/
structure FollowsEditor (app : Application σ) (state : LoopState σ) (uri : String)
    (events : List LoopEvent) : Prop where
  /-- A document is open as its last opening that was let in gave it, with all later
  changes and saves, unless it was closed since. -/
  held : ∀ document, (undergoAll app state events).host.documents.get? uri = some document ↔
    Holds (Observation.Displaces uri) (observations app state events) uri document
  /-- At all times the document is open exactly if its most recent opening since its last
  closing was let in, and as this opening gave it, if and only if no opening is refused
  while the document is open. -/
  latest : (∀ earlier later, events = earlier ++ later → ∀ document,
      (undergoAll app state earlier).host.documents.get? uri = some document ↔
        Holds (Observation.Bounds uri) (observations app state earlier) uri document) ↔
    ∀ earlier event later observation, events = earlier ++ event :: later →
      (undergoAll app state earlier).observation? event = some observation →
      observation.Refuses uri →
      (undergoAll app state earlier).host.documents.get? uri = none
  /-- A message that reports nothing leaves all documents as they are. -/
  silent : ∀ (before : LoopState σ) message, message.reported? = none →
    (before.handle app message).state.host.documents = before.host.documents
  /-- A report on one document leaves every other document as it is. -/
  apart : ∀ (before : LoopState σ) message notice other, message.reported? = some notice →
    notice.uri ≠ other →
    (before.handle app message).state.host.documents.get? other = before.host.documents.get? other

theorem documents_handle_of_silent
    (app : Application σ) (state : LoopState σ) {message : Message}
    (h : message.reported? = none) :
    (state.handle app message).state.host.documents = state.host.documents := by
  rw [documents_handle]
  cases message with
  | request id method params => rfl
  | response id result error => rfl
  | notification method params =>
      cases hmethod : DocumentStore.tracksMethod method with
      | false => exact trackAny_of_not_tracksMethod hmethod _ _ params
      | true =>
          rw [Message.reported?, if_pos hmethod] at h
          have hnotice : Message.notice? (.notification method params) = none := h
          rw [hnotice]
          rfl

theorem notice?_of_reported?
    {message : Message} {notice : SyncNotice} (h : message.reported? = some notice) :
    message.notice? = some notice := by
  cases message with
  | notification method params =>
      rw [Message.reported?] at h
      exact (Option.ite_none_right_eq_some.mp h).2
  | _ => cases h

/-- The open documents follow what happens to the loop, whatever happens. -/
theorem documents_follow_editor
    (app : Application σ) (state : LoopState σ) (hfresh : state.host.documents.get? uri = none)
    (events : List LoopEvent) :
    state.FollowsEditor app uri events := by
  refine ⟨?_, ⟨?_, ?_⟩, ?_, ?_⟩
  · exact holds_undergoAll app state hfresh (fun _ h => h) fun _ _ _ _ _ _ h hnot => absurd h hnot
  · intro hlatest earlier event later observation hsplit hmet hrefuses
    -- Right after a refused opening the history holds no document.
    have hbounds : observation.Bounds uri := Observation.bounds_iff.mpr (Or.inr (Or.inr hrefuses))
    obtain ⟨⟨language, version, text, hopening⟩, hnone⟩ := hrefuses
    have hafter := hlatest (earlier ++ [event]) later (by simp [hsplit])
    rw [Option.eq_none_iff_forall_ne_some]
    intro document hopen
    have hkept : (undergoAll app state (earlier ++ [event])).host.documents.get? uri =
        some (document.edited uri [observation.notice]) := by
      obtain ⟨notice, hnotice, rfl⟩ := Option.map_eq_some_iff.mp hmet
      have hnot : notice ≠ .closed uri := by
        rw [show notice = _ from hopening]
        simp
      rw [undergoAll_append_singleton, documents_undergo, hnotice, DocumentStore.trackAny,
        DocumentStore.get?_track, hnone, if_neg hnot, hopen]
      rfl
    rw [hafter, observations_append_singleton, hmet] at hkept
    rcases holds_append_singleton.mp hkept with hadmitted | ⟨hunbound, -⟩
    · rw [hnone] at hadmitted
      cases hadmitted
    · exact hunbound hbounds
  · intro hnever earlier later hsplit
    refine holds_undergoAll app state hfresh
      (fun observation hdisplaces => Observation.bounds_iff.mpr (hdisplaces.imp_right Or.inl)) ?_
    intro first event rest observation hfirst hmet hbounds hkept
    refine hnever first event (rest ++ later) observation (by simp [hsplit, hfirst]) hmet ?_
    rcases Observation.bounds_iff.mp hbounds with hclosed | hadmitted | hrefuses
    · exact absurd (Or.inl hclosed) hkept
    · exact absurd (Or.inr hadmitted) hkept
    · exact hrefuses
  · intro before message hsilent
    exact documents_handle_of_silent app before hsilent
  · intro before message notice other hreported hother
    rw [documents_handle, notice?_of_reported? hreported]
    exact DocumentStore.get?_track_of_ne _ _ hother

/-- The opening of the same document in another language, which the handler does not ask for. -/
def pythonReopening : Json :=
  .ofMembers [("textDocument", .ofMembers [("uri", .string "file:///a.cs"),
    ("languageId", .string "python"), ("version", .integer 2), ("text", .string "y")])]

theorem csharpLoop_follows_editor :
    csharpLoop.host.documents.get? "file:///a.cs" = none ∧
      csharpLoop.FollowsEditor (Scripted.application []) "file:///a.cs"
        [.arrival (.notification "textDocument/didOpen" csharpOpening),
          .arrival (.notification "textDocument/didChange" (emptyChange "file:///a.cs")),
          .change .clear,
          .arrival (.notification "textDocument/didOpen" pythonReopening)] :=
  ⟨rfl, documents_follow_editor (Scripted.application []) csharpLoop rfl _⟩

/-- An open document is opened again in a language that no filter admits: its most recent
opening was refused, but it stays open as the earlier opening gave it. -/
theorem csharpLoop_refusedReopening_kept :
    let app := Scripted.application []
    let events : List LoopEvent :=
      [.arrival (.notification "textDocument/didOpen" csharpOpening),
        .arrival (.notification "textDocument/didOpen" pythonReopening)]
    SyncNotice.readOpened? pythonReopening = some (.opened "file:///a.cs" "python" 2 "y") ∧
      (csharpLoop.host.snapshot.documentFilters.any fun filter =>
        filter.admits ⟨"file:///a.cs", some "python"⟩) = false ∧
      (csharpLoop.undergoAll app events).host.documents.get? "file:///a.cs" =
        some ⟨"x", 1, "csharp"⟩ ∧
      ∀ document, ¬Holds (Observation.Bounds "file:///a.cs") (csharpLoop.observations app events)
        "file:///a.cs" document := by
  refine ⟨by decide +kernel, by decide +kernel, by decide +kernel, ?_⟩
  intro document hholds
  have hobserved : csharpLoop.observations (Scripted.application [])
      [.arrival (.notification "textDocument/didOpen" csharpOpening),
        .arrival (.notification "textDocument/didOpen" pythonReopening)] =
      [⟨csharpLoop.host.snapshot.documentFilters, .opened "file:///a.cs" "csharp" 1 "x"⟩] ++
        [⟨csharpLoop.host.snapshot.documentFilters, .opened "file:///a.cs" "python" 2 "y"⟩] := by
    decide +kernel
  rw [hobserved] at hholds
  rcases holds_append_singleton.mp hholds with hadmitted | ⟨hunbound, -⟩
  · have hnone : Observation.admitted? "file:///a.cs"
        ⟨csharpLoop.host.snapshot.documentFilters, .opened "file:///a.cs" "python" 2 "y"⟩ =
          none := by
      decide +kernel
    rw [hnone] at hadmitted
    cases hadmitted
  · exact hunbound rfl

end LoopState

end Switchboard
