import Mathlib.Data.List.Basic
import Mathlib.Tactic.Common
import Switchboard.Proofs.Loop.Lifecycle
import Switchboard.Proofs.Sync.Documents
import Switchboard.Scripted

/-!
# Notifications and what their receivers do

A notification goes to the descriptors that the registry lists for it when it arrives.
Their handlers run one after the other, and each finds the host that the one before it
left: the open documents as the notification made them, and the registry with every
change so far.  What a handler answers or does to the registry decides nothing about who
else is called; it shows in the messages that come afterwards.
-/

namespace Switchboard

variable {σ : Type}

/-! ## Runs of handlers -/

/-- One run of a handler. -/
structure Invocation (σ : Type) where
  /-- What the handler finds. -/
  found : Host σ
  descriptor : Descriptor
  params : Json
  outcome : Except HandlerError Json
  /-- What it leaves. -/
  left : Host σ

/-- Handlers run one after the other: each finds the host that the one before it left. -/
inductive Chained (app : Application σ) : Host σ → List (Invocation σ) → Host σ → Prop where
  | nil (host : Host σ) : Chained app host [] host
  | cons {invocation : Invocation σ} {rest : List (Invocation σ)} {last : Host σ}
      (runs : invocation.found.invoke app invocation.descriptor invocation.params =
        (invocation.outcome, invocation.left))
      (later : Chained app invocation.left rest last) :
      Chained app invocation.found (invocation :: rest) last

namespace Chained

variable {app : Application σ} {first last : Host σ} {log : List (Invocation σ)}

/-- No handler in a chain finds other open documents than the first one. -/
theorem documents (h : Chained app first log last) :
    last.documents = first.documents ∧
      ∀ invocation ∈ log, invocation.found.documents = first.documents := by
  induction h with
  | nil host => exact ⟨rfl, by simp⟩
  | @cons invocation rest last runs later ih =>
      obtain ⟨hlast, hrest⟩ := ih
      have hleft : invocation.left.documents = invocation.found.documents := by
        have hkept := Host.documents_invoke app invocation.found invocation.descriptor
          invocation.params
        rwa [runs] at hkept
      refine ⟨hlast.trans hleft, ?_⟩
      intro other hother
      rcases List.mem_cons.mp hother with rfl | hmem
      · rfl
      · exact (hrest other hmem).trans hleft

/-- A chain ends with the host that its last handler left. -/
theorem last_eq (h : Chained app first log last) :
    last = (log.getLast?.map Invocation.left).getD first := by
  induction h with
  | nil host => rfl
  | @cons invocation rest last runs later ih =>
      rw [ih]
      cases rest with
      | nil => rfl
      | cons next rest => simp [List.getLast?_eq_some_getLast]

end Chained

/-- The handlers of several descriptors run in a chain, one run for each descriptor. -/
theorem Host.exists_chained_invokeAll
    (app : Application σ) (host : Host σ) (descriptors : List Descriptor) (params : Json) :
    ∃ log, Chained app host log (host.invokeAll app descriptors params) ∧
      log.map Invocation.descriptor = descriptors ∧
      ∀ invocation ∈ log, invocation.params = params := by
  induction descriptors generalizing host with
  | nil => exact ⟨[], .nil host, rfl, by simp⟩
  | cons descriptor rest ih =>
      let invocation : Invocation σ :=
        ⟨host, descriptor, params, (host.invoke app descriptor params).1,
          (host.invoke app descriptor params).2⟩
      obtain ⟨log, hchained, hdescriptors, hparams⟩ := ih invocation.left
      refine ⟨invocation :: log, ?_, ?_, ?_⟩
      · have hruns : host.invoke app descriptor params = (invocation.outcome, invocation.left) := rfl
        exact Chained.cons hruns hchained
      · rw [List.map_cons, hdescriptors]
      · intro other hother
        rcases List.mem_cons.mp hother with rfl | hmem
        · rfl
        · exact hparams other hmem

/-! ## Delivery -/

namespace LoopState

/-- The open documents once a notification has been followed. -/
def followed (state : LoopState σ) (method : String) (params : Json) : DocumentStore :=
  state.host.documents.trackAny state.host.snapshot.documentFilters
    (Message.notice? (.notification method params))

/-- A notification that finds the loop in a state is delivered by some runs of handlers,
the last of which leaves a host. -/
structure Delivered (app : Application σ) (state : LoopState σ) (method : String) (params : Json)
    (log : List (Invocation σ)) (last : Host σ) : Prop where
  /-- There is one run for each descriptor that was registered when the notification
  arrived and serves it, in the order of registration. -/
  receivers : log.map Invocation.descriptor =
    state.host.desk.registry.descriptors.filter (state.Serves method params)
  /-- What the registry lists in the meantime has no say in this: neither what joins it
  nor what leaves it. -/
  listed : ∀ descriptor, descriptor ∈ log.map Invocation.descriptor ↔
    descriptor ∈ state.host.desk.registry.descriptors ∧ state.Serves method params descriptor
  given : ∀ invocation ∈ log, invocation.params = params
  /-- The first handler finds the open documents as the notification made them. -/
  chained : Chained app { state.host with documents := state.followed method params } log last
  documents : ∀ invocation ∈ log, invocation.found.documents = state.followed method params
  /-- No other calls reach the application. -/
  calls : state.calls app (.notification method params) =
    log.flatMap fun invocation => invocation.descriptor.calls invocation.params
  /-- The loop goes on from the host that the last handler left, and sends nothing. -/
  handled : state.handle app (.notification method params) =
    { state := { state with host := last } }
  left : last = (log.getLast?.map Invocation.left).getD
    { state.host with documents := state.followed method params }
  /-- The next message is routed over the registry that the last handler left. -/
  visible : ∀ next document,
    let after := (state.handle app (.notification method params)).state.host.snapshot
    after.routeAll next document =
        last.desk.registry.descriptors.filter (Snapshot.serves next document) ∧
      after.route next document =
        last.desk.registry.descriptors.find? (Snapshot.serves next document)

/-- Every notification but the last is delivered to the handlers that were registered for
it when it arrived, whatever they do. -/
theorem notification_delivered
    (app : Application σ) (state : LoopState σ) {method : String} (hmethod : method ≠ "exit")
    (params : Json) :
    ∃ log last, state.Delivered app method params log last := by
  let receivers := state.host.snapshot.routeAll method
    (target state.host.documents method params)
  let tracked : Host σ := { state.host with documents := state.followed method params }
  obtain ⟨log, hchained, hdescriptors, hparams⟩ :=
    tracked.exists_chained_invokeAll app receivers params
  have hobserved : observed state.host method params = state.followed method params :=
    observed_eq_trackAny state.host method params
  have hhandled : state.handle app (.notification method params) =
      { state := { state with host := tracked.invokeAll app receivers params } } := by
    rw [handle, if_neg hmethod, deliver, hobserved]
  have hreceivers : log.map Invocation.descriptor =
      state.host.desk.registry.descriptors.filter (state.Serves method params) :=
    hdescriptors.trans (routeAll_target state method params)
  refine ⟨log, tracked.invokeAll app receivers params, hreceivers, ?_, hparams, hchained,
    hchained.documents.2, ?_, hhandled, hchained.last_eq, ?_⟩
  · intro descriptor
    rw [hreceivers, List.mem_filter, decide_eq_true_iff]
  · have hcalls : state.receivers (.notification method params) = receivers := if_neg hmethod
    rw [calls_eq, hcalls, ← hdescriptors, List.flatMap_map]
    apply List.flatMap_congr
    intro invocation hmem
    rw [hparams invocation hmem]
    rfl
  · intro next document
    rw [hhandled]
    exact ⟨rfl, rfl⟩

/-- A handler of notices about the documents in one language, with a role of its own. -/
def noticing (serial : Nat) (name language : String) : Handler :=
  ⟨serial, .application ⟨name, name, name, [.textDocumentSync],
    some [{ language := some language }], []⟩⟩

/-- One handler clears the registry, one fails, and one registers another. -/
def unrulyRoles : Table Role :=
  [("adding", ⟨(noticing 3 "adding" "lean").kind, .register "late"⟩),
    ("clearing", ⟨(noticing 0 "clearing" "lean").kind, .clear⟩),
    ("failing", ⟨(noticing 2 "failing" "lean").kind, .fail "out of order"⟩),
    ("late", ⟨(noticing 4 "late" "lean").kind, .echo⟩)]

/-- Between the handlers for one language there is one for another. -/
def unrulyLoop : LoopState (List Json) :=
  { host :=
      { desk := (Desk.add {} [noticing 0 "clearing" "lean", noticing 1 "foreign" "python",
          noticing 2 "failing" "lean", noticing 3 "adding" "lean"]).2
        app := [] } }

def leanOpening : Json :=
  .ofMembers [("textDocument", .ofMembers [("uri", .string "file:///a.lean"),
    ("languageId", .string "lean"), ("version", .integer 1), ("text", .string "")])]

/-- All handlers for the language of the document that is opened are called and the one for
the other language is not, and afterwards the registry lists the newcomer alone. -/
theorem unrulyLoop_delivered :
    "textDocument/didOpen" ≠ "exit" ∧
      ∃ log last,
        unrulyLoop.Delivered (Scripted.application unrulyRoles) "textDocument/didOpen"
          leanOpening log last ∧
        (unrulyLoop.host.snapshot.forMethod "textDocument/didOpen").map
            (fun descriptor => descriptor.handler.name) =
          ["clearing", "foreign", "failing", "adding"] ∧
        log.map (fun invocation => invocation.descriptor.handler.name) =
          ["clearing", "failing", "adding"] ∧
        last.desk.registry.descriptors.map (fun descriptor => descriptor.handler.name) =
          List.replicate 6 "late" ∧
        last.documents.map Prod.fst = ["file:///a.lean"] := by
  have hmethod : "textDocument/didOpen" ≠ "exit" := by decide
  obtain ⟨log, last, hdelivered⟩ :=
    notification_delivered (Scripted.application unrulyRoles) unrulyLoop hmethod leanOpening
  have hlast : last = (unrulyLoop.handle (Scripted.application unrulyRoles)
      (.notification "textDocument/didOpen" leanOpening)).state.host := by
    rw [hdelivered.handled]
  refine ⟨hmethod, log, last, hdelivered, by decide +kernel, ?_, ?_, ?_⟩
  · have hnames : log.map (fun invocation => invocation.descriptor.handler.name) =
        (log.map Invocation.descriptor).map fun descriptor => descriptor.handler.name := by
      rw [List.map_map]
      rfl
    rw [hnames, hdelivered.receivers]
    decide +kernel
  · rw [hlast]
    decide +kernel
  · rw [hlast]
    decide +kernel

end LoopState

end Switchboard
