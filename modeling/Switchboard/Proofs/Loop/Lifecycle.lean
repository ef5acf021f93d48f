import Mathlib.Data.List.Basic
import Mathlib.Tactic.Common
import Switchboard.Proofs.Loop.Calls

/-!
# The life of the message loop

The loop handles messages up to the first exit and none after it.  It sends one
response for each request that it handles and nothing else.  Once it was asked to shut
down it calls no handler for a request any more; before that a request calls the handler
of the first descriptor that serves it, or none if there is no such descriptor.  Nothing
here depends on what the handlers do, which may change the registry while they run.
-/

namespace Switchboard

variable {σ : Type}

/-! ## Messages -/

namespace Message

/-- The id of a request. -/
def requestId? : Message → Option RequestId
  | .request id _ _ => some id
  | _ => none

/-- The id of the request that a response answers. -/
def responseTo? : Message → Option RequestId
  | .response id _ _ => some id
  | _ => none

/-- Whether a message asks the server to shut down. -/
def isShutdown : Message → Bool
  | .request _ method _ => method == "shutdown"
  | _ => false

/-- The messages up to and including the first one that tells the server to exit. -/
def upToExit : List Message → List Message
  | [] => []
  | message :: rest => if message.isExit then [message] else message :: upToExit rest

end Message

namespace LoopState

/-! ## Handling all messages -/

/-- Handles messages one after the other, also after an exit, and returns what was sent. -/
def attend (app : Application σ) (state : LoopState σ) :
    List Message → LoopState σ × List Message
  | [] => (state, [])
  | message :: rest =>
      let step := state.handle app message
      let (final, sent) := attend app step.state rest
      (final, step.sent ++ sent)

theorem attend_append
    (app : Application σ) (state : LoopState σ) (first second : List Message) :
    attend app state (first ++ second) =
      ((attend app (attend app state first).1 second).1,
        (attend app state first).2 ++ (attend app (attend app state first).1 second).2) := by
  induction first generalizing state with
  | nil => rfl
  | cons message rest ih =>
      rw [List.cons_append, attend, attend, ih]
      simp only [List.append_assoc]

theorem control_handle (app : Application σ) (state : LoopState σ) (message : Message) :
    (state.handle app message).control = if message.isExit then .stop else .proceed := by
  cases message with
  | request id method params =>
      simp only [handle, answer, Message.isExit, Bool.false_eq_true, if_false]
      split_ifs <;> rfl
  | response id result error => rfl
  | notification method params =>
      by_cases hexit : method = "exit" <;> simp [handle, Message.isExit, hexit]

/-- The loop handles the messages up to the first exit, and none after it. -/
theorem run_eq_attend (app : Application σ) (state : LoopState σ) (messages : List Message) :
    run app state messages = attend app state (Message.upToExit messages) := by
  induction messages generalizing state with
  | nil => rfl
  | cons message rest ih =>
      rw [run, Message.upToExit, control_handle]
      cases message.isExit with
      | true => simp [attend]
      | false => simp [attend, ih]

/-! ## What is sent -/

theorem sent_handle (app : Application σ) (state : LoopState σ) (message : Message) :
    (state.handle app message).sent.map Message.responseTo? =
      message.requestId?.toList.map some := by
  cases message with
  | request id method params =>
      simp only [handle, answer, Message.requestId?]
      split_ifs
      · rfl
      · rfl
      · rfl
      · simp only [dispatch]
        split
        next => rfl
        next =>
          simp only [respond]
          split <;> rfl
  | response id result error => rfl
  | notification method params =>
      by_cases hexit : method = "exit" <;> simp [handle, hexit, Message.requestId?]

/-- Every request gets one response with its id, in order, and nothing else is sent. -/
theorem sent_attend (app : Application σ) (state : LoopState σ) (messages : List Message) :
    (attend app state messages).2.map Message.responseTo? =
      (messages.filterMap Message.requestId?).map some := by
  induction messages generalizing state with
  | nil => rfl
  | cons message rest ih =>
      rw [attend, List.map_append, sent_handle, ih, ← List.map_append]
      cases hid : message.requestId? with
      | none => simp [hid]
      | some id => simp [hid]

/-! ## Shutting down -/

theorem shutdownRequested_handle
    (app : Application σ) (state : LoopState σ) (message : Message) :
    (state.handle app message).state.shutdownRequested =
      (state.shutdownRequested || message.isShutdown) := by
  cases message with
  | request id method params =>
      simp only [handle, answer, Message.isShutdown]
      by_cases hshutdown : method = "shutdown"
      · simp [hshutdown]
      · simp only [if_neg hshutdown, beq_eq_false_iff_ne.mpr hshutdown, Bool.or_false]
        split_ifs <;> rfl
  | response id result error => simp [handle, Message.isShutdown]
  | notification method params =>
      by_cases hexit : method = "exit" <;> simp [handle, hexit, Message.isShutdown]

theorem shutdownRequested_attend
    (app : Application σ) (state : LoopState σ) (messages : List Message) :
    (attend app state messages).1.shutdownRequested =
      (state.shutdownRequested || messages.any Message.isShutdown) := by
  induction messages generalizing state with
  | nil => simp [attend]
  | cons message rest ih =>
      rw [attend, ih, shutdownRequested_handle, List.any_cons, Bool.or_assoc]

/-! ## Replies -/

/-- A descriptor serves a message: it has the method, and it admits the document that the
message concerns, if there is one. -/
def Serves (state : LoopState σ) (method : String) (params : Json) (descriptor : Descriptor) :
    Prop :=
  descriptor.method = method ∧
    ∀ document, Concerns state.host.documents method params document →
      descriptor.admits document = true

theorem serves_iff
    {state : LoopState σ} {method : String} {params : Json} {descriptor : Descriptor} :
    state.Serves method params descriptor ↔
      Snapshot.serves method (target state.host.documents method params) descriptor = true := by
  unfold Serves Snapshot.serves
  simp only [← target_eq_some_iff]
  cases target state.host.documents method params with
  | none => simp
  | some document => simp

instance (state : LoopState σ) (method : String) (params : Json) :
    DecidablePred (state.Serves method params) := fun _ => decidable_of_iff _ serves_iff.symm

theorem routeAll_target (state : LoopState σ) (method : String) (params : Json) :
    state.host.snapshot.routeAll method (target state.host.documents method params) =
      state.host.desk.registry.descriptors.filter (state.Serves method params) := by
  apply List.filter_congr
  intro descriptor _
  rw [Bool.eq_iff_iff, decide_eq_true_iff, serves_iff]

theorem route_target (state : LoopState σ) (method : String) (params : Json) :
    state.host.snapshot.route method (target state.host.documents method params) =
      state.host.desk.registry.descriptors.find? (state.Serves method params) := by
  rw [Snapshot.route_eq_head?_routeAll, routeAll_target, List.head?_filter]

/-- The reply to a request that finds the loop in a state: the descriptors whose handlers
are called, and the response.  Whether the shutdown was requested before is given apart. -/
inductive Reply (app : Application σ) (state : LoopState σ) (asked : Bool) (id : RequestId)
    (method : String) (params : Json) : List Descriptor → Message → Prop where
  | shutdown : method = "shutdown" → Reply app state asked id method params [] (.success id .null)
  | initialized : method = "initialize" →
      Reply app state asked id method params []
        (.failure id .invalidRequest "Server is already initialized")
  | late : method ≠ "shutdown" → method ≠ "initialize" → asked = true →
      Reply app state asked id method params []
        (.failure id .invalidRequest "Server is shutting down")
  | served (skipped : List Descriptor) (descriptor : Descriptor) (rest : List Descriptor) :
      method ≠ "shutdown" → method ≠ "initialize" → asked = false →
      state.host.desk.registry.descriptors = skipped ++ descriptor :: rest →
      (∀ other ∈ skipped, ¬state.Serves method params other) →
      state.Serves method params descriptor →
      Reply app state asked id method params [descriptor]
        (respond id (state.host.invoke app descriptor params).1)
  | unserved : method ≠ "shutdown" → method ≠ "initialize" → asked = false →
      (∀ descriptor ∈ state.host.desk.registry.descriptors,
        ¬state.Serves method params descriptor) →
      Reply app state asked id method params []
        (.failure id .methodNotFound ("Unhandled request: " ++ method))

/-- A request is replied to by its receivers. -/
theorem exists_reply
    (app : Application σ) (state : LoopState σ) (id : RequestId) (method : String)
    (params : Json) :
    ∃ response,
      Reply app state state.shutdownRequested id method params
        (state.receivers (.request id method params)) response ∧
      (state.answer app id method params).sent = [response] := by
  simp only [answer, receivers]
  by_cases hshutdown : method = "shutdown"
  · rw [if_pos hshutdown, if_pos (Or.inl hshutdown)]
    exact ⟨_, .shutdown hshutdown, rfl⟩
  · rw [if_neg hshutdown]
    by_cases hinit : method = "initialize"
    · rw [if_pos hinit, if_pos (Or.inr (Or.inl hinit))]
      exact ⟨_, .initialized hinit, rfl⟩
    · rw [if_neg hinit]
      by_cases hasked : state.shutdownRequested = true
      · rw [if_pos hasked, if_pos (Or.inr (Or.inr hasked))]
        exact ⟨_, .late hshutdown hinit hasked, rfl⟩
      · have hopen : state.shutdownRequested = false := by simpa using hasked
        rw [if_neg hasked, if_neg (by simp [hshutdown, hinit, hopen]), dispatch, route_target]
        cases hfound : state.host.desk.registry.descriptors.find? (state.Serves method params) with
        | none =>
            have hnone : ∀ descriptor ∈ state.host.desk.registry.descriptors,
                ¬state.Serves method params descriptor := by
              simpa using hfound
            exact ⟨_, .unserved hshutdown hinit hopen hnone, rfl⟩
        | some descriptor =>
            obtain ⟨hserves, skipped, rest, hlist, hskipped⟩ :=
              List.find?_eq_some_iff_append.mp hfound
            have hrefused : ∀ other ∈ skipped, ¬state.Serves method params other := by
              simpa using hskipped
            exact ⟨_, .served skipped descriptor rest hshutdown hinit hopen hlist hrefused
              (of_decide_eq_true hserves), rfl⟩

/-! ## The whole run -/

/-- The course of a run of the loop. -/
structure Lifecycle (app : Application σ) (state : LoopState σ) (messages : List Message) :
    Prop where
  /-- The messages up to the first exit are handled, and no others. -/
  handled : run app state messages = attend app state (Message.upToExit messages)
  /-- Every handled request gets one response with its id, in order, and nothing else is
  sent. -/
  responses : (run app state messages).2.map Message.responseTo? =
    ((Message.upToExit messages).filterMap Message.requestId?).map some
  /-- Every handled request is replied to as it meets the loop, and calls no handlers but
  those of the reply. -/
  replies : ∀ earlier id method params later,
    Message.upToExit messages = earlier ++ .request id method params :: later →
    let before := (attend app state earlier).1
    let asked := state.shutdownRequested || earlier.any Message.isShutdown
    ∃ receivers response more,
      Reply app before asked id method params receivers response ∧
      (run app state messages).2 = (attend app state earlier).2 ++ response :: more ∧
      (before.handle app (.request id method params)).state.host =
        before.host.invokeAll app receivers params ∧
      before.calls app (.request id method params) =
        receivers.flatMap fun descriptor => descriptor.calls params
  /-- At the end the loop knows whether it was asked to shut down. -/
  result : (run app state messages).1.shutdownRequested =
    (state.shutdownRequested || (Message.upToExit messages).any Message.isShutdown)

/-- Every run of the loop takes this course, whatever its handlers do. -/
theorem run_lifecycle (app : Application σ) (state : LoopState σ) (messages : List Message) :
    Lifecycle app state messages := by
  have hrun := run_eq_attend app state messages
  refine ⟨hrun, ?_, ?_, ?_⟩
  · rw [hrun]
    exact sent_attend app state _
  · intro earlier id method params later hsplit before asked
    obtain ⟨response, hreply, hsent⟩ := exists_reply app before id method params
    have hasked : before.shutdownRequested = asked := shutdownRequested_attend app state earlier
    rw [hasked] at hreply
    refine ⟨_, response, (attend app (before.handle app (.request id method params)).state
      later).2, hreply, ?_, host_answer app before id method params, calls_eq app before _⟩
    have hhandled : (before.handle app (.request id method params)).sent = [response] := hsent
    rw [hrun, hsplit, attend_append]
    simp only [attend, before] at hhandled ⊢
    rw [hhandled, List.singleton_append]
  · rw [hrun]
    exact shutdownRequested_attend app state _

end LoopState

end Switchboard
