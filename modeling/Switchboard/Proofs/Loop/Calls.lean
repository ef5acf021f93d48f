import Mathlib.Tactic.Common
import Switchboard.Loop

/-!
# Which handlers a message calls

A message reaches some of the descriptors that the registry lists when it arrives, and
it changes the host by calling their handlers one after the other and, if it is a
notification, by updating the open documents first.  An application can keep a list of
the calls to its handlers without behaving differently, and this list holds the calls
to the handlers of those descriptors and no others.
-/

namespace Switchboard

variable {σ : Type}

/-! ## Keeping a list of calls -/

/-- A call to a handler. -/
structure Call where
  handler : Handler
  method : String
  params : Json
  deriving DecidableEq, Repr

/-- The calls that reach the application when a descriptor's handler runs: one for the
application's own handlers and none for the built-in ones. -/
def Descriptor.calls (descriptor : Descriptor) (params : Json) : List Call :=
  match descriptor.handler.kind with
  | .application _ => [⟨descriptor.handler, descriptor.method, params⟩]
  | .documentSync _ | .executeCommand _ => []

/-- The application that also keeps a list of the calls to its handlers. -/
def Application.recorded (app : Application σ) : Application (σ × List Call) :=
  fun handler method params host =>
    let (outcome, desk, state) :=
      app handler method params ⟨host.desk, host.documents, host.app.1⟩
    (outcome, desk, state, host.app.2 ++ [⟨handler, method, params⟩])

namespace Host

/-- A host that keeps a list of calls. -/
def withCalls (host : Host σ) (calls : List Call) : Host (σ × List Call) :=
  ⟨host.desk, host.documents, host.app, calls⟩

theorem invoke_recorded
    (app : Application σ) (host : Host σ) (calls : List Call) (descriptor : Descriptor)
    (params : Json) :
    (host.withCalls calls).invoke app.recorded descriptor params =
      ((host.invoke app descriptor params).1,
        (host.invoke app descriptor params).2.withCalls (calls ++ descriptor.calls params)) := by
  unfold invoke Descriptor.calls
  cases descriptor.handler.kind with
  | application declared => rfl
  | documentSync selector => simp [withCalls]
  | executeCommand table => simp [withCalls, CommandTable.serve]

theorem invokeAll_recorded
    (app : Application σ) (host : Host σ) (calls : List Call) (descriptors : List Descriptor)
    (params : Json) :
    (host.withCalls calls).invokeAll app.recorded descriptors params =
      (host.invokeAll app descriptors params).withCalls
        (calls ++ descriptors.flatMap fun descriptor => descriptor.calls params) := by
  induction descriptors generalizing host calls with
  | nil => simp [invokeAll]
  | cons descriptor rest ih =>
      have hrest := ih (host.invoke app descriptor params).2 (calls ++ descriptor.calls params)
      simp only [invokeAll, List.foldl_cons, List.flatMap_cons, invoke_recorded] at hrest ⊢
      rw [hrest, List.append_assoc]

end Host

/-! ## The receivers of a message -/

/-- The parameters of a message. -/
def Message.params : Message → Json
  | .request _ _ params | .notification _ params => params
  | .response _ _ _ => .null

namespace LoopState

/-- A loop whose host keeps a list of calls. -/
def withCalls (state : LoopState σ) (calls : List Call) : LoopState (σ × List Call) :=
  ⟨state.host.withCalls calls, state.client, state.shutdownRequested, state.requestsMade⟩

/-- The descriptors whose handlers run when a message arrives. -/
def receivers (state : LoopState σ) : Message → List Descriptor
  | .request _ method params =>
      if method = "shutdown" ∨ method = "initialize" ∨ state.shutdownRequested then []
      else (state.host.snapshot.route method
        (target state.host.documents method params)).toList
  | .notification method params =>
      if method = "exit" then []
      else state.host.snapshot.routeAll method (target state.host.documents method params)
  | .response _ _ _ => []

theorem mem_of_mem_receivers
    {state : LoopState σ} {message : Message} {descriptor : Descriptor}
    (h : descriptor ∈ state.receivers message) :
    descriptor ∈ state.host.desk.registry.descriptors := by
  cases message with
  | request id method params =>
      simp only [receivers] at h
      split at h
      · cases h
      · exact List.mem_of_find?_eq_some (Option.mem_toList.mp h)
  | response id result error => cases h
  | notification method params =>
      simp only [receivers] at h
      split at h
      · cases h
      · exact (List.mem_filter.mp h).1

/-- The calls that reach the application while a message is handled. -/
def calls (app : Application σ) (state : LoopState σ) (message : Message) : List Call :=
  ((state.withCalls []).handle app.recorded message).state.host.app.2

theorem answer_recorded
    (app : Application σ) (state : LoopState σ) (calls : List Call) (id : RequestId)
    (method : String) (params : Json) :
    (state.withCalls calls).answer app.recorded id method params =
      { state := (state.answer app id method params).state.withCalls (calls ++
          (state.receivers (.request id method params)).flatMap fun descriptor =>
            descriptor.calls params)
        sent := (state.answer app id method params).sent
        control := (state.answer app id method params).control } := by
  unfold answer receivers
  by_cases hshutdown : method = "shutdown"
  · simp [hshutdown, withCalls]
  · by_cases hinit : method = "initialize"
    · simp [hinit, withCalls]
    · cases hasked : state.shutdownRequested with
      | true => simp [hshutdown, hinit, hasked, withCalls]
      | false =>
          have hroute : (state.host.withCalls calls).snapshot.route method
              (target (state.host.withCalls calls).documents method params) =
                state.host.snapshot.route method (target state.host.documents method params) :=
            rfl
          cases hfound : state.host.snapshot.route method
              (target state.host.documents method params) with
          | none => simp [hshutdown, hinit, hasked, withCalls, dispatch, hroute, hfound]
          | some descriptor =>
              simp [hshutdown, hinit, hasked, withCalls, dispatch, hroute, hfound,
                Host.invoke_recorded]

/-- Keeping a list of calls changes nothing else, and the list grows by the calls to the
receivers of the message. -/
theorem handle_recorded
    (app : Application σ) (state : LoopState σ) (calls : List Call) (message : Message) :
    (state.withCalls calls).handle app.recorded message =
      { state := (state.handle app message).state.withCalls (calls ++
          (state.receivers message).flatMap fun descriptor => descriptor.calls message.params)
        sent := (state.handle app message).sent
        control := (state.handle app message).control } := by
  cases message with
  | request id method params => exact answer_recorded app state calls id method params
  | response id result error => simp [handle, receivers]
  | notification method params =>
      by_cases hexit : method = "exit"
      · simp [handle, receivers, hexit]
      · have hdeliver : deliver app.recorded (state.host.withCalls calls) method params =
            (deliver app state.host method params).withCalls (calls ++
              (state.receivers (.notification method params)).flatMap fun descriptor =>
                descriptor.calls params) := by
          rw [receivers, if_neg hexit]
          exact Host.invokeAll_recorded app
            { state.host with documents := observed state.host method params } calls _ params
        simp only [handle, if_neg hexit, withCalls, hdeliver, Message.params]

theorem calls_eq (app : Application σ) (state : LoopState σ) (message : Message) :
    state.calls app message =
      (state.receivers message).flatMap fun descriptor => descriptor.calls message.params := by
  rw [calls, handle_recorded]
  rfl

/-- A request changes the host by the calls to its receivers alone. -/
theorem host_answer
    (app : Application σ) (state : LoopState σ) (id : RequestId) (method : String)
    (params : Json) :
    (state.answer app id method params).state.host =
      state.host.invokeAll app (state.receivers (.request id method params)) params := by
  unfold answer receivers
  by_cases hshutdown : method = "shutdown"
  · simp [hshutdown, Host.invokeAll]
  · by_cases hinit : method = "initialize"
    · simp [hinit, Host.invokeAll]
    · cases state.shutdownRequested with
      | true => simp [hshutdown, hinit, Host.invokeAll]
      | false =>
          cases hfound : state.host.snapshot.route method
              (target state.host.documents method params) with
          | none => simp [hshutdown, hinit, dispatch, hfound, Host.invokeAll]
          | some descriptor =>
              simp [hshutdown, hinit, dispatch, hfound, Host.invokeAll]

end LoopState

end Switchboard
