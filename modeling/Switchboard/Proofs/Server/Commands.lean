import Mathlib.Data.List.Basic
import Mathlib.Tactic.Common
import Switchboard.Proofs.Client.Declaration
import Switchboard.Proofs.Loop.Lifecycle
import Switchboard.Proofs.Negotiation.Commands
import Switchboard.Proofs.Server.Welcome

/-!
# Commands of a server without handlers of its own

The command names in a client's settings reach the client and the message loop on two
ways: through the options of the built-in handler, which are merged and sorted into the
advertisement, and through the table that the handler looks names up in.  Names that
repeat or shadow a built-in command come out the same on both.  No message changes the
registry while it holds built-in handlers only, so the loop answers commands at any time
as it does after the welcome.
-/

namespace Switchboard

variable {σ : Type}

/-! ## Built-in handlers -/

/-- The handler of a descriptor is none of the application's own. -/
def Descriptor.IsBuiltin (descriptor : Descriptor) : Prop :=
  ∀ declared, descriptor.handler.kind ≠ .application declared

/-- A registry with built-in handlers only. -/
def Registry.IsBuiltin (registry : Registry) : Prop :=
  ∀ descriptor ∈ registry.descriptors, descriptor.IsBuiltin

namespace Host

variable (app : Application σ) (host : Host σ) (params : Json)

theorem invoke_of_isBuiltin {descriptor : Descriptor} (h : descriptor.IsBuiltin) :
    (host.invoke app descriptor params).2 = host := by
  unfold invoke
  split
  next declared hkind => exact absurd hkind (h declared)
  next => rfl
  next => rfl

theorem invokeAll_of_isBuiltin
    {descriptors : List Descriptor} (h : ∀ descriptor ∈ descriptors, descriptor.IsBuiltin) :
    host.invokeAll app descriptors params = host := by
  induction descriptors with
  | nil => rfl
  | cons descriptor rest ih =>
      have hfirst := invoke_of_isBuiltin app host params (h descriptor List.mem_cons_self)
      have hrest := ih fun other hother => h other (List.mem_cons_of_mem _ hother)
      rw [invokeAll, List.foldl_cons, hfirst]
      exact hrest

end Host

namespace LoopState

variable (app : Application σ) {state : LoopState σ}

/-- Built-in handlers leave the registry alone. -/
theorem desk_handle
    (h : state.host.desk.registry.IsBuiltin) (message : Message) :
    (state.handle app message).state.host.desk = state.host.desk := by
  have hreceivers : ∀ descriptor ∈ state.receivers message, descriptor.IsBuiltin :=
    fun descriptor hmem => h descriptor (mem_of_mem_receivers hmem)
  cases message with
  | request id method params =>
      rw [handle, host_answer, Host.invokeAll_of_isBuiltin app _ _ hreceivers]
  | response id result error => rfl
  | notification method params =>
      by_cases hexit : method = "exit"
      · simp [handle, hexit]
      · rw [receivers, if_neg hexit] at hreceivers
        simp only [handle, if_neg hexit, deliver, Host.invokeAll_of_isBuiltin app _ _ hreceivers]

theorem desk_attend
    (h : state.host.desk.registry.IsBuiltin) (messages : List Message) :
    (attend app state messages).1.host.desk = state.host.desk := by
  induction messages generalizing state with
  | nil => rfl
  | cons message rest ih =>
      have hkept := desk_handle app h message
      have hbuiltin : (state.handle app message).state.host.desk.registry.IsBuiltin := hkept ▸ h
      rw [attend, ih hbuiltin, hkept]

end LoopState

/-! ## The settings -/

/-- The commands that a server has for some settings: the built-in and the configured
ones. -/
def ServerConfig.HasCommand (config : ServerConfig) (command : String) : Prop :=
  command ∈ builtinCommands ∨ command ∈ config.commands

/-- Leaving out the names of built-in commands loses none of them. -/
theorem CommandTable.mem_commands_ofCommands
    {config : ServerConfig} {sharesDocuments : Bool} {command : String} :
    command ∈ (CommandTable.ofCommands config.commands sharesDocuments).commands ↔
      config.HasCommand command := by
  rw [commands, ofCommands, List.mem_append, List.mem_filter, ServerConfig.HasCommand]
  by_cases hbuiltin : command ∈ builtinCommands <;> simp [hbuiltin]

/-! ## The registry after the welcome -/

/-- The descriptor of the built-in command handler that a desk adds for some settings. -/
def Desk.commandDescriptor (desk : Desk) (config : ServerConfig) : Descriptor :=
  ⟨desk.registry.nextId + Capability.textDocumentSync.methods.length, "workspace/executeCommand",
    some .executeCommand,
    ⟨desk.registry.nextSerial + 1, .executeCommand (.ofCommands config.commands true)⟩, none⟩

theorem Descriptor.of_mem_series
    {next : Nat} {capability : Capability} {handler : Handler}
    {selector : Option DocumentSelector} {descriptor : Descriptor}
    (h : descriptor ∈ series next capability handler selector) :
    descriptor.method ∈ capability.methods ∧ descriptor.capability = some capability ∧
      descriptor.handler = handler := by
  obtain ⟨⟨method, id⟩, hmethod, rfl⟩ := List.mem_map.mp h
  exact ⟨List.fst_mem_of_mem_zipIdx hmethod, rfl, rfl⟩

section Builtin

variable {registry : Registry} {desk : Desk} {config : ServerConfig} {selector : DocumentSelector}
  (h : registry.descriptors = desk.builtinDescriptors config selector true)

include h

/-- The descriptors of the sync handler stand before the one for commands. -/
theorem Registry.exists_descriptors_eq :
    ∃ others, registry.descriptors = others ++ [desk.commandDescriptor config] ∧
      ∀ descriptor ∈ others, descriptor.method ∈ Capability.textDocumentSync.methods ∧
        descriptor.capability = some .textDocumentSync ∧
        descriptor.handler = ⟨desk.registry.nextSerial, .documentSync config.documentSelector⟩ :=
  ⟨_, h, fun _ hmem => Descriptor.of_mem_series hmem⟩

theorem Registry.isBuiltin_of_builtinDescriptors : registry.IsBuiltin := by
  obtain ⟨others, hlist, hothers⟩ := exists_descriptors_eq h
  intro descriptor hmem declared hkind
  rw [hlist, List.mem_append, List.mem_singleton] at hmem
  rcases hmem with hother | rfl
  · rw [(hothers descriptor hother).2.2] at hkind
    cases hkind
  · cases hkind

theorem Snapshot.forCapability_of_builtinDescriptors :
    registry.snapshot.forCapability .executeCommand = [desk.commandDescriptor config] := by
  obtain ⟨others, hlist, hothers⟩ := Registry.exists_descriptors_eq h
  have hnone : (others.filter fun descriptor =>
      descriptor.capability == some Capability.executeCommand) = [] := by
    rw [List.filter_eq_nil_iff]
    intro descriptor hmem
    rw [(hothers descriptor hmem).2.1]
    decide
  rw [forCapability, Registry.snapshot, hlist, List.filter_append, hnone]
  rfl

theorem Snapshot.route_of_builtinDescriptors (document : Option DocumentRef) :
    registry.snapshot.route "workspace/executeCommand" document =
      some (desk.commandDescriptor config) := by
  obtain ⟨others, hlist, hothers⟩ := Registry.exists_descriptors_eq h
  have hnone : others.find? (serves "workspace/executeCommand" document) = none := by
    rw [List.find?_eq_none]
    intro descriptor hmem hserves
    have hmethod : descriptor.method = "workspace/executeCommand" := by
      simp only [serves, Bool.and_eq_true, beq_iff_eq] at hserves
      exact hserves.1
    have hsync := (hothers descriptor hmem).1
    rw [hmethod] at hsync
    exact absurd hsync (by decide)
  have hcommand : serves "workspace/executeCommand" document (desk.commandDescriptor config) =
      true := by
    cases document <;> rfl
  rw [route, Registry.snapshot, hlist, List.find?_append, hnone, Option.none_or,
    List.find?_singleton, if_pos hcommand]

/-- The commands of the table are advertised sorted and without repetitions. -/
theorem Snapshot.advertisement_of_builtinDescriptors
    {tree : ClientTree} (hinitial : tree.channel .executeCommand = .initial) :
    registry.snapshot.advertisement tree .executeCommand =
      some (.object [("commands", .ofTexts (distinctSorted (fun a b => decide (a < b))
        (CommandTable.ofCommands config.commands true).commands))]) := by
  have hstatic : (tree.dynamicSupport .executeCommand).isStatic = true :=
    ClientTree.dynamicSupport_isStatic_iff.mpr hinitial
  have hlisted := forCapability_of_builtinDescriptors h
  have hactive : registry.snapshot.hasStatic (tree.dynamicSupport .executeCommand) = true := by
    simp [hasStatic, hstatic, containsCapability, hlisted]
  have hoffered : (registry.snapshot.staticOptions
      (tree.dynamicSupport .executeCommand)).offered =
        [.ofMembers (Options.commandMembers
          (CommandTable.ofCommands config.commands true).commands false)] := by
    simp only [StaticOptions.offered, staticOptions, hstatic, if_true,
      ClientTree.dynamicSupport_capability, hlisted]
    rfl
  rw [advertisement_executeCommand hactive, hoffered, Options.mergeCommands_eq,
    List.flatMap_singleton, Options.listedCommands_commandMembers]
  rfl

end Builtin

/-! ## The conversation -/

/-- The loop answers calls of the commands that a server has for some settings, and
refuses those of all others. -/
def LoopState.AnswersCommands (app : Application σ) (state : LoopState σ)
    (config : ServerConfig) : Prop :=
  ∀ id command,
    (config.HasCommand command → ∃ value,
      (state.handle app (.request id "workspace/executeCommand"
        (.ofMembers [("command", .string command)]))).sent = [.success id value]) ∧
    (¬config.HasCommand command →
      (state.handle app (.request id "workspace/executeCommand"
        (.ofMembers [("command", .string command)]))).sent =
          [.failure id .invalidParams ("invalid params: unknown command " ++ command)])

/-- The answer to an initialization advertises the commands that a server has for some
settings, each once and in order. -/
def Welcome.ListsCommands (welcome : Welcome) (config : ServerConfig) : Prop :=
  ∃ listed, welcome.capabilities.member? "executeCommandProvider" =
      some (.object [("commands", .ofTexts listed)]) ∧
    listed.Pairwise (· < ·) ∧ ∀ command, command ∈ listed ↔ config.HasCommand command

theorem LoopState.answersCommands_of_builtinDescriptors
    (app : Application σ) {state : LoopState σ} {desk : Desk} {config : ServerConfig}
    {selector : DocumentSelector}
    (h : state.host.desk.registry.descriptors = desk.builtinDescriptors config selector true)
    (halive : state.host.desk.alive = true) (hopen : state.shutdownRequested = false) :
    state.AnswersCommands app config := by
  have hbacked : (desk.commandDescriptor config).Backed app state.host :=
    Descriptor.backed_of_executeCommand app rfl rfl halive
  have hknown : ∀ command, command ∈ (desk.commandDescriptor config).commands ↔
      config.HasCommand command := by
    intro command
    rw [Descriptor.commands_of_executeCommand rfl, CommandTable.mem_commands_ofCommands]
  intro id command
  obtain ⟨hanswers, hrefuses⟩ := sent_of_backed hopen
    (Snapshot.route_of_builtinDescriptors h _) hbacked id (readCommand?_call command)
  rw [hknown] at hanswers hrefuses
  exact ⟨hanswers, hrefuses⟩

/-- With the built-in handlers alone, no message changes what the loop answers, until it is
asked to shut down. -/
theorem LoopState.answersCommands_attend
    (app : Application σ) {state : LoopState σ} {desk : Desk} {config : ServerConfig}
    {selector : DocumentSelector}
    (h : state.host.desk.registry.descriptors = desk.builtinDescriptors config selector true)
    (halive : state.host.desk.alive = true) (hopen : state.shutdownRequested = false)
    {messages : List Message} (hmessages : ∀ message ∈ messages, message.isShutdown = false) :
    (state.attend app messages).1.AnswersCommands app config := by
  have hkept := desk_attend app (Registry.isBuiltin_of_builtinDescriptors h) messages
  have hnone : messages.any Message.isShutdown = false := by
    simpa using hmessages
  apply answersCommands_of_builtinDescriptors app
  · rw [hkept]
    exact h
  · rw [hkept]
    exact halive
  · rw [shutdownRequested_attend, hopen, hnone, Bool.or_false]

theorem Snapshot.listsCommands_of_builtinDescriptors
    {registry : Registry} {desk : Desk} {config : ServerConfig} {selector : DocumentSelector}
    (h : registry.descriptors = desk.builtinDescriptors config selector true)
    {tree : ClientTree} (hinitial : tree.channel .executeCommand = .initial) (name : String) :
    (Welcome.mk (registry.snapshot.serverCapabilities tree) name tree).ListsCommands config := by
  have hfield : Capability.executeCommand.serverField = some "executeCommandProvider" := rfl
  refine ⟨_, (serverCapabilities_member? tree hfield).trans
    (advertisement_of_builtinDescriptors h hinitial), ?_, ?_⟩
  · exact pairwise_distinctSorted (by simp) _
  · intro command
    rw [mem_distinctSorted, CommandTable.mem_commands_ofCommands]

namespace Connection

/-- The initialization is answered, and adds the built-in handlers to the registry. -/
theorem exists_greet_initialize (host : Host σ) (params : Json) (id : RequestId) :
    let config := ServerConfig.ofInitializeParams params
    let client := ClientTree.ofInitializeParams params
    ∃ selector registry,
      registry.descriptors = host.desk.registry.descriptors ++
        host.desk.builtinDescriptors config selector true ∧
      greet host (.request id "initialize" params) =
        (.confirming
          { host := { host with desk := { host.desk with registry := registry } }
            client := client },
          [.success id (Welcome.mk (registry.snapshot.serverCapabilities client)
            config.serverName client).toJson]) := by
  intro config client
  obtain ⟨selector, hselector⟩ := ServerConfig.exists_ofSpecs_ofInitializeParams params
  obtain ⟨registry, hadded, hdescriptors⟩ := host.desk.addBuiltin_eq hselector true
  refine ⟨selector, registry, hdescriptors, ?_⟩
  simp only [greet, if_true, Desk.welcome, hadded]
  rfl

/-- Until the client tells it to exit, the connection attends to the messages. -/
theorem receiveAll_serving
    (app : Application σ) (state : LoopState σ) {messages : List Message}
    (h : ∀ message ∈ messages, message.isExit = false) :
    receiveAll app (.serving state) messages =
      (.serving (state.attend app messages).1, (state.attend app messages).2) := by
  induction messages generalizing state with
  | nil => rfl
  | cons message rest ih =>
      have hproceeds : (state.handle app message).control = .proceed := by
        rw [LoopState.control_handle, h message List.mem_cons_self]
        rfl
      have hrest := ih (state.handle app message).state fun other hother =>
        h other (List.mem_cons_of_mem _ hother)
      simp only [receiveAll, receive, hproceeds, hrest, LoopState.attend]

/-- After the handshake the connection attends to the messages with the host that it had
after the welcome. -/
theorem exists_receiveAll_greeting
    (app : Application σ) {host : Host σ} {initialization answer : Message}
    {welcomed : LoopState σ}
    (hgreet : greet host initialization = (.confirming welcomed, [answer]))
    (confirmation : Json) {messages : List Message}
    (h : ∀ message ∈ messages, message.isExit = false) :
    ∃ confirmed : LoopState σ,
      (receiveAll app (.greeting host) (initialization ::
        .notification "initialized" confirmation :: messages)).1 =
          .serving (confirmed.attend app messages).1 ∧
      confirmed.host = welcomed.host ∧
      confirmed.shutdownRequested = welcomed.shutdownRequested := by
  refine ⟨welcomed.requestRegistrations.2.state, ?_, ?_, ?_⟩
  · simp only [receiveAll, receive, hgreet, confirm, receiveAll_serving app _ h]
  · simp only [LoopState.requestRegistrations]
    split <;> rfl
  · simp only [LoopState.requestRegistrations]
    split <;> rfl

end Connection

/-- A server without handlers of its own answers every initialization.  If the client wants
commands announced from the start, the answer lists the built-in commands and those of the
client's settings, each once and in order; and the loop answers exactly these, whatever
messages came before, until it is asked to shut down. -/
theorem builtin_commands_served
    (app : Application σ) (resolver : Resolver) (firstId : Nat) (own : σ)
    (params confirmation : Json) (id : RequestId) (earlier : List Message)
    (hearlier : ∀ message ∈ earlier, message.isShutdown = false ∧ message.isExit = false) :
    let host : Host σ := { desk := Desk.opened resolver firstId, app := own }
    let config := ServerConfig.ofInitializeParams params
    (∃ (welcome : Welcome) (state : LoopState σ),
      Connection.greet host (.request id "initialize" params) =
        (.confirming state, [.success id welcome.toJson]) ∧
      ((ClientTree.ofInitializeParams params).channel .executeCommand = .initial →
        welcome.ListsCommands config)) ∧
    ∃ state,
      (Connection.receiveAll app (.greeting host) (.request id "initialize" params ::
        .notification "initialized" confirmation :: earlier)).1 = .serving state ∧
      state.AnswersCommands app config := by
  intro host config
  obtain ⟨selector, registry, hdescriptors, hgreet⟩ :=
    Connection.exists_greet_initialize host params id
  have hlist : registry.descriptors = host.desk.builtinDescriptors config selector true :=
    hdescriptors
  refine ⟨⟨_, _, hgreet, ?_⟩, ?_⟩
  · intro hinitial
    exact Snapshot.listsCommands_of_builtinDescriptors hlist hinitial _
  · obtain ⟨confirmed, hserving, hhost, hopen⟩ :=
      Connection.exists_receiveAll_greeting app hgreet confirmation fun message hmessage =>
        (hearlier message hmessage).2
    have hbuiltin : confirmed.host.desk.registry.descriptors =
        host.desk.builtinDescriptors config selector true := by
      rw [hhost]
      exact hlist
    have halive : confirmed.host.desk.alive = true := by
      rw [hhost]
      rfl
    exact ⟨_, hserving, LoopState.answersCommands_attend app hbuiltin halive hopen
      fun message hmessage => (hearlier message hmessage).1⟩

/-- An initialization whose settings repeat a command and name a built-in one. -/
def repetitiveParams : Json :=
  .ofMembers [
    ("capabilities", .ofMembers [("workspace", .ofMembers [("executeCommand", .ofMembers [])])]),
    ("initializationOptions", .ofMembers [
      ("commands", .ofTexts ["beta", "capstan.listMethods", "alpha", "beta"])])]

/-- A document is opened, and a request comes that nothing serves. -/
def openingMessages : List Message :=
  [.notification "textDocument/didOpen" (.ofMembers [("textDocument", .ofMembers [
      ("uri", .string "file:///a.lean"), ("languageId", .string "lean"),
      ("version", .integer 1), ("text", .string "def a := 1")])]),
    .request (.number 2) "textDocument/hover" (.ofMembers [])]

theorem repetitiveParams_served :
    let host : Host Unit := { desk := Desk.opened Resolver.none 1, app := () }
    let config := ServerConfig.ofInitializeParams repetitiveParams
    config.commands = ["beta", "capstan.listMethods", "alpha", "beta"] ∧
    (∃ (welcome : Welcome) (state : LoopState Unit),
      Connection.greet host (.request (.number 1) "initialize" repetitiveParams) =
        (.confirming state, [.success (.number 1) welcome.toJson]) ∧
      welcome.ListsCommands config) ∧
    ∃ state,
      (Connection.receiveAll mute (.greeting host) (.request (.number 1) "initialize"
        repetitiveParams :: .notification "initialized" .null :: openingMessages)).1 =
          .serving state ∧
      state.AnswersCommands mute config := by
  intro host config
  obtain ⟨⟨welcome, state, hgreet, hlists⟩, hserved⟩ := builtin_commands_served mute
    Resolver.none 1 () repetitiveParams .null (.number 1) openingMessages (by decide +kernel)
  exact ⟨by decide +kernel, ⟨welcome, state, hgreet, hlists (by decide +kernel)⟩, hserved⟩

end Switchboard
