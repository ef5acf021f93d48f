import Mathlib.Data.List.Basic
import Mathlib.Tactic.Common
import Switchboard.Loop
import Switchboard.Proofs.Negotiation.Advertisement
import Switchboard.Proofs.Options.Commands
import Switchboard.Proofs.Registry.Ownership

/-!
# Commands that are advertised and commands that are answered

The advertisement unites the command lists of all handlers with the capability,
while a request for a command goes to the first handler of its method alone.
The main statement says for which registries the two agree.
-/

namespace Switchboard

/-! ## The advertised commands -/

namespace Descriptor

/-- The commands that a descriptor's handler lists in its options. -/
def commands (descriptor : Descriptor) : List String :=
  ((descriptor.handler.options .executeCommand).map Options.listedCommands).getD []

theorem mem_commands_iff {descriptor : Descriptor} {command : String} :
    command ∈ descriptor.commands ↔
      ∃ option, descriptor.handler.options .executeCommand = some option ∧
        command ∈ Options.listedCommands option := by
  unfold commands
  cases descriptor.handler.options .executeCommand <;> simp

end Descriptor

namespace Snapshot

variable {snapshot : Snapshot}

/-- The commands advertised to a client. -/
def advertisedCommands (snapshot : Snapshot) (tree : ClientTree) : List String :=
  (((snapshot.serverCapabilities tree).member? "executeCommandProvider").map
    Options.listedCommands).getD []

/-- The command options of a handler are offered once, whatever the number of its
descriptors. -/
theorem mem_offered_iff
    {tree : ClientTree} (hstatic : (tree.dynamicSupport .executeCommand).isStatic = true)
    {option : Json} :
    option ∈ (snapshot.staticOptions (tree.dynamicSupport .executeCommand)).offered ↔
      ∃ descriptor ∈ snapshot.forCapability .executeCommand,
        descriptor.handler.options .executeCommand = some option := by
  have hoptions : ∀ descriptor ∈ snapshot.forCapability .executeCommand,
      descriptor.options = descriptor.handler.options .executeCommand := by
    intro descriptor hmem
    simp [Descriptor.options, (mem_forCapability.mp hmem).2]
  simp only [StaticOptions.offered, staticOptions, hstatic, if_true, List.mem_filterMap,
    ClientTree.dynamicSupport_capability]
  constructor
  · rintro ⟨descriptor, hkept, hoption⟩
    have hmem := mem_of_mem_onePerHandler hkept
    exact ⟨descriptor, hmem, (hoptions descriptor hmem).symm.trans hoption⟩
  · rintro ⟨descriptor, hmem, hoption⟩
    obtain ⟨kept, hkept, hhandler⟩ := exists_mem_onePerHandler hmem
    refine ⟨kept, hkept, ?_⟩
    rw [hoptions kept (mem_of_mem_onePerHandler hkept), hhandler]
    exact hoption

theorem advertisement_executeCommand
    {tree : ClientTree}
    (hstatic : snapshot.hasStatic (tree.dynamicSupport .executeCommand) = true) :
    snapshot.advertisement tree .executeCommand =
      some (Options.mergeCommands
        (snapshot.staticOptions (tree.dynamicSupport .executeCommand)).offered) := by
  have hchosen : snapshot.chosen (tree.dynamicSupport .executeCommand) =
      some (Options.mergeCommands
        (snapshot.staticOptions (tree.dynamicSupport .executeCommand)).offered) := by
    have hreduced : (snapshot.staticOptions (tree.dynamicSupport .executeCommand)).reduced =
        some (Options.mergeCommands
          (snapshot.staticOptions (tree.dynamicSupport .executeCommand)).offered) := by
      simp [StaticOptions.reduced, staticOptions, Options.reduce]
    have howner : Capability.executeCommand.ownership = .multi := rfl
    simp [chosen, howner, hreduced]
  unfold advertisement
  rw [if_pos hstatic, hchosen, Options.mergeCommands_eq]
  exact Options.advertised_commandMembers _ _

/-- A command is advertised when any handler with the capability lists it. -/
theorem mem_advertisedCommands_iff
    {tree : ClientTree} (hstatic : (tree.dynamicSupport .executeCommand).isStatic = true)
    {command : String} :
    command ∈ snapshot.advertisedCommands tree ↔
      ∃ descriptor ∈ snapshot.forCapability .executeCommand, command ∈ descriptor.commands := by
  have hmember : (snapshot.serverCapabilities tree).member? "executeCommandProvider" =
      snapshot.advertisement tree .executeCommand :=
    serverCapabilities_member? tree rfl
  rw [advertisedCommands, hmember]
  cases hlisted : snapshot.hasStatic (tree.dynamicSupport .executeCommand) with
  | true =>
      rw [advertisement_executeCommand hlisted]
      simp only [Option.map_some, Option.getD_some, Options.mem_listedCommands_mergeCommands,
        mem_offered_iff hstatic, Descriptor.mem_commands_iff]
      constructor
      · rintro ⟨option, ⟨descriptor, hmem, hoption⟩, hcommand⟩
        exact ⟨descriptor, hmem, option, hoption, hcommand⟩
      · rintro ⟨descriptor, hmem, option, hoption, hcommand⟩
        exact ⟨option, ⟨descriptor, hmem, hoption⟩, hcommand⟩
  | false =>
      have hempty : snapshot.forCapability .executeCommand = [] := by
        simpa [hasStatic, hstatic, containsCapability] using hlisted
      simp [advertisement, hlisted, hempty]

end Snapshot

/-! ## The answers -/

/-- A request for a command goes to the first descriptor of the method, for
commands are not scoped to documents. -/
theorem Registry.Lawful.route_executeCommand
    {registry : Registry} (h : registry.Lawful) (document : Option DocumentRef) :
    registry.snapshot.route "workspace/executeCommand" document =
      (registry.snapshot.forMethod "workspace/executeCommand").head? := by
  have hserves : ∀ descriptor ∈ registry.descriptors,
      Snapshot.serves "workspace/executeCommand" document descriptor =
        (descriptor.method == "workspace/executeCommand") := by
    intro descriptor hmem
    cases hmethod : descriptor.method == "workspace/executeCommand" with
    | false => simp [Snapshot.serves, hmethod]
    | true =>
        have hcapability : descriptor.capability = some .executeCommand :=
          h.capability_eq hmem (by rw [beq_iff_eq.mp hmethod]; decide)
        have hunscoped : descriptor.binding.isScoped = false := by
          simp only [Descriptor.binding, Binding.isScoped, hcapability]
          rfl
        have hselector : descriptor.selector = none :=
          Descriptor.selector_eq_none_of_ofBinding (h.described descriptor hmem) hunscoped
        cases document <;> simp [Snapshot.serves, hmethod, Descriptor.admits, hselector]
  rw [Snapshot.route_eq_head?_routeAll]
  exact congrArg List.head? (List.filter_congr hserves)

section Answers

variable {σ : Type} (app : Application σ)

/-- A descriptor's handler accepts exactly the commands it lists. -/
def Descriptor.Backed (host : Host σ) (descriptor : Descriptor) : Prop :=
  ∀ params command, readCommand? params = some command →
    (command ∈ descriptor.commands → ∃ value, (host.invoke app descriptor params).1 = .ok value) ∧
    (command ∉ descriptor.commands →
      (host.invoke app descriptor params).1 =
        .error (.invalidParams ("unknown command " ++ command)))

/-- The built-in handler of a live registry answers the commands it knows. -/
theorem CommandTable.serve_eq
    {table : CommandTable} {host : Host σ} (htable : table.registryAlive = true)
    (hhost : host.desk.alive = true) {params : Json} {command : String}
    (hread : readCommand? params = some command) :
    (command ∈ table.commands → ∃ value, table.serve params host = .ok value) ∧
      (command ∉ table.commands →
        table.serve params host = .error (.invalidParams ("unknown command " ++ command))) := by
  simp only [serve, hread, htable, hhost, Bool.and_self, if_true]
  by_cases hmethods : command = "capstan.listMethods"
  · simp [hmethods, commands, builtinCommands]
  · by_cases hdocuments : command = "capstan.listDocuments"
    · simp [hdocuments, commands, builtinCommands]
    · by_cases hextra : command ∈ table.extra
      · simp [hmethods, hdocuments, hextra, commands, builtinCommands]
      · simp [hmethods, hdocuments, hextra, commands, builtinCommands]

/-- A built-in handler lists the commands of its table. -/
theorem Descriptor.commands_of_executeCommand
    {descriptor : Descriptor} {table : CommandTable}
    (hkind : descriptor.handler.kind = .executeCommand table) :
    descriptor.commands = table.commands := by
  have hlist := Options.listedCommands_commandMembers table.commands false
  simpa [commands, Handler.options, hkind, Options.commandMembers] using hlist

/-- The built-in handlers of a live registry are backed. -/
theorem Descriptor.backed_of_executeCommand
    {host : Host σ} {descriptor : Descriptor} {table : CommandTable}
    (hkind : descriptor.handler.kind = .executeCommand table)
    (htable : table.registryAlive = true) (hhost : host.desk.alive = true) :
    descriptor.Backed app host := by
  intro params command hread
  have hserve : (host.invoke app descriptor params).1 = table.serve params host := by
    simp [Host.invoke, hkind]
  rw [commands_of_executeCommand hkind, hserve]
  exact CommandTable.serve_eq htable hhost hread

variable {app} {state : LoopState σ}

/-- A command call is answered by the descriptor that it is routed to: if this one is
backed, it answers the commands it lists and refuses all others. -/
theorem LoopState.sent_of_backed
    (hopen : state.shutdownRequested = false) {descriptor : Descriptor} {params : Json}
    (hroute : state.host.snapshot.route "workspace/executeCommand"
      (target state.host.documents "workspace/executeCommand" params) = some descriptor)
    (hbacked : descriptor.Backed app state.host) (id : RequestId) {command : String}
    (hread : readCommand? params = some command) :
    (command ∈ descriptor.commands →
      ∃ value, (state.handle app (.request id "workspace/executeCommand" params)).sent =
        [.success id value]) ∧
    (command ∉ descriptor.commands →
      (state.handle app (.request id "workspace/executeCommand" params)).sent =
        [.failure id .invalidParams ("invalid params: unknown command " ++ command)]) := by
  have hsent : (state.handle app (.request id "workspace/executeCommand" params)).sent =
      [respond id (state.host.invoke app descriptor params).1] := by
    simp [handle, answer, hopen, dispatch, hroute]
  obtain ⟨haccepts, hrefuses⟩ := hbacked params command hread
  rw [hsent]
  constructor
  · intro hlisted
    obtain ⟨value, hvalue⟩ := haccepts hlisted
    refine ⟨value, ?_⟩
    rw [hvalue]
    rfl
  · intro hunlisted
    rw [hrefuses hunlisted]
    simp [respond, HandlerError.message, ← String.append_assoc]

theorem LoopState.sent_executeCommand_none
    (hlawful : state.host.desk.registry.Lawful) (hopen : state.shutdownRequested = false)
    (hfirst : (state.host.snapshot.forMethod "workspace/executeCommand").head? = none)
    (id : RequestId) (params : Json) :
    (state.handle app (.request id "workspace/executeCommand" params)).sent =
      [.failure id .methodNotFound "Unhandled request: workspace/executeCommand"] := by
  have hroute : state.host.snapshot.route "workspace/executeCommand"
      (target state.host.documents "workspace/executeCommand" params) = none :=
    (hlawful.route_executeCommand _).trans hfirst
  simp [handle, answer, hopen, dispatch, hroute]

/-- A backed first descriptor answers the commands it lists and refuses all others. -/
theorem LoopState.sent_executeCommand_of_backed
    (hlawful : state.host.desk.registry.Lawful) (hopen : state.shutdownRequested = false)
    {first : Descriptor}
    (hfirst : (state.host.snapshot.forMethod "workspace/executeCommand").head? = some first)
    (hbacked : first.Backed app state.host)
    (id : RequestId) {params : Json} {command : String}
    (hread : readCommand? params = some command) :
    (command ∈ first.commands →
      ∃ value, (state.handle app (.request id "workspace/executeCommand" params)).sent =
        [.success id value]) ∧
    (command ∉ first.commands →
      (state.handle app (.request id "workspace/executeCommand" params)).sent =
        [.failure id .invalidParams ("invalid params: unknown command " ++ command)]) :=
  sent_of_backed hopen ((hlawful.route_executeCommand _).trans hfirst) hbacked id hread

/-- A command call names its command and needs no arguments. -/
theorem readCommand?_call (command : String) :
    readCommand? (.ofMembers [("command", .string command)]) = some command := by
  simp [readCommand?, Json.ofMembers, Table.ofList, Table.insert, Table.find?, Json.text?,
    Json.defaulted, Json.optional]

/-- Every command that the loop advertises to a client it answers with a result. -/
def LoopState.AnswersAdvertised (app : Application σ) (state : LoopState σ) (tree : ClientTree) :
    Prop :=
  ∀ command ∈ state.host.snapshot.advertisedCommands tree,
    ∀ id params, readCommand? params = some command →
      ∃ value, (state.handle app (.request id "workspace/executeCommand" params)).sent =
        [.success id value]

/-- The loop answers every command that it advertises exactly when the first
descriptor of the command method lists every command that any handler with the
capability lists.  A command that this descriptor does not list is refused. -/
theorem answersAdvertised_iff
    (resolver : Resolver) (firstId : Nat) (operations : List Operation) (tree : ClientTree)
    (hdesk : state.host.desk = Operation.performAll (Desk.opened resolver firstId) operations)
    (hopen : state.shutdownRequested = false)
    (hstatic : (tree.dynamicSupport .executeCommand).isStatic = true)
    (hbacked : ∀ descriptor ∈ state.host.snapshot.forMethod "workspace/executeCommand",
      descriptor.Backed app state.host) :
    (state.AnswersAdvertised app tree ↔
      ∀ descriptor ∈ state.host.snapshot.forCapability .executeCommand,
        ∀ command ∈ descriptor.commands, ∃ first,
          (state.host.snapshot.forMethod "workspace/executeCommand").head? = some first ∧
            command ∈ first.commands) ∧
    ∀ first, (state.host.snapshot.forMethod "workspace/executeCommand").head? = some first →
      ∀ command, command ∉ first.commands → ∀ id params, readCommand? params = some command →
        (state.handle app (.request id "workspace/executeCommand" params)).sent =
          [.failure id .invalidParams ("invalid params: unknown command " ++ command)] := by
  have hlawful : state.host.desk.registry.Lawful := by
    rw [hdesk]
    exact Operation.opened_performAll_lawful resolver firstId operations
  have hanswer := fun first
      (hfirst : (state.host.snapshot.forMethod "workspace/executeCommand").head? = some first)
      id params command (hread : readCommand? params = some command) =>
    LoopState.sent_executeCommand_of_backed hlawful hopen hfirst
      (hbacked first (List.mem_of_head? hfirst)) id hread
  refine ⟨⟨?_, ?_⟩, ?_⟩
  · intro hanswers descriptor hmem command hcommand
    have hadvertised : command ∈ state.host.snapshot.advertisedCommands tree :=
      (Snapshot.mem_advertisedCommands_iff hstatic).mpr ⟨descriptor, hmem, hcommand⟩
    have hread := readCommand?_call command
    obtain ⟨value, hsent⟩ := hanswers command hadvertised (.number 0) _ hread
    cases hfirst : (state.host.snapshot.forMethod "workspace/executeCommand").head? with
    | none =>
        rw [LoopState.sent_executeCommand_none hlawful hopen hfirst] at hsent
        simp [Message.failure, Message.success] at hsent
    | some first =>
        refine ⟨first, rfl, ?_⟩
        by_contra hunlisted
        rw [(hanswer first hfirst _ _ command hread).2 hunlisted] at hsent
        simp [Message.failure, Message.success] at hsent
  · intro hlisted command hadvertised id params hread
    obtain ⟨descriptor, hmem, hcommand⟩ :=
      (Snapshot.mem_advertisedCommands_iff hstatic).mp hadvertised
    obtain ⟨first, hfirst, hknown⟩ := hlisted descriptor hmem command hcommand
    exact (hanswer first hfirst id params command hread).1 hknown
  · intro first hfirst command hunlisted id params hread
    exact (hanswer first hfirst id params command hread).2 hunlisted

end Answers

/-- An application whose own handlers answer nothing. -/
def mute : Application Unit := fun _ _ _ host => (.ok .null, host.desk, ())

/-- A client that supports commands and does not register them dynamically. -/
def plainCommandClient : ClientTree :=
  ⟨.ofMembers [("workspace", .ofMembers [("executeCommand", .object [])])]⟩

/-- A loop with one built-in command handler for each list of configured commands. -/
def commandLoop (extras : List (List String)) : LoopState Unit :=
  { host :=
      { desk := Operation.performAll (Desk.opened Resolver.none 1)
          (extras.zipIdx.map fun (extra, serial) =>
            .add [⟨serial, .executeCommand { extra := extra }⟩] none)
        app := () } }

theorem commandLoop_backed
    {extras : List (List String)} {descriptor : Descriptor}
    (h : descriptor.handler.kind ∈
      extras.map fun extra => HandlerKind.executeCommand { extra := extra }) :
    descriptor.Backed mute (commandLoop extras).host := by
  obtain ⟨extra, -, hkind⟩ := List.mem_map.mp h
  have halive : (commandLoop extras).host.desk.alive = true :=
    (Operation.performAll_orderly (Desk.opened_orderly Resolver.none 1) _).alive
  exact Descriptor.backed_of_executeCommand mute hkind.symm rfl halive

theorem commandLoop_alone_answers :
    (commandLoop [["alpha"]]).AnswersAdvertised mute plainCommandClient := by
  have hkinds : ∀ descriptor ∈
      (commandLoop [["alpha"]]).host.snapshot.forMethod "workspace/executeCommand",
      descriptor.handler.kind ∈
        [["alpha"]].map fun extra => HandlerKind.executeCommand { extra := extra } := by
    decide +kernel
  exact (answersAdvertised_iff Resolver.none 1 _ plainCommandClient rfl rfl (by decide +kernel)
    fun descriptor hmem => commandLoop_backed (hkinds descriptor hmem)).1.mpr (by decide +kernel)

/-- Of two built-in command handlers only the first is asked: what the second alone
lists is advertised and refused. -/
theorem commandLoop_second_refused :
    (plainCommandClient.dynamicSupport .executeCommand).isStatic = true ∧
      (∀ descriptor ∈ (commandLoop [["alpha"], ["beta"]]).host.snapshot.forMethod
        "workspace/executeCommand",
          descriptor.Backed mute (commandLoop [["alpha"], ["beta"]]).host) ∧
      "beta" ∈ (commandLoop [["alpha"], ["beta"]]).host.snapshot.advertisedCommands
        plainCommandClient ∧
      ((commandLoop [["alpha"], ["beta"]]).handle mute
        (.request (.number 1) "workspace/executeCommand"
          (.ofMembers [("command", .string "beta")]))).sent =
        [.failure (.number 1) .invalidParams "invalid params: unknown command beta"] := by
  have hkinds : ∀ descriptor ∈
      (commandLoop [["alpha"], ["beta"]]).host.snapshot.forMethod "workspace/executeCommand",
      descriptor.handler.kind ∈
        [["alpha"], ["beta"]].map fun extra => HandlerKind.executeCommand { extra := extra } := by
    decide +kernel
  refine ⟨by decide +kernel, ?_, by decide +kernel, by decide +kernel⟩
  intro descriptor hmem
  exact commandLoop_backed (hkinds descriptor hmem)

end Switchboard
