import Switchboard.Json.Basic

/-!
# The capability table

Every feature that a handler can implement has one row in the table: the
methods it serves, where the client declares support for it, the field it is
advertised under, and whether several handlers may share it.
-/

namespace Switchboard

/-- A protocol capability. -/
inductive Capability where
  | textDocumentSync
  | completion
  | hover
  | signatureHelp
  | declaration
  | definition
  | typeDefinition
  | implementation
  | references
  | documentHighlight
  | documentSymbol
  | codeAction
  | codeLens
  | documentLink
  | documentColor
  | formatting
  | rangeFormatting
  | onTypeFormatting
  | rename
  | foldingRange
  | selectionRange
  | linkedEditingRange
  | callHierarchy
  | semanticTokens
  | inlayHint
  | workspaceSymbol
  | executeCommand
  | didChangeConfiguration
  | didChangeWatchedFiles
  deriving DecidableEq, Repr, Inhabited

/-- How many handlers may own a capability at the same time. -/
inductive Ownership where
  /-- One handler per method. -/
  | single
  /-- Any number of handlers, whose options are combined. -/
  | multi
  deriving DecidableEq, Repr

/-- The part of the client's capabilities that declares a feature. -/
inductive Section where
  | textDocument
  | workspace
  deriving DecidableEq, Repr

/-- The member name of a section. -/
def Section.name : Section → String
  | .textDocument => "textDocument"
  | .workspace => "workspace"

/-- A row of the capability table. -/
structure Capability.Profile where
  /-- The method that a handler of the capability serves first. -/
  primary : String
  /-- The other methods served, after the primary one. -/
  others : List String := []
  /-- Where the client declares support. -/
  part : Section := .textDocument
  /-- The name under which it does so. -/
  node : String
  /-- The field of the server's advertisement, if there is one. -/
  field : Option String
  ownership : Ownership := .single
  /-- What is advertised when no handler offers options. -/
  plain : Option Json := some (.bool true)
  /-- The methods named in a dynamic registration, if not the primary one. -/
  registered : Option (List String) := none

namespace Capability

/-- Every capability, in table order. -/
def all : List Capability :=
  [.textDocumentSync, .completion, .hover, .signatureHelp, .declaration, .definition,
    .typeDefinition, .implementation, .references, .documentHighlight, .documentSymbol,
    .codeAction, .codeLens, .documentLink, .documentColor, .formatting, .rangeFormatting,
    .onTypeFormatting, .rename, .foldingRange, .selectionRange, .linkedEditingRange,
    .callHierarchy, .semanticTokens, .inlayHint, .workspaceSymbol, .executeCommand,
    .didChangeConfiguration, .didChangeWatchedFiles]

/-- The row of a capability. -/
def profile : Capability → Profile
  | .textDocumentSync =>
      { primary := "textDocument/didOpen"
        others := ["textDocument/didChange", "textDocument/didClose", "textDocument/didSave",
          "textDocument/willSave", "textDocument/willSaveWaitUntil"]
        node := "synchronization"
        field := some "textDocumentSync"
        ownership := .multi
        plain := some (.integer 1)
        registered := some ["textDocument/didOpen", "textDocument/didChange",
          "textDocument/didClose", "textDocument/didSave"] }
  | .completion =>
      { primary := "textDocument/completion"
        others := ["completionItem/resolve"]
        node := "completion"
        field := some "completionProvider"
        plain := some (.object []) }
  | .hover =>
      { primary := "textDocument/hover"
        node := "hover"
        field := some "hoverProvider" }
  | .signatureHelp =>
      { primary := "textDocument/signatureHelp"
        node := "signatureHelp"
        field := some "signatureHelpProvider"
        plain := some (.object []) }
  | .declaration =>
      { primary := "textDocument/declaration"
        node := "declaration"
        field := some "declarationProvider" }
  | .definition =>
      { primary := "textDocument/definition"
        node := "definition"
        field := some "definitionProvider" }
  | .typeDefinition =>
      { primary := "textDocument/typeDefinition"
        node := "typeDefinition"
        field := some "typeDefinitionProvider" }
  | .implementation =>
      { primary := "textDocument/implementation"
        node := "implementation"
        field := some "implementationProvider" }
  | .references =>
      { primary := "textDocument/references"
        node := "references"
        field := some "referencesProvider" }
  | .documentHighlight =>
      { primary := "textDocument/documentHighlight"
        node := "documentHighlight"
        field := some "documentHighlightProvider" }
  | .documentSymbol =>
      { primary := "textDocument/documentSymbol"
        node := "documentSymbol"
        field := some "documentSymbolProvider" }
  | .codeAction =>
      { primary := "textDocument/codeAction"
        others := ["codeAction/resolve"]
        node := "codeAction"
        field := some "codeActionProvider" }
  | .codeLens =>
      { primary := "textDocument/codeLens"
        others := ["codeLens/resolve"]
        node := "codeLens"
        field := some "codeLensProvider"
        plain := some (.object []) }
  | .documentLink =>
      { primary := "textDocument/documentLink"
        others := ["documentLink/resolve"]
        node := "documentLink"
        field := some "documentLinkProvider"
        plain := some (.object []) }
  | .documentColor =>
      { primary := "textDocument/documentColor"
        others := ["textDocument/colorPresentation"]
        node := "colorProvider"
        field := some "colorProvider" }
  | .formatting =>
      { primary := "textDocument/formatting"
        node := "formatting"
        field := some "documentFormattingProvider" }
  | .rangeFormatting =>
      { primary := "textDocument/rangeFormatting"
        node := "rangeFormatting"
        field := some "documentRangeFormattingProvider" }
  | .onTypeFormatting =>
      { primary := "textDocument/onTypeFormatting"
        node := "onTypeFormatting"
        field := some "documentOnTypeFormattingProvider"
        plain := none }
  | .rename =>
      { primary := "textDocument/rename"
        others := ["textDocument/prepareRename"]
        node := "rename"
        field := some "renameProvider" }
  | .foldingRange =>
      { primary := "textDocument/foldingRange"
        node := "foldingRange"
        field := some "foldingRangeProvider" }
  | .selectionRange =>
      { primary := "textDocument/selectionRange"
        node := "selectionRange"
        field := some "selectionRangeProvider" }
  | .linkedEditingRange =>
      { primary := "textDocument/linkedEditingRange"
        node := "linkedEditingRange"
        field := some "linkedEditingRangeProvider" }
  | .callHierarchy =>
      { primary := "textDocument/prepareCallHierarchy"
        others := ["callHierarchy/incomingCalls", "callHierarchy/outgoingCalls"]
        node := "callHierarchy"
        field := some "callHierarchyProvider" }
  | .semanticTokens =>
      { primary := "textDocument/semanticTokens/full"
        others := ["textDocument/semanticTokens/full/delta", "textDocument/semanticTokens/range"]
        node := "semanticTokens"
        field := some "semanticTokensProvider"
        plain := none
        registered := some ["textDocument/semanticTokens"] }
  | .inlayHint =>
      { primary := "textDocument/inlayHint"
        others := ["inlayHint/resolve"]
        node := "inlayHint"
        field := some "inlayHintProvider" }
  | .workspaceSymbol =>
      { primary := "workspace/symbol"
        part := .workspace
        node := "symbol"
        field := some "workspaceSymbolProvider" }
  | .executeCommand =>
      { primary := "workspace/executeCommand"
        part := .workspace
        node := "executeCommand"
        field := some "executeCommandProvider"
        ownership := .multi
        plain := some (.object [("commands", .array [])]) }
  | .didChangeConfiguration =>
      { primary := "workspace/didChangeConfiguration"
        part := .workspace
        node := "didChangeConfiguration"
        field := none
        ownership := .multi
        plain := none }
  | .didChangeWatchedFiles =>
      { primary := "workspace/didChangeWatchedFiles"
        part := .workspace
        node := "didChangeWatchedFiles"
        field := none
        ownership := .multi
        plain := none }

/-- The methods served by a handler of the capability, the primary one first. -/
def methods (capability : Capability) : List String :=
  capability.profile.primary :: capability.profile.others

/-- The method a handler of the capability serves first. -/
def primaryMethod (capability : Capability) : String := capability.profile.primary

/-- The methods named in a dynamic registration. -/
def registrationMethods (capability : Capability) : List String :=
  capability.profile.registered.getD [capability.profile.primary]

/-- Whether several handlers may own the capability. -/
def ownership (capability : Capability) : Ownership := capability.profile.ownership

/-- Where the client declares support for the capability. -/
def clientPath (capability : Capability) : List String :=
  [capability.profile.part.name, capability.profile.node]

/-- Whether handlers of the capability are scoped to documents. -/
def documentScoped (capability : Capability) : Bool :=
  capability.profile.part = .textDocument

/-- The field under which the server advertises the capability. -/
def serverField (capability : Capability) : Option String := capability.profile.field

/-- What is advertised when no handler offers options. -/
def defaultAdvertisement (capability : Capability) : Option Json := capability.profile.plain

/-- The capability's name in answers: the client path joined by a point. -/
def display (capability : Capability) : String := ".".intercalate capability.clientPath

/-- The place of the capability in the table. -/
def index (capability : Capability) : Nat := all.idxOf capability

/-- The capability that a protocol method belongs to. -/
def ofMethod? (method : String) : Option Capability :=
  all.find? fun capability => method ∈ capability.methods

theorem mem_all (capability : Capability) : capability ∈ all := by
  cases capability <;> decide

theorem pairwise_index_all : all.Pairwise fun c d => c.index < d.index := by
  decide +kernel

theorem pairwise_idxOf_methods (capability : Capability) :
    capability.methods.Pairwise fun m n =>
      capability.methods.idxOf m < capability.methods.idxOf n := by
  cases capability <;> decide +kernel

end Capability

end Switchboard
