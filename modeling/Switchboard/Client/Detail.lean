import Switchboard.Capability
import Switchboard.Json.Record

/-!
# Details of client capabilities

What a client may say about a feature it supports.  Each detail is a record
with optional fields; all of them have the flag that asks for dynamic
registration.
-/

namespace Switchboard

/-- The kinds of detail a client gives about a capability. -/
inductive Detail where
  /-- Any value. -/
  | raw
  /-- The flag for dynamic registration only. -/
  | dynamic
  | sync
  | completion
  | hover
  | signatureHelp
  | goto
  | documentSymbol
  | codeAction
  | documentLink
  | rename
  | foldingRange
  | semanticTokens
  | inlayHint
  | watchedFiles
  | workspaceSymbol
  deriving DecidableEq, Repr

namespace Detail

open Json.Shape

/-- The flag that asks for dynamic registration. -/
def dynamicFlag : String × Json.Presence × Json.Shape := free "dynamicRegistration" .flag

/-- The formats of a text. -/
def markup : Json.Shape := .list (.word ["markdown", "plaintext"])

/-- The kinds of completion items that a client knows, by number. -/
def completionKinds : Json.Shape := struct [free "valueSet" (.list .integer32)]

/-- The kinds of symbols that a client knows, by number; written as null when
they are absent. -/
def symbolKinds : Json.Shape := struct [kept "valueSet" (.list .integer32)]

/-- The properties that a client can resolve later. -/
def resolvable : Json.Shape := struct [needed "properties" (.list .text)]

/-- What a client wants of a completion item. -/
def completionItem : Json.Shape :=
  struct [free "snippetSupport" .flag, free "commitCharactersSupport" .flag,
    free "documentationFormat" markup, free "deprecatedSupport" .flag,
    free "preselectSupport" .flag, lenient "tagSupport" .tags,
    free "insertReplaceSupport" .flag, free "resolveSupport" resolvable,
    free "insertTextModeSupport" (struct [needed "valueSet" (.list .integer32)]),
    free "labelDetailsSupport" .flag]

/-- What a client wants of the description of a signature. -/
def signatureInformation : Json.Shape :=
  struct [free "documentationFormat" markup,
    free "parameterInformation" (struct [free "labelOffsetSupport" .flag]),
    free "activeParameterSupport" .flag]

/-- What a client wants of semantic tokens. -/
def tokenRequests : Json.Shape :=
  struct [free "range" .flag, free "full" (.either [.flag, object [free "delta" .flag]])]

/-- The shape of a detail; the raw one has none. -/
def shape? : Detail → Option Json.Shape
  | .raw => none
  | .dynamic => some (struct [dynamicFlag])
  | .sync => some (struct [dynamicFlag, free "willSave" .flag, free "willSaveWaitUntil" .flag,
      free "didSave" .flag])
  | .completion => some (struct [dynamicFlag, free "completionItem" completionItem,
      free "completionItemKind" completionKinds, free "contextSupport" .flag,
      free "insertTextMode" .integer32,
      free "completionList" (struct [free "itemDefaults" (.list .text)])])
  | .hover => some (struct [dynamicFlag, free "contentFormat" markup])
  | .signatureHelp => some (struct [dynamicFlag,
      free "signatureInformation" signatureInformation, free "contextSupport" .flag])
  | .goto => some (struct [dynamicFlag, free "linkSupport" .flag])
  | .documentSymbol => some (struct [dynamicFlag, free "symbolKind" symbolKinds,
      free "hierarchicalDocumentSymbolSupport" .flag, lenient "tagSupport" .tags])
  | .codeAction => some (struct [dynamicFlag,
      free "codeActionLiteralSupport"
        (struct [needed "codeActionKind" (struct [needed "valueSet" (.list .text)])]),
      free "isPreferredSupport" .flag, free "disabledSupport" .flag, free "dataSupport" .flag,
      free "resolveSupport" resolvable, free "honorsChangeAnnotations" .flag])
  | .documentLink => some (struct [dynamicFlag, free "tooltipSupport" .flag])
  | .rename => some (struct [dynamicFlag, free "prepareSupport" .flag,
      free "prepareSupportDefaultBehavior" .integer32, free "honorsChangeAnnotations" .flag])
  | .foldingRange => some (struct [dynamicFlag, free "rangeLimit" .natural32,
      free "lineFoldingOnly" .flag,
      free "foldingRangeKind"
        (struct [free "valueSet" (.list (.word ["comment", "imports", "region"]))]),
      free "foldingRange" (struct [free "collapsedText" .flag])])
  | .semanticTokens => some (struct [dynamicFlag, needed "requests" tokenRequests,
      needed "tokenTypes" (.list .text), needed "tokenModifiers" (.list .text),
      needed "formats" (.list .text), free "overlappingTokenSupport" .flag,
      free "multilineTokenSupport" .flag, free "serverCancelSupport" .flag,
      free "augmentsSyntaxTokens" .flag])
  | .inlayHint => some (struct [dynamicFlag, free "resolveSupport" resolvable])
  | .watchedFiles => some (struct [dynamicFlag, free "relativePatternSupport" .flag])
  | .workspaceSymbol => some (struct [dynamicFlag, free "symbolKind" symbolKinds,
      lenient "tagSupport" .tags, free "resolveSupport" resolvable])

/-- Reads a detail into its canonical form. -/
def read (detail : Detail) (j : Json) : Option Json :=
  match detail.shape? with
  | none => some j
  | some shape => shape.read j

/-- The detail that typed client capabilities hold for a capability. -/
def ofCapability : Capability → Detail
  | .textDocumentSync => .sync
  | .completion => .completion
  | .hover => .hover
  | .signatureHelp => .signatureHelp
  | .declaration | .definition | .typeDefinition | .implementation => .goto
  | .documentSymbol => .documentSymbol
  | .codeAction => .codeAction
  | .documentLink => .documentLink
  | .rename => .rename
  | .foldingRange => .foldingRange
  | .semanticTokens => .semanticTokens
  | .inlayHint => .inlayHint
  | .didChangeWatchedFiles => .watchedFiles
  | .workspaceSymbol => .workspaceSymbol
  | _ => .dynamic

end Detail

end Switchboard
