import Switchboard.Client.Detail

/-!
# Typed client capabilities

The shape of all that a client declares when it connects.  Every capability has
its detail in a section; the other fields of the sections, and the sections
about notebooks, windows and the client as a whole, only have to read.
-/

namespace Switchboard

namespace ClientShape

open Json Json.Shape

/-- The field of a capability in its section. -/
def detailField (capability : Capability) : String × Presence × Shape :=
  free capability.profile.node
    (((Detail.ofCapability capability).shape?).getD (struct [Detail.dynamicFlag]))

/-- A field with nothing but the flag for dynamic registration. -/
def dynamicField (name : String) : String × Presence × Shape :=
  free name (struct [Detail.dynamicFlag])

/-- A field that tells whether the client can be asked to refresh. -/
def refreshField (name : String) : String × Presence × Shape :=
  free name (struct [free "refreshSupport" .flag])

/-- What a client says about published diagnostics. -/
def publishDiagnostics : Shape :=
  struct [free "relatedInformation" .flag, lenient "tagSupport" .tags,
    free "versionSupport" .flag, free "codeDescriptionSupport" .flag, free "dataSupport" .flag]

/-- The section about documents. -/
def textDocument : Shape :=
  struct [
    detailField .textDocumentSync, detailField .completion, detailField .hover,
    detailField .signatureHelp, detailField .references, detailField .documentHighlight,
    detailField .documentSymbol, detailField .formatting, detailField .rangeFormatting,
    detailField .onTypeFormatting, detailField .declaration, detailField .definition,
    detailField .typeDefinition, detailField .implementation, detailField .codeAction,
    detailField .codeLens, detailField .documentLink, detailField .documentColor,
    detailField .rename, free "publishDiagnostics" publishDiagnostics,
    detailField .foldingRange, detailField .selectionRange, detailField .linkedEditingRange,
    detailField .callHierarchy, detailField .semanticTokens, dynamicField "moniker",
    dynamicField "typeHierarchy", dynamicField "inlineValue", detailField .inlayHint,
    free "diagnostic" (struct [Detail.dynamicFlag, free "relatedDocumentSupport" .flag])]

/-- What a client says about edits of the workspace. -/
def workspaceEdit : Shape :=
  struct [free "documentChanges" .flag,
    free "resourceOperations" (.list (.word ["create", "rename", "delete"])),
    free "failureHandling"
      (.word ["abort", "transactional", "textOnlyTransactional", "undo"]),
    free "normalizesLineEndings" .flag,
    free "changeAnnotationSupport" (struct [free "groupsOnLabel" .flag])]

/-- What a client says about operations on files. -/
def fileOperations : Shape :=
  struct [Detail.dynamicFlag, free "didCreate" .flag, free "willCreate" .flag,
    free "didRename" .flag, free "willRename" .flag, free "didDelete" .flag,
    free "willDelete" .flag]

/-- The section about the workspace. -/
def workspace : Shape :=
  struct [
    free "applyEdit" .flag, free "workspaceEdit" workspaceEdit,
    detailField .didChangeConfiguration, detailField .didChangeWatchedFiles,
    detailField .workspaceSymbol, detailField .executeCommand,
    free "workspaceFolders" .flag, free "configuration" .flag, refreshField "semanticTokens",
    refreshField "codeLens", free "fileOperations" fileOperations, refreshField "inlineValue",
    refreshField "inlayHint", refreshField "diagnostic"]

/-- The section about notebooks. -/
def notebookDocument : Shape :=
  struct [needed "synchronization"
    (struct [Detail.dynamicFlag, free "executionSummaryReport" .flag])]

/-- The section about windows. -/
def window : Shape :=
  struct [free "workDoneProgress" .flag,
    free "showMessage"
      (struct [free "messageActionItem" (struct [free "additionalPropertiesSupport" .flag])]),
    free "showDocument" (struct [needed "support" .flag])]

/-- The section about the client as a whole. -/
def general : Shape :=
  struct [
    free "regularExpressions" (struct [needed "engine" .text, free "version" .text]),
    free "markdown"
      (struct [needed "parser" .text, free "version" .text, free "allowedTags" (.list .text)]),
    free "staleRequestSupport"
      (struct [needed "cancel" .flag, needed "retryOnContentModified" (.list .text)]),
    free "positionEncodings" (.list .text)]

end ClientShape

open Json.Shape in
/-- The shape of typed client capabilities. -/
def clientShape : Json.Shape :=
  struct [free "workspace" ClientShape.workspace, free "textDocument" ClientShape.textDocument,
    free "notebookDocument" ClientShape.notebookDocument, free "window" ClientShape.window,
    free "general" ClientShape.general, free "experimental" .any]

end Switchboard
