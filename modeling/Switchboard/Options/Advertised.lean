import Switchboard.Capability
import Switchboard.Json.Record
import Switchboard.Selector

/-!
# Shapes of advertised options

What the server may say about each capability when it answers the
initialization.  Options that do not have the shape of their field are not
advertised; of those that do, only the known fields are.
-/

namespace Switchboard.Options

open Json Json.Shape

/-- The flag for progress reports. -/
def progress : String × Presence × Shape := free "workDoneProgress" .flag

/-- The flag for resolving items later. -/
def resolves : String × Presence × Shape := free "resolveProvider" .flag

/-- An optional list of strings. -/
def texts (name : String) : String × Presence × Shape := free name (.list .text)

/-- The selector of a registration, written as null when absent. -/
def registeredSelector : String × Presence × Shape := kept "documentSelector" (.list filterShape)

/-- A truth value or an object with the given fields. -/
def flagOr (fields : List (String × Presence × Shape)) : Shape := .either [.flag, object fields]

/-- The shape of what is advertised for a capability; capabilities without a
field in the advertisement have none. -/
def advertisedShape : Capability → Option Shape
  | .textDocumentSync => some (.either [.integer32, struct [free "openClose" .flag,
      free "change" .integer32, free "willSave" .flag, free "willSaveWaitUntil" .flag,
      free "save" (.either [.flag, struct [free "includeText" .flag]])]])
  | .completion => some (object [resolves, texts "triggerCharacters",
      texts "allCommitCharacters", progress,
      free "completionItem" (struct [free "labelDetailsSupport" .flag])])
  | .hover | .definition | .references | .documentHighlight | .formatting | .rangeFormatting
  | .selectionRange | .linkedEditingRange | .callHierarchy => some (flagOr [progress])
  | .signatureHelp => some (object [texts "triggerCharacters", texts "retriggerCharacters",
      progress])
  | .declaration => some (.either [.flag,
      object [progress, registeredSelector, free "id" .text], object [progress]])
  | .typeDefinition | .implementation => some (.either [.flag,
      struct [registeredSelector, free "id" .text]])
  | .documentSymbol => some (flagOr [progress, free "label" .text])
  | .codeAction => some (flagOr [texts "codeActionKinds", progress, resolves])
  | .codeLens => some (struct [resolves])
  | .documentLink => some (object [resolves, progress])
  | .documentColor | .foldingRange => some (.either [.flag, struct [],
      struct [registeredSelector, free "id" .text]])
  | .onTypeFormatting => some (struct [needed "firstTriggerCharacter" .text,
      texts "moreTriggerCharacter"])
  | .rename => some (flagOr [free "prepareProvider" .flag, progress])
  | .semanticTokens => some (object [progress,
      needed "legend" (struct [needed "tokenTypes" (.list .text),
        needed "tokenModifiers" (.list .text)]),
      free "range" .flag,
      free "full" (.either [.flag, object [free "delta" .flag]])])
  | .inlayHint | .workspaceSymbol => some (flagOr [progress, resolves])
  | .executeCommand => some (object [needed "commands" (.list .text), progress])
  | .didChangeConfiguration | .didChangeWatchedFiles => none

/-- What stays of a value that is to be advertised for a capability. -/
def advertised (capability : Capability) (value : Json) : Option Json :=
  (advertisedShape capability).bind fun shape => shape.read value

/-- The fields of the advertisement, each with the shape of its values. -/
def advertisementFields : List (String × Json.Shape) :=
  Capability.all.filterMap fun capability =>
    match capability.serverField, advertisedShape capability with
    | some field, some shape => some (field, shape)
    | _, _ => none

/-- The shape of the whole advertisement: every field is optional and read by itself,
unknown ones are ignored. -/
def advertisementShape : Json.Shape :=
  .struct (advertisementFields.map fun field => Json.Shape.free field.1 field.2)

theorem mem_advertisementFields {field : String} {shape : Json.Shape} :
    (field, shape) ∈ advertisementFields ↔
      ∃ capability : Capability, capability.serverField = some field ∧
        advertisedShape capability = some shape := by
  rw [advertisementFields, List.mem_filterMap]
  constructor
  · rintro ⟨capability, -, hentry⟩
    split at hentry
    next hfield hshape =>
      cases hentry
      exact ⟨capability, hfield, hshape⟩
    next => cases hentry
  · rintro ⟨capability, hfield, hshape⟩
    exact ⟨capability, Capability.mem_all capability, by rw [hfield, hshape]⟩

end Switchboard.Options
