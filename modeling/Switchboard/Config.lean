import Switchboard.Json.Record
import Switchboard.Selector

/-!
# Server configuration

The settings a client may send when it connects.  What is missing or malformed
falls back to the defaults.
-/

namespace Switchboard

/-- The settings of a server. -/
structure ServerConfig where
  /-- The name the server reports. -/
  serverName : String := "capstan-lsp"
  /-- The documents the built-in sync handler is scoped to. -/
  documentSelector : List FilterSpec := [{ pattern := some "**/*" }]
  /-- The names of further commands to advertise. -/
  commands : List String := []
  deriving DecidableEq, Repr

namespace ServerConfig

/-- The fields of the settings: by name from an object, by place from an array,
which may leave out the last ones. -/
def fields? : Json → Option (List (Option Json))
  | .object members =>
      some (["serverName", "documentSelector", "commands"].map (Table.find? members))
  | .array items =>
      if items.length ≤ 3 then
        some (items.map some ++ List.replicate (3 - items.length) none)
      else none
  | _ => none

/-- Reads the settings.  Each may be missing, but none may be null. -/
def ofJson? (j : Json) : Option ServerConfig := do
  let standard : ServerConfig := {}
  match ← fields? j with
  | [serverName, documentSelector, commands] =>
      return {
        serverName := ← Json.defaulted standard.serverName Json.text? serverName
        documentSelector := ← Json.defaulted standard.documentSelector
          (Json.listOf? FilterSpec.ofJson?) documentSelector
        commands := ← Json.defaulted standard.commands (Json.listOf? Json.text?) commands }
  | _ => none

/-- The settings with the default selector in place of a malformed one. -/
def withValidSelector (config : ServerConfig) : ServerConfig :=
  match DocumentSelector.ofSpecs config.documentSelector with
  | .ok _ => config
  | .error _ => { config with documentSelector := ({} : ServerConfig).documentSelector }

/-- The settings in the parameters of an initialization. -/
def ofInitializeParams (params : Json) : ServerConfig :=
  match params.member? "initializationOptions" with
  | none => {}
  | some .null => {}
  | some options => ((ofJson? options).getD {}).withValidSelector

end ServerConfig

end Switchboard
