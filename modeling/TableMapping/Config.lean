import TableMapping.Number.FloatText
import TableMapping.Settings
import TableMapping.Toml.Parser

/-!
# Configuration of a session

A session may be told which product to assume, whether it creates tables, and whether it
checks their versions.  Without being told, it asks the engine and does both.

The configuration is the section `mapping` of the settings in a configuration document;
variables of the environment go before them.  A section may be a table with the three keys, or
a list with their values in order.  Truth values may be written as words or numbers.

* `MappingConfig.ofDocument?` reads the text of a document;
* `MappingConfig.load` reads an optional document and the environment.  A document that
  cannot be read is passed over, which the answer tells.
-/

namespace TableMapping

/-- The configuration of a session. -/
structure MappingConfig where
  /-- The product to assume in place of the one the engine names. -/
  dialect : Option String := none
  /-- Whether tables and indexes are created when a model is first used. -/
  createTables : Bool := true
  /-- Whether declared versions are compared with the stored ones. -/
  checkVersions : Bool := true
  deriving DecidableEq

namespace Setting

/-- The truth value that a setting stands for. -/
def truth? : Setting → Option Bool
  | bool b => some b
  | integer n => some (n != 0)
  | real x => some (x != 0)
  | text s =>
    let word := Text.asciiLower s
    if ["1", "true", "on", "yes"].contains word then some true
    else if ["0", "false", "off", "no"].contains word then some false
    else none
  | _ => none

/-- The text that a setting stands for. -/
def spelled? : Setting → Option String
  | text s => some s
  | bool b => some (if b then "true" else "false")
  | integer n => some (Numeral.ofInt n)
  | real x => some (Number.doubleText .plain x)
  | _ => none

/-- The text that a setting stands for, if it is set. -/
def spelledIfSet? : Setting → Option (Option String)
  | unset => some none
  | v => v.spelled?.map some

end Setting

namespace MappingConfig

/-- The configuration with settings that may be missing. -/
def ofSettings? (dialect createTables checkVersions : Option Setting) : Option MappingConfig := do
  return {
    dialect := ← (dialect.getD .unset).spelledIfSet?
    createTables := (← createTables.mapM Setting.truth?).getD true
    checkVersions := (← checkVersions.mapM Setting.truth?).getD true
  }

/-- The configuration in a section; nothing is set without one. -/
def ofSection? : Option Setting → Option MappingConfig
  | none => some {}
  | some (.table es) =>
    ofSettings? (es.lookup "dialect") (es.lookup "create_tables") (es.lookup "check_versions")
  | some (.list xs) => ofSettings? xs[0]? xs[1]? xs[2]?
  | some _ => none

/-- The configuration in a tree of settings. -/
def ofTree? (settings : Setting) : Option MappingConfig :=
  ofSection? (settings.entries.lookup "mapping")

/-! ## Variables of the environment -/

/-- Write points for double underscores. -/
def withPoints : List Char → List Char
  | '_' :: '_' :: cs => '.' :: withPoints cs
  | c :: cs => c :: withPoints cs
  | [] => []

/-- What the name of a variable starts with, when it is a setting. -/
def variableStart : List Char :=
  "tidemark__".toList

/-- The name of the setting that a variable of the environment gives; letter case does not
count. -/
def settingOfVariable? (name : String) : Option String :=
  let cs := Text.foldForSearch name
  if variableStart.isPrefixOf cs then
    some (String.ofList (withPoints (cs.drop variableStart.length)))
  else none

/-- Add what the variables of the environment say. -/
def withEnvironment (settings : Setting) (environment : List (String × String)) : Setting :=
  environment.foldl
    (fun settings v =>
      match settingOfVariable? v.1 with
      | some name => settings.setNamed name (.text v.2)
      | none => settings)
    settings

/-! ## Reading -/

/-- The settings in the text of a document. -/
def settings? (s : String) : Option Setting := do
  return (← Setting.ofDocument? (← Toml.parse? s)).foldl (fun tree e => tree.setNamed e.1 e.2) (.table [])

/-- The configuration in the text of a document. -/
def ofDocument? (s : String) : Option MappingConfig := do
  ofTree? (← settings? s)

/-- What loading a configuration gives. -/
structure Loaded where
  /-- The configuration, unless the settings make no sense. -/
  config : Option MappingConfig
  /-- Whether there is a document that cannot be read. -/
  skippedDocument : Bool

/-- Load the configuration from an optional document and the variables of the environment. -/
def load (document : Option String) (environment : List (String × String)) : Loaded :=
  let settings := document.map settings?
  ⟨ofTree? (withEnvironment ((settings.getD none).getD (.table [])) environment),
    settings.any (·.isNone)⟩

end MappingConfig
end TableMapping
