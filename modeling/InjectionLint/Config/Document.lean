import InjectionLint.Config.Basic
import InjectionLint.Toml.Document

/-!
Settings written as a TOML document: one table `scan` with a key for each setting, all of them
optional. The settings may also stand in an array in their order; then those left out at the end keep
their defaults and what comes after the last is not looked at. Any other key is an error.
-/

set_option autoImplicit false

namespace InjectionLint

namespace Toml

def Value.string? : Value → Option String
  | .string text => some text
  | _ => none

def Value.boolean? : Value → Option Bool
  | .boolean value => some value
  | _ => none

def Value.strings? : Value → Option (List String)
  | .array items => items.mapM Value.string?
  | _ => none

end Toml

namespace ScanConfig

open Toml (Value)

def setKey? (config : ScanConfig) (key : String) (value : Value) : Option ScanConfig :=
  match key with
  | "extensions" => value.strings?.map ({ config with extensions := · })
  | "exclude_dirs" => value.strings?.map ({ config with excludeDirs := · })
  | "exclude_files" => value.strings?.map ({ config with excludeFiles := · })
  | "ignore" => value.strings?.map ({ config with ignored := · })
  | "follow_links" => value.boolean?.map ({ config with followLinks := · })
  | _ => none

/-- The keys in the order in which an array gives their values. -/
def keys : List String :=
  ["extensions", "exclude_dirs", "exclude_files", "ignore", "follow_links"]

def setKeys? : ScanConfig → List (String × Value) → Option ScanConfig
  | config, [] => some config
  | config, (key, value) :: rest => do setKeys? (← config.setKey? key value) rest

def ofValue? : Value → Option ScanConfig
  | .table entries => default.setKeys? entries
  | .array items => default.setKeys? (keys.zip items)
  | _ => none

def ofEntries? : List (String × Value) → Option ScanConfig
  | [] => some default
  | [("scan", value)] => ofValue? value
  | _ => none

def parse (document : String) : Except ConfigFault ScanConfig :=
  match (Toml.parse? document).bind ofEntries? with
  | some config => config.validate
  | none => .error .malformed

end ScanConfig

end InjectionLint
