import Fixtures.Settings
import Fixtures.Toml.Document

/-!
# Settings texts

Settings are written as a TOML document with up to three keys; other keys are passed over. A key
that is missing leaves its setting at the default. This is how the program reads settings; what
holds of settings that were read (`Settings.ofText`) does not depend on it.
-/

namespace Fixtures.Settings

def text? : Toml.Item → Option String
  | .text text => some text
  | _ => none

def boolean? : Toml.Item → Option Bool
  | .boolean value => some value
  | _ => none

def texts? (item : Toml.Item) : Option (SortedMap String) := do
  let fields ← item.fields?
  let texts ← fields.mapM fun field => (text? field.2).map (field.1, ·)
  return SortedMap.ofList texts

/-- The setting under a key, or a default if the key is missing. -/
def field? {α : Type} (fields : Toml.Fields) (key : String) (default : α)
    (read : Toml.Item → Option α) : Option α :=
  match SortedMap.lookupEntry key fields with
  | none => some default
  | some item => read item

/-- The settings in a document. -/
def ofFields? (fields : Toml.Fields) : Option Settings := do
  let defaults : Settings := {}
  return {
    hashSuffix := ← field? fields "hash_suffix" defaults.hashSuffix text?
    resetsCounters := ← field? fields "reset_sequences_per_block" defaults.resetsCounters boolean?
    irregularPlurals := ← field? fields "irregular_plurals" defaults.irregularPlurals texts? }

/-- Reads a text as a document of settings. -/
def ofDocument? (text : String) : Option Settings := (Toml.read text).bind ofFields?

end Fixtures.Settings
