import Teletype.Document.Json
import Teletype.Document.Yaml.Meaning
import Teletype.Settings
import Teletype.Text.Utf8

/-!
# Settings files

A settings file is a JSON or a YAML document, as the end of its name says, that holds a mapping. A
file that is not there, and a document without a value, leave all settings at their defaults.
-/

namespace Teletype

/-- A file that is there: its path and its bytes. -/
structure SettingsFile where
  path : Text
  bytes : List UInt8

/-- Why settings cannot be had from a file. -/
inductive FileFault where
  /-- The bytes are no text. -/
  | undecodable (f : Utf8.Fault)
  /-- The name says nothing about the notation. -/
  | unsupported (suffix : Text)
  /-- The document cannot be read. -/
  | document (path : Text) (f : DocumentFault)
  /-- The document holds something else than a mapping. -/
  | notMapping (path : Text)
  /-- The mapping does not give settings. -/
  | settings (f : SettingsFault)

/-- The text that reports why settings cannot be had from a file. -/
def FileFault.message : FileFault → Text
  | undecodable f => f.message
  | unsupported suffix => "Unsupported config file type: ".toList ++ Text.quote suffix
  | document path .malformed =>
    "Invalid output config file ".toList ++ path ++ ": ".toList ++ DocumentFault.malformed.message
  | document _ f => f.message
  | notMapping path => "Output config file must contain a mapping: ".toList ++ path
  | settings f => f.message

namespace SettingsFile

/-- The end of a name from its last point on; a point at the front or at the end of the name does
not count. -/
def suffix (path : Text) : Text :=
  let name := ((path.splitOn '/').getLast?).getD []
  let ending := (name.reverse.takeWhile (· != '.')).reverse
  if ending.isEmpty ∨ name.length ≤ ending.length + 1 then [] else '.' :: ending

/-- Reads a document in the notation that a suffix stands for. -/
def readDocument (path suffix content : Text) : Except FileFault Value :=
  let read (r : Text → Except DocumentFault Value) : Except FileFault Value :=
    match r content with
    | .ok v => .ok v
    | .error f => .error (.document path f)
  if suffix = ".yaml".toList ∨ suffix = ".yml".toList then read Yaml.read
  else if suffix = ".json".toList then read Json.read
  else .error (.unsupported suffix)

/-- The mapping that a file holds. -/
def entries (f : SettingsFile) : Except FileFault (List (Value × Value)) :=
  match Utf8.decode f.bytes with
  | .error e => .error (.undecodable e)
  | .ok content => do
    match ← readDocument f.path (suffix f.path) (Text.unifyLineEnds content) with
    | .null => return []
    | .mapping entries => return entries
    | _ => .error (.notMapping f.path)

end SettingsFile

namespace Settings

/-- Settings from a file, if there is one, with defaults from an environment. -/
def load (env : Environment) (file : Option SettingsFile) :
    Except FileFault (Settings × List LogRecord) :=
  let ofMapping (entries : List (Value × Value)) : Except FileFault (Settings × List LogRecord) :=
    match Settings.ofMapping env entries with
    | .ok r => .ok r
    | .error f => .error (.settings f)
  match file with
  | none => ofMapping []
  | some f => f.entries >>= ofMapping

end Settings

end Teletype
