import Teletype.Decimal.Literal
import Teletype.Environment
import Teletype.Log
import Teletype.Text.Case
import Teletype.Value

/-!
# Settings

How output is captured and rendered. Each setting has a key, by which a mapping gives it a value,
and a variable of the environment from which it takes its default. Defaults are read in the order of
the settings and only for those that the mapping leaves out; the values are checked after that. A
mapping may give a value of any kind: only the tab size and the two times have to be numbers in
their range, and what the others mean is settled where they are used.
-/

namespace Teletype

/-- The settings, in order. -/
inductive Setting where
  | tabSize
  | idleTimeout
  | maxWait
  | maxBuffer
  | maxPages
  | autoDismiss
  | dismissKey
  | sanitize
deriving DecidableEq, Repr

/-- Why settings cannot be had from an environment and a mapping. -/
inductive SettingsFault where
  /-- A variable that should hold a whole number holds another text. -/
  | notInteger (t : Text)
  /-- A variable that should hold a number holds another text. -/
  | notNumber (t : Text)
  /-- A whole number has too many digits. -/
  | overlong (e : Overlong)
  /-- The tab size is less than one. -/
  | tabSize (n : Number)
  /-- One of the times is not positive. -/
  | times
  /-- A relation of two values cannot be decided. -/
  | unordered (relation : String) (f : OrderFault)
  /-- The key at a position of a row of unknown keys is no text. -/
  | keyKind (position : Nat) (kind : String)

/-- The text that reports a fault in settings. -/
def SettingsFault.message : SettingsFault → Text
  | notInteger t => Literal.notIntegerMessage 10 t
  | notNumber t => Literal.notNumberMessage t
  | overlong e => e.message.toList
  | tabSize n => match n.text with
    | .ok digits => "tab_size must be >= 1, got ".toList ++ digits
    | .error _ => Overlong.writtenMessage.toList
  | times => "idle_timeout and max_wait must be positive".toList
  | unordered relation f => (f.message relation).toList
  | keyKind position kind =>
    s!"sequence item {position}: expected str instance, {kind} found".toList

namespace Setting

/-- All settings, in order. -/
def all : List Setting :=
  [tabSize, idleTimeout, maxWait, maxBuffer, maxPages, autoDismiss, dismissKey, sanitize]

/-- The key of a setting in a mapping. -/
def key : Setting → Text
  | tabSize => "tab_size".toList
  | idleTimeout => "idle_timeout".toList
  | maxWait => "max_wait".toList
  | maxBuffer => "max_buffer".toList
  | maxPages => "max_pages".toList
  | autoDismiss => "auto_dismiss_pager".toList
  | dismissKey => "pager_dismiss_key".toList
  | sanitize => "sanitize".toList

/-- The variable that holds the default of a setting. -/
def variableName : Setting → String
  | tabSize => "SHELL_OUTPUT_TAB_SIZE"
  | idleTimeout => "SHELL_OUTPUT_IDLE_TIMEOUT"
  | maxWait => "SHELL_OUTPUT_MAX_WAIT"
  | maxBuffer => "SHELL_OUTPUT_MAX_BUFFER"
  | maxPages => "SHELL_OUTPUT_MAX_PAGES"
  | autoDismiss => "SHELL_OUTPUT_AUTO_DISMISS_PAGER"
  | dismissKey => "SHELL_OUTPUT_PAGER_KEY"
  | sanitize => "SHELL_OUTPUT_SANITIZE"

/-- What a variable that is not set stands for. -/
def usual : Setting → String
  | tabSize => "8"
  | idleTimeout => "0.5"
  | maxWait => "30.0"
  | maxBuffer => "65536"
  | maxPages => "50000"
  | autoDismiss => "true"
  | dismissKey => " "
  | sanitize => "true"

/-- Reads a whole number from a variable. -/
def readInt (t : Text) : Except SettingsFault Value :=
  match Literal.int t with
  | .ok n => .ok (.int n)
  | .error .malformed => .error (.notInteger t)
  | .error (.overlong e) => .error (.overlong e)

/-- Reads a double from a variable. -/
def readFloat (t : Text) : Except SettingsFault Value :=
  match Literal.float? t with
  | some x => .ok (.float x)
  | none => .error (.notNumber t)

/-- Reads a truth value from a variable: three words mean yes, everything else means no. -/
def readFlag (t : Text) : Value :=
  .bool (["1".toList, "true".toList, "yes".toList].contains (Text.lower t))

/-- Reads the value of a setting from a variable. -/
def read (s : Setting) (t : Text) : Except SettingsFault Value :=
  match s with
  | tabSize | maxBuffer | maxPages => readInt t
  | idleTimeout | maxWait => readFloat t
  | autoDismiss | sanitize => .ok (readFlag t)
  | dismissKey => .ok (.text t)

/-- The default of a setting in an environment. -/
def default (s : Setting) (env : Environment) : Except SettingsFault Value :=
  s.read ((env.get? s.variableName).getD s.usual).toList

/-- The value of a setting: what a mapping gives, or else the default. -/
def value (s : Setting) (env : Environment) (entries : List (Value × Value)) :
    Except SettingsFault Value :=
  match Value.lookup s.key entries with
  | some v => .ok v
  | none => s.default env

end Setting

/-- Settings that passed their checks. -/
structure Settings where
  tabSize : Number
  idleTimeout : Number
  maxWait : Number
  maxBuffer : Value
  maxPages : Value
  autoDismiss : Value
  dismissKey : Value
  sanitize : Value

namespace Settings

/-- The value of a setting. -/
def get (c : Settings) : Setting → Value
  | .tabSize => .number c.tabSize
  | .idleTimeout => .number c.idleTimeout
  | .maxWait => .number c.maxWait
  | .maxBuffer => c.maxBuffer
  | .maxPages => c.maxPages
  | .autoDismiss => c.autoDismiss
  | .dismissKey => c.dismissKey
  | .sanitize => c.sanitize

/-- Settings as the entries of a mapping. -/
def entries (c : Settings) : List (Value × Value) :=
  Setting.all.map fun s => (.text s.key, c.get s)

/-- A value that has to be a number greater than, or not less than, a bound, as `refused` says. -/
def checked (relation : String) (refused : Number → Bool) (fault : Number → SettingsFault) :
    Value → Except SettingsFault Number
  | .number n => if refused n then .error (fault n) else .ok n
  | v => .error (.unordered relation (.kinds v.kindName "int"))

/-- The tab size, unless it is less than one. -/
def checkTabSize : Value → Except SettingsFault Number :=
  checked "<" (fun n => n.lt (.int 1)) .tabSize

/-- A time, unless it is zero or less. -/
def checkTime : Value → Except SettingsFault Number :=
  checked "<=" (fun n => n.le (.int 0)) fun _ => .times

/-- Settings from the values of a mapping, with defaults from an environment. -/
def ofEntries (env : Environment) (entries : List (Value × Value)) :
    Except SettingsFault Settings := do
  let tabSize ← Setting.tabSize.value env entries
  let idleTimeout ← Setting.idleTimeout.value env entries
  let maxWait ← Setting.maxWait.value env entries
  let maxBuffer ← Setting.maxBuffer.value env entries
  let maxPages ← Setting.maxPages.value env entries
  let autoDismiss ← Setting.autoDismiss.value env entries
  let dismissKey ← Setting.dismissKey.value env entries
  let sanitize ← Setting.sanitize.value env entries
  let tabSize ← checkTabSize tabSize
  let idleTimeout ← checkTime idleTimeout
  let maxWait ← checkTime maxWait
  return { tabSize, idleTimeout, maxWait, maxBuffer, maxPages, autoDismiss, dismissKey, sanitize }

/-- Settings from an environment alone. -/
def ofEnvironment (env : Environment) : Except SettingsFault Settings :=
  ofEntries env []

/-! ## Keys that name no setting -/

/-- Whether a key of a mapping is the key of a setting. -/
def isKnown (key : Value) : Bool :=
  Setting.all.any fun s => Value.sameKey key (.text s.key)

/-- Why a row of values has no order, if it has none: two neighbours cannot be compared. -/
def orderFault? : List Value → Option OrderFault
  | a :: b :: rest =>
    match Value.lt b a with
    | .error f => some f
    | .ok _ => orderFault? (b :: rest)
  | _ => none

/-- Puts keys in order, which fails if two that meet cannot be compared. The keys are a set, so that
their own order means nothing: here it is that of the mapping, and the kinds that a fault names are
those of the first two that meet in it, where another order may lead to another two. -/
def sortKeys (keys : List Value) : Except SettingsFault (List Value) :=
  match orderFault? keys with
  | some f => .error (.unordered "<" f)
  | none =>
    let isLess (a b : Value) : Bool := match Value.lt a b with
      | .ok less => less
      | .error _ => false
    .ok (keys.mergeSort fun a b => !isLess b a)

/-- The texts of keys, all of which have to be texts; `position` counts those before them. -/
def keyTexts (position : Nat) : List Value → Except SettingsFault (List Text)
  | [] => .ok []
  | .text t :: rest => (keyTexts (position + 1) rest).map (t :: ·)
  | v :: _ => .error (.keyKind position v.kindName)

/-- What is reported about keys that name no setting. -/
def unknownKeysReport (keys : List Value) : Except SettingsFault (List LogRecord) :=
  if keys.isEmpty then .ok []
  else do
    let names ← keyTexts 0 (← sortKeys keys)
    return [⟨.warning, .config, "Ignoring unknown output config keys: " ++
      String.ofList (", ".toList.intercalate names)⟩]

/-- Settings from a mapping, with defaults from an environment. Keys that name no setting are
reported and have no other effect. -/
def ofMapping (env : Environment) (entries : List (Value × Value)) :
    Except SettingsFault (Settings × List LogRecord) := do
  let report ← unknownKeysReport ((entries.map (·.1)).filter fun k => !isKnown k)
  let settings ← ofEntries env entries
  return (settings, report)

end Settings

end Teletype
