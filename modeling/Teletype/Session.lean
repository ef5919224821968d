import Teletype.Child
import Teletype.Pager
import Teletype.Prompt
import Teletype.Screen
import Teletype.Settings
import Teletype.TimeScale

/-!
# Sessions

A session is a child process with what is known about it: when it was started and last used, and the
prompt that it showed. Its operations send something and then *capture* the output: they read until
the child has been silent for a while, has ended, or shows its prompt again, and return what a
reader would have seen. A pager that stops the output is dismissed on the way, as often as the
settings allow.

A `Host` is where a session runs: a child, a place where the session is kept, and a log. The
operations are actions on the state of the host.
-/

namespace Teletype

/-- A prompt that a session showed, and the pattern made of it. -/
structure KnownPrompt where
  text : Text
  pattern : PromptPattern
deriving DecidableEq, Repr

/-- What is known about a session. -/
structure Session (τ : Type) where
  id : String
  command : String
  settings : Settings
  /-- How old it may become. -/
  maxLifetime : Number
  createdAt : τ
  lastUsed : τ
  prompt : Option KnownPrompt

/-- What a capture returns. -/
structure Captured where
  /-- What a reader would have seen, without pager prompts. -/
  text : Text
  /-- What the child wrote. -/
  raw : Text
  /-- How many pager prompts were dismissed. -/
  pages : Nat
  /-- Whether the capture ended because the prompt came back. -/
  promptMatched : Bool
deriving DecidableEq, Repr

/-- Why an operation of a session fails. -/
inductive SessionFault where
  | child (f : ChildFault)
  | render (f : RenderFault)
  /-- There is no control key of that name. -/
  | unknownKey (name : Option Text)
  /-- A limit in the settings is no number. -/
  | unordered (relation left right : String)
  /-- The longest wait is too large a number to be added to the time. -/
  | overflow

/-- A place where a session runs. -/
structure Host (κ τ : Type) extends Child κ τ where
  session : κ → Session τ
  update : (Session τ → Session τ) → κ → κ
  record : LogRecord → κ → κ

/-! ## Tab stops from settings -/

namespace TabStops

/-- The column that a double gives as a tab stop: the first that is not before it. Where it is no
number there is nowhere to go, and an infinite one is never reached. -/
def stopAt (column : Nat) (stop : Float) : Except RenderFault Int :=
  match Double.read stop with
  | .finite _ m q =>
    if q < 0 then .ok ((m + twoTo (-q).toNat - 1) / twoTo (-q).toNat : Nat)
    else .ok (m * twoTo q.toNat : Nat)
  | .infinite false => .error .endless
  | _ => .ok column

/-- Tab stops a double apart. The first of those that are infinitely far apart is infinitely far. -/
def everyDouble (width : Float) : TabStops := fun column =>
  match Double.read width with
  | .finite _ m q =>
    if m = 0 then .error .zeroTabWidth
    else
      let whole := if q < 0 then column * twoTo (-q).toNat / m else column / (m * twoTo q.toNat)
      stopAt column (Double.nearest false (whole + 1) 1 * width)
  | .infinite false => .error .endless
  | _ => .ok column

/-- Tab stops a number apart. -/
def ofNumber : Number → TabStops
  | .int n => every n
  | .bool b => every (if b then 1 else 0)
  | .float x => everyDouble x

end TabStops

/-! ## Control keys -/

namespace ControlKey

/-- The characters of the control keys, by their names in order. -/
def table : List (Text × Char) :=
  [(['\\'], '\x1c'), (['c'], '\x03'), (['c', '-', '\\'], '\x1c'), (['c', '-', 'c'], '\x03'),
    (['c', '-', 'd'], '\x04'), (['c', '-', 'l'], '\x0c'), (['c', '-', 'z'], '\x1a'),
    (['d'], '\x04'), (['l'], '\x0c'), (['z'], '\x1a')]

/-- The character of a control key. -/
def ofName? (name : Option Text) : Option Char :=
  name.bind fun n => table.lookup n

end ControlKey

/-- The text that reports why an operation of a session fails. -/
def SessionFault.message : SessionFault → Text
  | child f => f.message
  | render f => f.message.toList
  | unknownKey name =>
    "Unknown control key: ".toList ++ (match name with
      | some n => Text.quote n
      | none => "None".toList) ++
      ". Supported: ".toList ++ ", ".toList.intercalate (ControlKey.table.map (·.1))
  | unordered relation left right =>
    s!"'{relation}' not supported between instances of '{left}' and '{right}'".toList
  | overflow => "int too large to convert to float".toList

/-! ## Capturing output -/

/-- What a capture has read so far; the last pieces come first. -/
structure Progress where
  raw : List Text
  cleaned : List Text
  /-- How many characters were read. -/
  total : Nat
  /-- How many pagers were dismissed. -/
  pages : Nat
  /-- Whether the next piece follows the key that dismisses a pager. -/
  afterKey : Bool
deriving DecidableEq, Repr

namespace Progress

/-- Nothing read yet. -/
def start : Progress := ⟨[], [], 0, 0, false⟩

/-- Takes in a piece of output, and says whether a pager stopped it. -/
def absorb (c : Settings) (p : Progress) (piece : Text) : Progress × Bool :=
  let safe := if c.sanitize.isTrue then Teletype.sanitize piece else piece
  let (stripped, cut) := Pager.strip safe
  let cleaned := if p.afterKey then Pager.stripRedraw stripped else stripped
  ({ p with
      raw := piece :: p.raw
      cleaned := cleaned :: p.cleaned
      total := p.total + piece.length
      afterKey := false },
    Pager.isPaused safe || cut)

/-- What a reader would have seen so far. That tab stops are a column apart at least is not asked
again here: settings that are accepted say nothing else. -/
def rendered (c : Settings) (p : Progress) : Except RenderFault Text :=
  Screen.render (TabStops.ofNumber c.tabSize) p.cleaned.reverse.flatten

/-- The result of a capture that ends here. -/
def finish (c : Settings) (p : Progress) (matched : Bool) : Except RenderFault Captured :=
  (p.rendered c).map fun text => ⟨text, p.raw.reverse.flatten, p.pages, matched⟩

end Progress

/-- Whether a count is at most a limit. -/
def atMost (count : Nat) (limit : Value) : Except SessionFault Bool :=
  match limit with
  | .number n => .ok ((Number.int count).le n)
  | v => .error (.unordered "<=" "int" v.kindName)

/-- Whether a count has reached a limit. -/
def hasReached (count : Nat) (limit : Value) : Except SessionFault Bool :=
  match limit with
  | .number n => .ok (n.le (.int count))
  | v => .error (.unordered ">=" "int" v.kindName)

/-- A limit as it stands in the log: a whole number. -/
def limitText : Value → String
  | .number n => match n.truncate? with
    | some k => toString k
    | none => ""
  | _ => ""

namespace Settings

variable {τ : Type} [TimeScale τ] {c : Settings} {now : τ}

/-- The time from which on nothing more is read, for a read that begins at some time. -/
def deadline (c : Settings) (now : τ) : Except SessionFault τ :=
  if TimeScale.overflows now c.maxWait then .error .overflow
  else .ok (TimeScale.add now (TimeScale.ofNumber c.maxWait))

theorem deadline_of_overflows (h : TimeScale.overflows now c.maxWait = true) :
    c.deadline now = .error .overflow :=
  if_pos h

theorem deadline_of_fits (h : TimeScale.overflows now c.maxWait = false) :
    c.deadline now = .ok (TimeScale.add now (TimeScale.ofNumber c.maxWait)) :=
  if_neg (ne_true_of_eq_false h)

end Settings

/-- The characters that a limit allows, as far as it is a number. -/
def limitSize : Value → Nat
  | .number n => match n.truncate? with
    | some k => k.toNat
    | none => twoTo 32
  | _ => 0

namespace Host

variable {κ τ α : Type} [TimeScale τ] (h : Host κ τ)

/-- An action of the child. -/
def ask (a : Action κ ChildFault α) : Action κ SessionFault α :=
  a.mapFault .child

/-- The clock. -/
def clock : Action κ SessionFault τ :=
  Action.look h.now

/-- What is known about the session. -/
def known : Action κ SessionFault (Session τ) :=
  Action.look h.session

/-- Writes a record into the log. -/
def note (level : Level) (text : Session τ → String) : Action κ SessionFault Unit :=
  Action.change fun k => h.record ⟨level, .session, text (h.session k)⟩ k

/-- Notes that the session is used now. -/
def touch : Action κ SessionFault Unit :=
  Action.change fun k => h.update (fun s => { s with lastUsed := h.now k }) k

/-- Reads a piece of output; none where the child is silent or has ended. -/
def readPiece (idle : τ) : Action κ SessionFault (Option Chunk) := do
  match ← (h.read idle).attempt with
  | .ok chunk => return some chunk
  | .error f =>
    if f.kind = .silent ∨ f.kind = .ended then return none
    else throw (.child f)

/-- Whether more was read than the settings allow, which is noted. -/
def isFull (c : Settings) (p : Progress) : Action κ SessionFault Bool := do
  if ← Action.ofExcept (atMost p.total c.maxBuffer) then return false
  else
    h.note .warning fun s =>
      s!"Session {s.id}: output exceeded {limitText c.maxBuffer} chars, returning early"
    return true

/-- Whether as many pagers were dismissed as the settings allow, which is noted. -/
def isSpent (c : Settings) (p : Progress) : Action κ SessionFault Bool := do
  if ← Action.ofExcept (hasReached p.pages c.maxPages) then
    h.note .warning fun s =>
      s!"Session {s.id}: pager limit ({limitText c.maxPages}) reached, leaving it paused"
    return true
  else return false

/-- Sends the key that dismisses a pager. -/
def dismiss (c : Settings) : Action κ SessionFault Unit :=
  ask (h.send c.dismissKey)

/-- Whether the output so far ends with a prompt that is waited for. -/
def showsPrompt (c : Settings) (prompt : Option PromptPattern) (p : Progress) :
    Except SessionFault Bool :=
  match prompt with
  | none => .ok false
  | some pattern =>
    match p.rendered c with
    | .ok text => .ok (Prompt.ends pattern Prompt.usualLookback text)
    | .error f => .error (.render f)

/-- Reads pieces until the capture ends, and says whether it ended with the prompt. -/
def readOn (c : Settings) (prompt : Option PromptPattern) (idle deadline : τ) :
    (reads : Nat) → Progress → Action κ SessionFault (Progress × Bool)
  | 0, p => return (p, false)
  | reads + 1, p => do
    if !TimeScale.lt (← h.clock) deadline then return (p, false)
    else match ← h.readPiece idle with
      | none => return (p, false)
      | some chunk =>
        if chunk.isEmpty then readOn c prompt idle deadline reads p
        else
          let (p, paused) := p.absorb c chunk.decoded
          if paused && c.autoDismiss.isTrue then
            if ← h.isSpent c p then return (p, false)
            else if ← h.isFull c p then return (p, false)
            else
              h.dismiss c
              readOn c prompt idle deadline reads { p with pages := p.pages + 1, afterKey := true }
          else if ← Action.ofExcept (showsPrompt c prompt p) then return (p, true)
          else if ← h.isFull c p then return (p, false)
          else readOn c prompt idle deadline reads p

/-- Captures output until the child is silent for `idle`, which the settings give where it is left
out, or shows a prompt that is waited for. -/
def capture (idle : Option τ) (prompt : Option PromptPattern) : Action κ SessionFault Captured := do
  let c := (← h.known).settings
  let deadline ← Action.ofExcept (c.deadline (← h.clock))
  let reads ← Action.look (h.readLimit (limitSize c.maxBuffer))
  let (p, matched) ← h.readOn c prompt (idle.getD (TimeScale.ofNumber c.idleTimeout)) deadline
    reads .start
  Action.ofExcept ((p.finish c matched).mapError .render)

/-! ## Operations -/

/-- Remembers a prompt, if there is one, with the pattern made of it. Both are set at once. To set
the prompt first would be seen only where no pattern can be made of it, and that takes an overlong
escape sequence: there is none in a prompt that was found in rendered output. -/
def remember (prompt : Option Text) : Action κ SessionFault Unit :=
  match prompt with
  | none => return
  | some text =>
    if text.isEmpty then return
    else match PromptPattern.ofPrompt (some text) with
      | .ok pattern => Action.change (h.update fun s => { s with prompt := some ⟨text, pattern⟩ })
      | .error e => throw (.render (.overlong e))

/-- Captures the first output and remembers its prompt. -/
def readInitial : Action κ SessionFault Captured := do
  let captured ← h.capture none none
  h.remember (Prompt.detect Prompt.usualLookback captured.text)
  return captured

/-- Sends a text and captures the output. -/
def sendInput (t : Text) : Action κ SessionFault Captured := do
  h.touch
  ask (h.send (.text t))
  h.capture none none

/-- Sends a control key and captures the output. -/
def sendControl (name : Option Text) : Action κ SessionFault Captured :=
  match ControlKey.ofName? name with
  | none => throw (.unknownKey name)
  | some c => h.sendInput [c]

/-- Captures output without sending anything. -/
def readOutput (idle : Option τ) : Action κ SessionFault Captured := do
  h.touch
  h.capture idle none

/-- Sends a command and captures its output until a prompt comes back: the one that is given, or
else the one that is remembered, or else any. A prompt of another kind at the end of the output is
remembered instead. -/
def runCommand (command : Text) (prompt : Option PromptPattern) :
    Action κ SessionFault Captured := do
  let pattern := (prompt.or ((← h.known).prompt.map (·.pattern))).getD .generic
  h.touch
  ask (h.send (.text (command ++ ['\n'])))
  let captured ← h.capture none (some pattern)
  match Prompt.changed pattern Prompt.usualLookback captured.text with
  | some text => h.remember (some text)
  | none =>
    if (← h.known).prompt.isNone then
      h.remember (Prompt.detect Prompt.usualLookback captured.text)
  return captured

/-- What is left of a session that was closed. -/
structure Closed where
  /-- The status with which the child ended, or else the signal that ended it. -/
  status : Option Int
  /-- What it still wrote. -/
  finalOutput : Text
deriving DecidableEq, Repr

/-- A status as it stands in the log. -/
def statusText : Option Int → String
  | none => "None"
  | some n => toString n

/-- Tells the child that nothing more will be sent, and captures what it still writes. A child that
ends meanwhile, or that the system does not reach, writes nothing. -/
def drain : Action κ SessionFault Text := do
  let attempt : Action κ SessionFault Captured := do
    ask h.sendEnd
    h.capture (some (TimeScale.ofNumber (.float 1))) none
  match ← attempt.attempt with
  | .ok captured => return captured.text
  | .error (.child f) =>
    if f.kind = .ended ∨ f.kind = .system then return [] else throw (.child f)
  | .error f => throw f

/-- Does something about a child that still lives; a fault is noted under a name. -/
def whileAlive (name : String) (a : Action κ ChildFault Unit) : Action κ SessionFault Unit := do
  if ← ask h.isAlive then
    match ← a.attempt with
    | .ok () => return
    | .error f => h.note .warning fun s =>
      s!"Session {s.id}: {name} failed: {String.ofList f.message}"

/-- Closes the session: asks the child to end by itself, then asks it to end, then forces it to, as
long as it lives. -/
def close : Action κ SessionFault Closed := do
  let finalOutput ← if ← ask h.isAlive then h.drain else pure []
  h.whileAlive "terminate" do
    h.terminate false
    h.wait 5
  h.whileAlive "kill" (h.terminate true)
  let status ← Action.look h.exitStatus
  h.note .info fun s => s!"Closed session {s.id} (exit_status={statusText status})"
  return ⟨status.or (← Action.look h.signalStatus), finalOutput⟩

/-! ## The age of a session -/

/-- How long ago the session was started. -/
def age (k : κ) : τ :=
  TimeScale.sub (h.now k) (h.session k).createdAt

/-- How long ago the session was last used. -/
def idle (k : κ) : τ :=
  TimeScale.sub (h.now k) (h.session k).lastUsed

/-- Whether the session is older than it may become. -/
def isExpired (k : κ) : Bool :=
  TimeScale.exceeds (h.age k) (h.session k).maxLifetime

end Host

/-! ## Starting a session -/

/-- What a session is started with. -/
structure Opening where
  id : String
  command : String
  settings : Settings
  backend : Backend
  rows : Option Int
  columns : Option Int
  maxLifetime : Number
  /-- The environment that the child inherits. -/
  inherited : Environment
  /-- Variables that are set on top of all others. -/
  extra : Environment
  directory : Option String

namespace Opening

/-- The usual size of a terminal. -/
def usualRows : Int := 24
def usualColumns : Int := 80

/-- The usual limit to the age of a session, in seconds. -/
def usualLifetime : Number := .int 600

/-- Variables that keep a child from paging its output, from colouring it, and from writing to the
history of its user. -/
def plainVariables : Environment :=
  [("PAGER", "cat"), ("GIT_PAGER", "cat"), ("TERM", "dumb"), ("HISTFILE", ""), ("HISTSIZE", "0"),
    ("SAVEHIST", "0")]

/-- How the child is started. Only a terminal has a size and a choice about undecodable bytes. -/
def launch (o : Opening) : Launch where
  command := o.command
  encoding := "utf-8"
  onUndecodable := match o.backend with
    | .terminal => some "replace"
    | .pipes => none
  timeout := o.settings.maxWait
  dimensions := match o.backend with
    | .terminal => some (o.rows, o.columns)
    | .pipes => none
  environment := (o.inherited.update plainVariables).update o.extra
  directory := o.directory

/-- The session as it is known when its child was started. -/
def session {τ : Type} (o : Opening) (now : τ) : Session τ where
  id := o.id
  command := o.command
  settings := o.settings
  maxLifetime := o.maxLifetime
  createdAt := now
  lastUsed := now
  prompt := none

/-- What is noted when the child was started. -/
def notice (o : Opening) : LogRecord :=
  ⟨.info, .session, s!"Spawned session {o.id} ({o.backend.name} backend): {o.command}"⟩

end Opening

end Teletype
