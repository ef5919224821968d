import Teletype.Roster
import Teletype.Session

/-!
# Pools of sessions

A pool runs several sessions and knows them by name. It starts them, as long as there are not too
many, hands them out, closes them, and *reaps* those whose child has ended, that have grown too old,
or that nobody has used for too long.

The roster changes in single steps, and sessions are started and closed between those steps. What
other callers do in the meantime shows where a child is waited for: a read can be *interrupted* by a
request, which the pool serves before the read goes on.
-/

namespace Teletype

/-- What comes of waiting for a child: a piece of output, or a request of another caller. -/
inductive Delivery (ρ : Type) where
  | chunk (c : Chunk)
  | request (r : ρ)

/-- What starts and runs children, as actions on a state. -/
structure System (σ ρ τ : Type) where
  now : σ → τ
  /-- Starts a process, and tells its number. -/
  launch : Launch → Action σ ChildFault Nat
  /-- A process as a child, but for its output. -/
  child : (process : Nat) → Child σ τ
  /-- Waits for output of a process, or for a request. -/
  read : (process : Nat) → τ → Action σ ChildFault (Delivery ρ)
  /-- Writes a record into the log. -/
  record : LogRecord → σ → σ

/-- A session that was started, and the process behind it. -/
structure Seat (τ : Type) where
  session : Session τ
  process : Nat

/-- The state of a pool: the system, all sessions that were ever started by their numbers, the
roster, and whether sessions are reaped from time to time. -/
structure World (σ τ : Type) where
  system : σ
  seats : Array (Seat τ)
  roster : Roster
  isReaping : Bool

/-- What a pool is set up with. -/
structure PoolOptions where
  settings : Settings
  /-- The most sessions that live or start at a time. -/
  maxSessions : Int
  /-- How old a session may become. -/
  maxLifetime : Number
  /-- How long a session may be unused. -/
  maxIdle : Number
  directory : Option String
  /-- How often sessions are reaped. -/
  reapInterval : Number
  environment : Environment
  backend : Backend

namespace PoolOptions

def usualMaxSessions : Int := 8
def usualMaxIdle : Number := .int 300
def usualReapInterval : Number := .float 30

end PoolOptions

/-- Why an operation of a pool fails. -/
inductive PoolFault where
  | session (f : SessionFault)
  /-- A session is to be started without a command. -/
  | noCommand
  /-- As many sessions live or start as may; their names follow. -/
  | full (maxSessions : Int) (active : List String)
  /-- No session of that name is registered; the names of those that live follow. -/
  | unknown (name : String) (available : List String)
  /-- A limit of the pool has too many digits to be written. -/
  | overlong (e : Overlong)

/-- The text that reports why an operation of a pool fails. -/
def PoolFault.message : PoolFault → Text
  | session f => f.message
  | noCommand => "command is required".toList
  | full maxSessions _ =>
    (s!"Maximum concurrent sessions ({maxSessions}) reached. " ++
      "Close an existing session first.").toList
  | unknown name available =>
    "No session with id ".toList ++ Text.quote name.toList ++ ['.'] ++
      (if available.isEmpty then []
      else (" Available: " ++ ", ".intercalate available).toList)
  | overlong _ => Overlong.writtenMessage.toList

/-- What a session is asked for with. -/
structure Request where
  command : Option String
  name : Option String
  rows : Option Int
  columns : Option Int

/-- A line of the list of sessions. -/
structure Summary (τ : Type) where
  name : String
  command : String
  isAlive : Bool
  age : τ
  idle : τ

/-- A pool: a system, its options, and how it serves requests that interrupt a read. -/
structure Pool (σ ρ τ : Type) where
  system : System σ ρ τ
  options : PoolOptions
  serve : ρ → World σ τ → World σ τ

namespace Pool

variable {σ ρ τ α ε : Type} [TimeScale τ] (p : Pool σ ρ τ)

/-- An action of a pool. -/
abbrev Act (σ τ α : Type) := Action (World σ τ) PoolFault α

/-- An action on the system. -/
def onSystem (a : Action σ ε α) : Action (World σ τ) ε α :=
  a.zoom World.system fun s w => { w with system := s }

/-- Waits for output of a process; a request that comes first is served, and brings no output. -/
def read (process : Nat) (timeout : τ) : Action (World σ τ) ChildFault Chunk := do
  match ← onSystem (p.system.read process timeout) with
  | .chunk c => return c
  | .request r =>
    Action.change (p.serve r)
    return .text []

/-- What stands in for a session that was never started. -/
def noSession (w : World σ τ) : Session τ :=
  { id := "", command := "", settings := p.options.settings, maxLifetime := p.options.maxLifetime
    createdAt := p.system.now w.system, lastUsed := p.system.now w.system, prompt := none }

/-- A session of the pool as a place where it runs. -/
def host (number : Nat) (process : Nat) : Host (World σ τ) τ :=
  let child := p.system.child process
  { now := fun w => p.system.now w.system
    read := p.read process
    send := fun v => onSystem (child.send v)
    isAlive := onSystem child.isAlive
    sendEnd := onSystem child.sendEnd
    terminate := fun force => onSystem (child.terminate force)
    wait := fun seconds => onSystem (child.wait seconds)
    exitStatus := fun w => child.exitStatus w.system
    signalStatus := fun w => child.signalStatus w.system
    readLimit := fun characters w => child.readLimit characters w.system
    session := fun w => match w.seats[number]? with
      | some seat => seat.session
      | none => p.noSession w
    update := fun f w =>
      { w with seats := w.seats.modify number fun seat => { seat with session := f seat.session } }
    record := fun r w => { w with system := p.system.record r w.system } }

/-- The place of a session in a state. -/
def hostAt (w : World σ τ) (number : Nat) : Host (World σ τ) τ :=
  p.host number (match w.seats[number]? with
    | some seat => seat.process
    | none => 0)

/-- Does something with a session. -/
def withHost (number : Nat) (f : Host (World σ τ) τ → Action (World σ τ) SessionFault α) :
    Act σ τ α := do
  let h ← Action.look fun w => p.hostAt w number
  (f h).mapFault .session

/-- Whether the child of a session lives. -/
def isAlive (number : Nat) : Act σ τ Bool :=
  p.withHost number fun h => Host.ask h.isAlive

/-- Writes a record into the log. -/
def note (level : Level) (text : String) : Act σ τ Unit :=
  Action.change fun w => { w with system := p.system.record ⟨level, .manager, text⟩ w.system }

/-- Changes the roster. -/
def onRoster (f : Roster → Roster) : Act σ τ Unit :=
  Action.change fun w => { w with roster := f w.roster }

/-- The names of those registered sessions whose child lives. -/
def alive : List (String × Nat) → Act σ τ (List String)
  | [] => return []
  | (name, number) :: rest => do
    let lives ← p.isAlive number
    let names ← alive rest
    return if lives then name :: names else names

/-- The registered sessions. -/
def entries : Act σ τ (List (String × Nat)) :=
  Action.look fun w => w.roster.entries

/-- Closes a session; a fault is only noted, under a text that names what was closed. -/
def closeQuietly (number : Nat) (what : String) : Act σ τ Unit := do
  match ← (p.withHost number Host.close).attempt with
  | .ok _ => return
  | .error f => p.note .warning s!"Failed to close {what}: {String.ofList f.message}"

/-! ## Starting -/

/-- The fault of a pool that has no room, which is to name its limit. -/
def noRoom (active : List String) : PoolFault :=
  match (Number.int p.options.maxSessions).text with
  | .ok _ => .full p.options.maxSessions active
  | .error e => .overlong e

/-- Reserves a name for a new session, if there is room for one. -/
def reserve (wanted : Option String) : Act σ τ String := do
  let active ← p.alive (← entries)
  let roster ← Action.look World.roster
  if p.options.maxSessions ≤ ((active.length + roster.reserved.length : Nat) : Int) then
    throw (p.noRoom (active ++ roster.reservedInOrder))
  else
    let (name, roster) := roster.nameFor wanted
    onRoster fun _ => roster.reserve name
    return name

/-- Starts the child of a session, and keeps the session under a new number. -/
def openSession (o : Opening) : Act σ τ Nat := do
  let now ← Action.look fun w => p.system.now w.system
  let process ← (onSystem (p.system.launch o.launch)).mapFault fun f => .session (.child f)
  Action.change fun w => { w with system := p.system.record o.notice w.system }
  let number ← Action.look fun w => w.seats.size
  Action.change fun w => { w with seats := w.seats.push ⟨o.session now, process⟩ }
  return number

/-- What a session of the pool is started with. -/
def opening (name command : String) (rows columns : Option Int) : Opening where
  id := name
  command := command
  settings := p.options.settings
  backend := p.options.backend
  rows := rows
  columns := columns
  maxLifetime := p.options.maxLifetime
  inherited := p.options.environment
  extra := []
  directory := p.options.directory

/-- Starts a session under a reserved name and captures its first output. A session that was started
and does not get that far is closed. -/
def begin (name command : String) (r : Request) : Act σ τ (Nat × Captured) := do
  let number ← p.openSession (p.opening name command r.rows r.columns)
  match ← (p.withHost number Host.readInitial).attempt with
  | .ok captured => return (number, captured)
  | .error f =>
    p.closeQuietly number s!"session {name}"
    throw f

/-- Starts a session and registers it. -/
def spawn (r : Request) : Act σ τ (String × Captured) := do
  match r.command.filter fun command => !command.isEmpty with
  | none => throw .noCommand
  | some command =>
    let name ← p.reserve r.name
    match ← (p.begin name command r).attempt with
    | .error f =>
      onRoster fun roster => roster.release name
      throw f
    | .ok (number, captured) =>
      onRoster fun roster => roster.register name number
      if !(← p.isAlive number) then p.note .info s!"Session {name} exited immediately"
      return (name, captured)

/-! ## Using -/

/-- The session registered under a name. -/
def find (name : String) : Act σ τ Nat := do
  match ← Action.look fun w => w.roster.find? name with
  | some number => return number
  | none => throw (.unknown name (← p.alive (← entries)))

/-- What is known about the session registered under a name. -/
def get (name : String) : Act σ τ (Session τ) := do
  let number ← p.find name
  p.withHost number Host.known

/-- Sends a text to a session and captures its output. -/
def send (name : String) (t : Text) : Act σ τ Captured := do
  let number ← p.find name
  p.withHost number fun h => h.sendInput t

/-- Runs a command in a session and captures its output. -/
def runCommand (name : String) (command : Text) (prompt : Option PromptPattern) :
    Act σ τ Captured := do
  let number ← p.find name
  p.withHost number fun h => h.runCommand command prompt

/-- Closes a session, and takes its name off the roster, also when closing fails. -/
def close (name : String) : Act σ τ Host.Closed := do
  let number ← p.find name
  let result ← (p.withHost number Host.close).attempt
  onRoster fun roster => roster.drop name
  Action.ofExcept result

/-- Describes sessions, with ages in tenths of a second. -/
def describe : List (String × Nat) → Act σ τ (List (Summary τ))
  | [] => return []
  | (name, number) :: rest => do
    let lives ← p.isAlive number
    let summary ← Action.look fun w =>
      let h := p.hostAt w number
      { name := name
        command := (h.session w).command
        isAlive := lives
        age := TimeScale.roundTenth (h.age w)
        idle := TimeScale.roundTenth (h.idle w) : Summary τ }
    let others ← describe rest
    return summary :: others

/-- Describes the registered sessions. -/
def list : Act σ τ (List (Summary τ)) := do
  p.describe (← entries)

/-! ## Reaping -/

/-- A reason to reap a session that names the limit which it has passed. -/
def reasonWith (what : String) (limit : Number) : Except PoolFault String :=
  (limit.text.map fun seconds => s!"{what} ({String.ofList seconds}s)").mapError .overlong

/-- Why a session is reaped in a state, if it is, when it is known whether its child lives. -/
def reason (number : Nat) (lives : Bool) (w : World σ τ) : Except PoolFault (Option String) :=
  let h := p.hostAt w number
  if !lives then .ok (some "process exited")
  else if h.isExpired w then (reasonWith "lifetime exceeded" p.options.maxLifetime).map some
  else if TimeScale.exceeds (h.idle w) p.options.maxIdle then
    (reasonWith "idle too long" p.options.maxIdle).map some
  else .ok none

/-- Asks why a session is reaped, if it is. -/
def reasonToReap (number : Nat) : Act σ τ (Option String) := do
  let lives ← p.isAlive number
  let w ← Action.look id
  Action.ofExcept (p.reason number lives w)

/-- The sessions that are to be reaped, and why. -/
def ripe : List (String × Nat) → Act σ τ (List (String × Nat × String))
  | [] => return []
  | (name, number) :: rest => do
    let reason ← p.reasonToReap number
    let others ← ripe rest
    return match reason with
      | some reason => (name, number, reason) :: others
      | none => others

/-- Closes sessions and takes their names off the roster. -/
def reapAll : List (String × Nat × String) → Act σ τ Unit
  | [] => return
  | (name, number, reason) :: rest => do
    p.note .info s!"Reaping session {name} ({reason})"
    p.closeQuietly number s!"reaped session {name}"
    onRoster fun roster => roster.drop name
    reapAll rest

/-- Closes the sessions that are dead, too old or unused for too long, and returns their names. -/
def reap : Act σ τ (List String) := do
  let sessions ← p.ripe (← entries)
  p.reapAll sessions
  return sessions.map (·.1)

/-- Has sessions reaped from time to time. -/
def start : Act σ τ Unit :=
  Action.change fun w => { w with isReaping := true }

/-- Closes sessions. -/
def closeAll : List (String × Nat) → Act σ τ Unit
  | [] => return
  | (name, number) :: rest => do
    p.closeQuietly number s!"session {name}"
    closeAll rest

/-- Takes all sessions off the roster and closes them; none are reaped any more. -/
def shutdown : Act σ τ Unit := do
  Action.change fun w => { w with isReaping := false }
  let sessions ← entries
  onRoster Roster.clear
  p.closeAll sessions
  p.note .info s!"Session manager shut down ({sessions.length} sessions closed)"

end Pool

end Teletype
