import Teletype.Pool

/-!
# Scripted children

A script says what a child writes, how it answers to what it is sent, how it ends, and which of its
operations fail. A `Stage` runs scripts under a clock that moves only when a child is waited for: a
read of a child that has nothing to say takes as long as it may, and a read of one that makes its
reader wait takes that long. Everything that happens is entered into a journal.

A script can also hold requests of other callers, which come when its child is read.
-/

namespace Teletype

/-- What a read of a scripted child meets. -/
inductive Item (ρ τ : Type) where
  | text (t : Text)
  | bytes (b : List UInt8)
  /-- Something that takes a while to come. -/
  | wait (time : τ) (item : Item ρ τ)
  | fail (f : ChildFault)
  /-- The child ends by itself. -/
  | exit (status : Option Int)
  /-- The child is ended by a signal. -/
  | signal (signal : Option Int)
  /-- A request of another caller. -/
  | request (r : ρ)

instance {ρ τ : Type} : Inhabited (Item ρ τ) := ⟨.text []⟩

/-- The operations of a child that can fail by script. -/
structure Hooks where
  onSpawn : Option ChildFault
  onSend : Option ChildFault
  onIsAlive : Option ChildFault
  onSendEnd : Option ChildFault
  onTerminate : Option ChildFault
  onKill : Option ChildFault

/-- What a child does. -/
structure Script (ρ τ : Type) where
  /-- What there is to read from the start. -/
  initial : List (Item ρ τ)
  /-- What there is to read after a text was sent. -/
  responses : List (Text × List (Item ρ τ))
  isAlive : Bool
  exitStatus : Option Int
  signalStatus : Option Int
  /-- What there is to read after the end of the input, and the status with which the child ends. -/
  endOutput : List (Item ρ τ)
  endStatus : Option Int
  ignoresEnd : Bool
  ignoresTerminate : Bool
  ignoresKill : Bool
  /-- Whether the child is run by way of a process object. -/
  isProcess : Bool
  returnCode : Option Int
  hooks : Hooks

/-- A child that runs. -/
structure Process (ρ τ : Type) where
  script : Script ρ τ
  queue : List (Item ρ τ)
  responses : List (Text × List (Item ρ τ))
  isAlive : Bool
  exitStatus : Option Int
  signalStatus : Option Int
  returnCode : Option Int

/-- What is done to a child. -/
inductive Event where
  | spawn (l : Launch)
  | send (v : Value)
  | sendEnd
  | terminate (force : Bool)
  | wait
  | processTerminate
  | processKill
  | processWait (seconds : Nat)

/-- An entry of the journal: something done to a child, a log record, or the outcome of a
request. -/
inductive Entry (ο : Type) where
  | event (process : Nat) (e : Event)
  | log (r : LogRecord)
  | outcome (o : ο)

/-- Children that run by script, the scripts of those that do not run yet, a clock, and a journal
whose last entry comes first. -/
structure Stage (ρ ο τ : Type) where
  clock : τ
  processes : Array (Process ρ τ)
  scripts : List (Script ρ τ)
  journal : List (Entry ο)

variable {ρ ο τ : Type}

/-- The sum of a measure over a list. -/
def total {α : Type} (measure : α → Nat) : List α → Nat
  | [] => 0
  | a :: as => measure a + total measure as

namespace Item

/-- How many reads an item can take, when a request takes as many as `weigh` says. -/
def weight (weigh : ρ → Nat) : Item ρ τ → Nat
  | wait _ item => 1 + item.weight weigh
  | request r => 1 + weigh r
  | _ => 1

/-- How many reads items can take. -/
def weights (weigh : ρ → Nat) (items : List (Item ρ τ)) : Nat :=
  total (weight weigh) items

end Item

namespace Script

/-- The script of a child that shows a prompt and is silent. -/
def plain (command : String) : Script ρ τ where
  initial := [.text (command ++ "$ ").toList]
  responses := []
  isAlive := true
  exitStatus := none
  signalStatus := none
  endOutput := []
  endStatus := some 0
  ignoresEnd := false
  ignoresTerminate := false
  ignoresKill := false
  isProcess := false
  returnCode := none
  hooks := ⟨none, none, none, none, none, none⟩

/-- How many reads a script can take. -/
def weight (weigh : ρ → Nat) (s : Script ρ τ) : Nat :=
  Item.weights weigh s.initial + total (fun (_, items) => Item.weights weigh items) s.responses +
    Item.weights weigh s.endOutput

/-- A child at its start. -/
def process (s : Script ρ τ) : Process ρ τ where
  script := s
  queue := s.initial
  responses := s.responses
  isAlive := s.isAlive
  exitStatus := s.exitStatus
  signalStatus := s.signalStatus
  returnCode := s.returnCode

end Script

namespace Process

/-- How many reads a child can take. -/
def weight (weigh : ρ → Nat) (p : Process ρ τ) : Nat :=
  Item.weights weigh p.queue + total (fun (_, items) => Item.weights weigh items) p.responses +
    Item.weights weigh p.script.endOutput

/-- Adds items at the end of what there is to read. -/
def enqueue (p : Process ρ τ) (items : List (Item ρ τ)) : Process ρ τ :=
  { p with queue := p.queue ++ items }

/-- What there is to read after a value was sent: a child has answers to texts only. -/
def answerTo (p : Process ρ τ) : Value → List (Item ρ τ)
  | .text t => (p.responses.lookup t).getD []
  | _ => []

/-- Ends the child with a status. -/
def exit (p : Process ρ τ) (status : Option Int) : Process ρ τ :=
  { p with isAlive := false, exitStatus := status }

/-- Ends the child by a signal. -/
def kill (p : Process ρ τ) (signal : Option Int) : Process ρ τ :=
  { p with isAlive := false, signalStatus := signal }

/-- Sets the answer to a text. -/
def respond (p : Process ρ τ) (t : Text) (items : List (Item ρ τ)) : Process ρ τ :=
  { p with responses := (t, items) :: p.responses.filter fun (x, _) => x != t }

/-- What happens when the child is asked to end, or forced to. -/
def stop (p : Process ρ τ) (force : Bool) : Process ρ τ :=
  let signal : Int := if force then 9 else 15
  if if force then p.script.ignoresKill else p.script.ignoresTerminate then p
  else if p.script.isProcess then { p with isAlive := false, returnCode := some (-signal) }
  else p.kill (some signal)

end Process

namespace Stage

variable [TimeScale τ]

/-- A stage with scripts, whose clock stands at a thousand. -/
def start (scripts : List (Script ρ τ)) : Stage ρ ο τ :=
  ⟨TimeScale.ofNumber (.int 1000), #[], scripts, []⟩

/-- How long ago the clock was started. -/
def elapsed (s : Stage ρ ο τ) : τ :=
  TimeScale.sub s.clock (TimeScale.ofNumber (.int 1000))

/-- How many reads everything on the stage can take. -/
def weight (weigh : ρ → Nat) (s : Stage ρ ο τ) : Nat :=
  total (Process.weight weigh) s.processes.toList + total (Script.weight weigh) s.scripts

/-- Lets time pass. -/
def advance (time : τ) (s : Stage ρ ο τ) : Stage ρ ο τ :=
  { s with clock := TimeScale.add s.clock time }

/-- Adds an entry to the journal. -/
def enter (e : Entry ο) (s : Stage ρ ο τ) : Stage ρ ο τ :=
  { s with journal := e :: s.journal }

/-- Changes a child. -/
def modify (n : Nat) (f : Process ρ τ → Process ρ τ) (s : Stage ρ ο τ) : Stage ρ ο τ :=
  { s with processes := s.processes.modify n f }

/-- A child, or one that says nothing where there is none. -/
def process (s : Stage ρ ο τ) (n : Nat) : Process ρ τ :=
  (s.processes[n]?).getD (Script.plain "").process

/-- Fails where a script says so. -/
def guard (fault : Option ChildFault) : Action (Stage ρ ο τ) ChildFault Unit :=
  match fault with
  | some f => throw f
  | none => return

/-- The fault of a child that has ended. -/
def ended : ChildFault := ⟨.ended, []⟩

/-- The fault of a child that is silent. -/
def silent : ChildFault := ⟨.silent, []⟩

/-- What a read meets that finds an item in front of others. -/
def deliver (n : Nat) (timeout : τ) (rest : List (Item ρ τ)) :
    Item ρ τ → Stage ρ ο τ → Except ChildFault (Delivery ρ) × Stage ρ ο τ
  | .wait time item, s =>
    if TimeScale.lt timeout time then
      (.error silent, (s.modify n fun p =>
        { p with queue := .wait (TimeScale.sub time timeout) item :: rest }).advance timeout)
    else deliver n timeout rest item (s.advance time)
  | item, s =>
    let s := s.modify n fun p => { p with queue := rest }
    match item with
    | .text t => (.ok (.chunk (.text t)), s)
    | .bytes b => (.ok (.chunk (.bytes b)), s)
    | .fail f => (.error f, s)
    | .exit status => (.error ended, s.modify n fun p => p.exit status)
    | .signal signal => (.error ended, s.modify n fun p => p.kill signal)
    | .request r => (.ok (.request r), s)
    | .wait .. => (.error silent, s)

/-- Reads from a child. -/
def read (n : Nat) (timeout : τ) : Action (Stage ρ ο τ) ChildFault (Delivery ρ) :=
  Action.ofRun fun s =>
    match (s.process n).queue with
    | [] =>
      if (s.process n).isAlive then (.error silent, s.advance timeout) else (.error ended, s)
    | item :: rest => deliver n timeout rest item s

/-- Starts the child of the next script. -/
def launch (l : Launch) : Action (Stage ρ ο τ) ChildFault Nat := do
  let n ← Action.look fun s => s.processes.size
  let script ← Action.look fun s => s.scripts.headD (Script.plain l.command)
  Action.change fun s =>
    { s with processes := s.processes.push script.process, scripts := s.scripts.drop 1 }
  Action.change (enter (.event n (.spawn l)))
  guard script.hooks.onSpawn
  return n

/-- Enters something done to a child, and fails where its script says so. -/
def act (n : Nat) (e : Process ρ τ → Event) (fault : Hooks → Option ChildFault) :
    Action (Stage ρ ο τ) ChildFault Unit := do
  let p ← Action.look fun s => s.process n
  Action.change (enter (.event n (e p)))
  guard (fault p.script.hooks)

/-- A scripted child; `weigh` says how many reads a request can take. -/
def child (weigh : ρ → Nat) (n : Nat) : Child (Stage ρ ο τ) τ where
  now := clock
  read timeout := do
    match ← read n timeout with
    | .chunk c => return c
    | .request _ => return .text []
  send v := do
    act n (fun _ => .send v) Hooks.onSend
    Action.change (modify n fun p => p.enqueue (p.answerTo v))
  isAlive := do
    guard (← Action.look fun s => (s.process n).script.hooks.onIsAlive)
    Action.look fun s => (s.process n).isAlive
  sendEnd := do
    act n (fun _ => .sendEnd) Hooks.onSendEnd
    Action.change (modify n fun p =>
      let p := p.enqueue p.script.endOutput
      if p.script.ignoresEnd then p else p.exit p.script.endStatus)
  terminate force := do
    act n
      (fun p =>
        if p.script.isProcess then if force then .processKill else .processTerminate
        else .terminate force)
      (if force then Hooks.onKill else Hooks.onTerminate)
    Action.change (modify n fun p => p.stop force)
  wait seconds :=
    act n (fun p => if p.script.isProcess then .processWait seconds else .wait) fun _ => none
  exitStatus s :=
    let p := s.process n
    if p.script.isProcess then p.exitStatus.or p.returnCode else p.exitStatus
  signalStatus s := (s.process n).signalStatus
  readLimit characters s := (s.weight weigh + 1) * (characters + 2)

/-- Scripted children as a system. -/
def system (weigh : ρ → Nat) : System (Stage ρ ο τ) ρ τ where
  now := clock
  launch := launch
  child := child weigh
  read := read
  record r := enter (.log r)

end Stage

end Teletype
