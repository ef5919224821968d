import Teletype.Script

/-!
# Rehearsals

A rehearsal runs a pool, or a single session, step by step on scripted children, and shows after
each step what came of it: its result, what was done to the children, the log, the clock, and what
is left to read. A step can be part of a script; then it is a request that comes while a child is
read.
-/

namespace Teletype

/-- A step of a rehearsal of a pool. -/
inductive Step (τ : Type) where
  /-- Time passes. -/
  | advance (time : τ)
  /-- A child has more to say. -/
  | queue (process : Nat) (items : List (Item (Step τ) τ))
  /-- A child answers to a text in another way. -/
  | respond (process : Nat) (t : Text) (items : List (Item (Step τ) τ))
  /-- A child ends. -/
  | die (process : Nat) (status : Option Int)
  | spawn (r : Request)
  | get (name : String)
  | send (name : String) (t : Text)
  | runCommand (name : String) (command : Text) (prompt : Option (Option Text))
  | close (name : String)
  | list
  | reap
  | shutdown
  /-- Sessions are reaped from time to time from here on. -/
  | start
  /-- A use of the pool begins, and ends. -/
  | enter
  | exit
  /-- So many times the moment comes to reap. -/
  | ticks (count : Nat)

instance {τ : Type} : Inhabited (Step τ) := ⟨.list⟩

/-- A step of a rehearsal of a session. -/
inductive SessionStep (τ : Type) where
  /-- Something that happens outside the session. -/
  | around (s : Step τ)
  | readInitial
  | sendInput (t : Text)
  | sendControl (name : Option Text)
  | readOutput (idle : Option τ)
  | runCommand (command : Text) (prompt : Option (Option Text))
  | close
  | status

/-- What a step returns. -/
inductive Answer (τ : Type) where
  | nothing
  | captured (c : Captured)
  | spawned (name : String) (c : Captured)
  | found (id command : String) (prompt : Option Text)
  | closed (c : Host.Closed)
  | summaries (s : List (Summary τ))
  | names (names : List String)
  | reaping (isReaping : Bool)
  | status (isAlive : Bool) (age idle : τ) (isExpired : Bool)

/-- What came of a step. -/
abbrev Outcome (τ : Type) := Except PoolFault (Answer τ)

/-- A step that came as a request, and what came of it. -/
structure Aside (τ : Type) where
  step : Step τ
  outcome : Outcome τ

/-- A stage on which requests are steps. -/
abbrev Theatre (τ : Type) := Stage (Step τ) (Aside τ) τ

/-- What is seen after a step. -/
structure Scene (τ : Type) where
  outcome : Outcome τ
  events : List (Nat × Event)
  log : List LogRecord
  asides : List (Aside τ)
  /-- The time since the start. -/
  clock : τ
  /-- The registered names. -/
  names : List String
  /-- How much is left to read from each process. -/
  pending : List Nat
  /-- The remembered prompt of the first session. -/
  prompt : Option Text

namespace Rehearsal

variable {τ : Type}

mutual

/-- How many reads a step can add. -/
def weigh : Step τ → Nat
  | .queue _ items => weighItems items
  | .respond _ _ items => weighItems items
  | _ => 0

/-- How many reads an item can take. -/
def weighItem : Item (Step τ) τ → Nat
  | .wait _ item => 1 + weighItem item
  | .request s => 1 + weigh s
  | _ => 1

/-- How many reads items can take. -/
def weighItems : List (Item (Step τ) τ) → Nat
  | [] => 0
  | item :: items => weighItem item + weighItems items

end

variable [TimeScale τ]

/-- An action of a rehearsal. -/
abbrev Act (τ α : Type) := Pool.Act (Theatre τ) τ α

/-- Changes the stage. -/
def onStage (f : Theatre τ → Theatre τ) : Act τ Unit :=
  Action.change fun w => { w with system := f w.system }

/-- The pattern of a prompt that a step gives. -/
def patternOf (prompt : Option (Option Text)) : Act τ (Option PromptPattern) :=
  match prompt with
  | none => return none
  | some text => match PromptPattern.ofPrompt text with
    | .ok pattern => return some pattern
    | .error e => throw (.session (.render (.overlong e)))

/-- Comes to the moment to reap so many times. -/
def tick (p : Pool (Theatre τ) (Step τ) τ) : Nat → Act τ Unit
  | 0 => return
  | n + 1 => do
    onStage (Stage.advance (TimeScale.ofNumber p.options.reapInterval))
    let _ ← p.reap
    tick p n

/-- Takes a step. -/
def perform (p : Pool (Theatre τ) (Step τ) τ) : Step τ → Act τ (Answer τ)
  | .advance time => do
    onStage (Stage.advance time)
    return .nothing
  | .queue process items => do
    onStage (Stage.modify process fun q => q.enqueue items)
    return .nothing
  | .respond process t items => do
    onStage (Stage.modify process fun q => q.respond t items)
    return .nothing
  | .die process status => do
    onStage (Stage.modify process fun q => q.exit status)
    return .nothing
  | .spawn r => do
    let (name, captured) ← p.spawn r
    return .spawned name captured
  | .get name => do
    let s ← p.get name
    return .found s.id s.command (s.prompt.map (·.text))
  | .send name t => return .captured (← p.send name t)
  | .runCommand name command prompt => do
    let pattern ← patternOf prompt
    return .captured (← p.runCommand name command pattern)
  | .close name => return .closed (← p.close name)
  | .list => return .summaries (← p.list)
  | .reap => return .names (← p.reap)
  | .shutdown => do
    p.shutdown
    return .nothing
  | .start | .enter => do
    Pool.start
    return .reaping (← Action.look World.isReaping)
  | .exit => do
    p.shutdown
    return .reaping (← Action.look World.isReaping)
  | .ticks count => do
    tick p count
    return .nothing

/-- A pool on a stage; requests are served to a depth, which is no less than the number of requests
in all scripts. -/
def pool (options : PoolOptions) : (depth : Nat) → Pool (Theatre τ) (Step τ) τ
  | 0 => ⟨Stage.system weigh, options, fun _ w => w⟩
  | depth + 1 =>
    ⟨Stage.system weigh, options, fun step w =>
      let (outcome, w) := (perform (pool options depth) step).runFrom w
      { w with system := w.system.enter (.outcome ⟨step, outcome⟩) }⟩

/-- The pool for a step from a state. -/
def poolFor (options : PoolOptions) (w : World (Theatre τ) τ) (s : Step τ) :
    Pool (Theatre τ) (Step τ) τ :=
  pool options (w.system.weight weigh + weigh s + 1)

/-- The state before the first step. -/
def opening (scripts : List (Script (Step τ) τ)) (notes : List LogRecord) :
    World (Theatre τ) τ :=
  { system := notes.foldl (fun s r => s.enter (.log r)) (Stage.start scripts)
    seats := #[]
    roster := .empty
    isReaping := false }

/-- Shows what came of a step, and begins a new page of the journal. -/
def scene (outcome : Outcome τ) (w : World (Theatre τ) τ) : Scene τ × World (Theatre τ) τ :=
  let journal := w.system.journal.reverse
  ({ outcome := outcome
     events := journal.filterMap fun
       | .event n e => some (n, e)
       | _ => none
     log := journal.filterMap fun
       | .log r => some r
       | _ => none
     asides := journal.filterMap fun
       | .outcome a => some a
       | _ => none
     clock := w.system.elapsed
     names := w.roster.names
     pending := w.system.processes.toList.map fun q => q.queue.length
     prompt := (w.seats[0]?).bind fun s => s.session.prompt.map (·.text) },
    { w with system := { w.system with journal := [] } })

/-- Takes steps one after the other. -/
def run {α : Type} (act : World (Theatre τ) τ → α → Act τ (Answer τ)) :
    World (Theatre τ) τ → List α → List (Scene τ)
  | _, [] => []
  | w, step :: steps =>
    let (outcome, w') := (act w step).runFrom w
    let (first, w') := scene outcome w'
    first :: run act w' steps

/-- Rehearses a pool. The first scene is that before all steps. -/
def ofPool (options : PoolOptions) (notes : List LogRecord) (scripts : List (Script (Step τ) τ))
    (steps : List (Step τ)) : List (Scene τ) :=
  let (first, w) := scene (.ok .nothing) (opening scripts notes)
  first :: run (fun w s => perform (poolFor options w s) s) w steps

/-- Takes a step of a session, which is the first one of a pool. -/
def performSession (options : PoolOptions) (w : World (Theatre τ) τ) :
    SessionStep τ → Act τ (Answer τ)
  | .around s => perform (poolFor options w s) s
  | .readInitial => captured Host.readInitial
  | .sendInput t => captured fun h => h.sendInput t
  | .sendControl name => captured fun h => h.sendControl name
  | .readOutput idle => captured fun h => h.readOutput idle
  | .runCommand command prompt => do
    let pattern ← patternOf prompt
    captured fun h => h.runCommand command pattern
  | .close => return .closed (← session Host.close)
  | .status => do
    let isAlive ← (poolFor options w .list).isAlive 0
    Action.look fun w =>
      let h := (poolFor options w .list).hostAt w 0
      .status isAlive (h.age w) (h.idle w) (h.isExpired w)
where
  session {α : Type} (f : Host (World (Theatre τ) τ) τ →
      Action (World (Theatre τ) τ) SessionFault α) : Act τ α :=
    (poolFor options w .list).withHost 0 f
  captured (f : Host (World (Theatre τ) τ) τ →
      Action (World (Theatre τ) τ) SessionFault Captured) : Act τ (Answer τ) := do
    return .captured (← session f)

/-- Rehearses a session. The first scene is that of its start, and the only one if that fails. -/
def ofSession (options : PoolOptions) (o : Opening) (notes : List LogRecord)
    (scripts : List (Script (Step τ) τ)) (steps : List (SessionStep τ)) : List (Scene τ) :=
  let w := opening scripts notes
  match ((poolFor options w .list).openSession o).runFrom w with
  | (.error f, w) => [(scene (.error f) w).1]
  | (.ok _, w) =>
    let (first, w) := scene (.ok .nothing) w
    first :: run (performSession options) w steps

end Rehearsal

end Teletype
