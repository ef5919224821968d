import Teletype.Proofs.Frame
import Mathlib.Logic.Function.Iterate

/-!
# Calls that overlap

Callers of a pool take turns wherever one of them gives up the roster: while a session is started or
closed, any number of steps of the others can come in between. A `Call` is what an order has come to,
and `Pool.step` is what it does until it gives the roster up the next time. A call that nobody comes
between does what the operation of the pool does (`Pool.exists_iterate_advance`).

An `Overlap` is a pool with all its calls, and a `Move` is what can happen next: an order, a step of
some call, or whatever happens around the pool. Of the roster a step knows only what `Effect` lists.
-/

namespace Teletype

open Teletype.Action

/-- What a caller wants of a pool. -/
inductive Order where
  | spawn (r : Request)
  | close (name : String)
  | reap
  | shutdown

/-- What a caller is told. -/
inductive Reply where
  | spawned (name : String) (captured : Captured)
  | closed (c : Host.Closed)
  | reaped (names : List String)
  | shutDown

/-- How far a call has come. -/
inductive Call where
  | spawn (r : Request)
  /-- The name is reserved. -/
  | starting (name command : String) (r : Request)
  /-- The session was not started, or closed again. -/
  | failed (name : String) (f : PoolFault)
  /-- The session was started, and has a number. -/
  | started (name : String) (number : Nat) (captured : Captured)
  | registered (name : String) (number : Nat) (captured : Captured)
  | close (name : String)
  /-- The session that was found under the name is to be closed. -/
  | closing (name : String) (number : Nat)
  | closed (name : String) (number : Nat) (result : Except PoolFault Host.Closed)
  | reap
  /-- The first of the sessions that are left is to be closed. -/
  | reaping (names : List String) (rest : List (String × Nat × String))
  /-- A session was closed, and the others are left. -/
  | reaped (names : List String) (name : String) (number : Nat)
      (rest : List (String × Nat × String))
  | shutdown
  | emptying (count : Nat) (rest : List (String × Nat))
  | done (reply : Except PoolFault Reply)

/-- How a call begins. -/
def Order.call : Order → Call
  | spawn r => .spawn r
  | close name => .close name
  | reap => .reap
  | shutdown => .shutdown

namespace Pool

variable {σ ρ τ : Type} [TimeScale τ] (p : Pool σ ρ τ)

/-- The operation of the pool that an order stands for. -/
def carryOut : Order → Act σ τ Reply
  | .spawn r => do
    let (name, captured) ← p.spawn r
    return .spawned name captured
  | .close name => return .closed (← p.close name)
  | .reap => return .reaped (← p.reap)
  | .shutdown => do
    p.shutdown
    return .shutDown

/-- What a call does next, up to where it gives up the roster. -/
def step : Call → Act σ τ Call
  | .spawn r => match r.command.filter fun command => !command.isEmpty with
    | none => throw .noCommand
    | some command => return .starting (← p.reserve r.name) command r
  | .starting name command r => do
    match ← (p.begin name command r).attempt with
    | .error f => return .failed name f
    | .ok (number, captured) => return .started name number captured
  | .failed name f => do
    onRoster fun roster => roster.release name
    throw f
  | .started name number captured => do
    onRoster fun roster => roster.register name number
    return .registered name number captured
  | .registered name number captured => do
    if !(← p.isAlive number) then p.note .info s!"Session {name} exited immediately"
    return .done (.ok (.spawned name captured))
  | .close name => return .closing name (← p.find name)
  | .closing name number => return .closed name number (← (p.withHost number Host.close).attempt)
  | .closed name _ result => do
    onRoster fun roster => roster.drop name
    return .done (.ok (.closed (← Action.ofExcept result)))
  | .reap => do
    let sessions ← p.ripe (← entries)
    return .reaping (sessions.map (·.1)) sessions
  | .reaping names [] => return .done (.ok (.reaped names))
  | .reaping names ((name, number, reason) :: rest) => do
    p.note .info s!"Reaping session {name} ({reason})"
    p.closeQuietly number s!"reaped session {name}"
    return .reaped names name number rest
  | .reaped names name _ rest => do
    onRoster fun roster => roster.drop name
    return .reaping names rest
  | .shutdown => do
    Action.change fun w => { w with isReaping := false }
    let sessions ← entries
    onRoster Roster.clear
    return .emptying sessions.length sessions
  | .emptying count [] => do
    p.note .info s!"Session manager shut down ({count} sessions closed)"
    return .done (.ok .shutDown)
  | .emptying count ((name, number) :: rest) => do
    p.closeQuietly number s!"session {name}"
    return .emptying count rest
  | .done reply => return .done reply

/-- A call and the state after its next step; a fault is the end of the call. -/
def advance (x : Call × World σ τ) : Call × World σ τ :=
  match (p.step x.1).runFrom x.2 with
  | (.ok c, w) => (c, w)
  | (.error f, w) => (.done (.error f), w)

/-- A call that is under way never begins to spawn. -/
theorem step_ne_spawn (c : Call) : (p.step c).Yields fun c' => ∀ r, c' ≠ .spawn r := by
  cases c with
  | spawn r =>
    rw [step]
    cases r.command.filter fun command => !command.isEmpty with
    | none => exact yields_throw _ _
    | some command => exact .bind fun name => yields_pure (by rintro r ⟨⟩)
  | starting name command r =>
    refine .bind fun begun => ?_
    cases begun with
    | error f => exact yields_pure (by rintro r ⟨⟩)
    | ok begun => exact yields_pure (by rintro r ⟨⟩)
  | failed name f => exact .bind fun _ => yields_throw _ _
  | registered name number captured =>
    refine .bind fun lives => ?_
    cases lives with
    | true => exact yields_pure (by rintro r ⟨⟩)
    | false => exact .bind fun _ => yields_pure (by rintro r ⟨⟩)
  | reap => exact .bind fun _ => .bind fun _ => yields_pure (by rintro r ⟨⟩)
  | reaping names rest =>
    cases rest with
    | nil => exact yields_pure (by rintro r ⟨⟩)
    | cons first rest => exact .bind fun _ => .bind fun _ => yields_pure (by rintro r ⟨⟩)
  | closed name number result => exact .bind fun _ => .bind fun _ => yields_pure (by rintro r ⟨⟩)
  | shutdown => exact .bind fun _ => .bind fun _ => .bind fun _ => yields_pure (by rintro r ⟨⟩)
  | emptying count rest =>
    cases rest with
    | nil => exact .bind fun _ => yields_pure (by rintro r ⟨⟩)
    | cons first rest => exact .bind fun _ => yields_pure (by rintro r ⟨⟩)
  | done reply => exact yields_pure (by rintro r ⟨⟩)
  | _ => exact .bind fun _ => yields_pure (by rintro r ⟨⟩)

theorem advance_ne_spawn (x : Call × World σ τ) (r : Request) : (p.advance x).1 ≠ .spawn r := by
  rw [advance]
  cases hr : (p.step x.1).runFrom x.2 with
  | mk result w =>
    cases result with
    | ok c => exact p.step_ne_spawn x.1 x.2 c w hr r
    | error f => rintro ⟨⟩

/-! ## Calls without overlap -/

/-- From a state, a call that nobody comes between ends with a result in a state. -/
def EndsWith (c : Call) (w : World σ τ) (x : Except PoolFault Reply × World σ τ) : Prop :=
  ∃ n, p.advance^[n] (c, w) = (.done x.1, x.2)

variable {p}

theorem endsWith_done (reply : Except PoolFault Reply) (w : World σ τ) :
    p.EndsWith (.done reply) w (reply, w) :=
  ⟨0, rfl⟩

/-- A call ends as it does after its next step. -/
theorem EndsWith.of_advance {c : Call} {w : World σ τ} {x : Except PoolFault Reply × World σ τ}
    (h : p.EndsWith (p.advance (c, w)).1 (p.advance (c, w)).2 x) : p.EndsWith c w x := by
  obtain ⟨n, hn⟩ := h
  exact ⟨n + 1, by rw [Function.iterate_succ_apply]; exact hn⟩

variable (p)

theorem endsWith_spawn (r : Request) (w : World σ τ) :
    p.EndsWith (.spawn r) w ((p.carryOut (.spawn r)).runFrom w) := by
  refine .of_advance ?_
  simp only [advance, step, carryOut, spawn, runFrom_bind]
  cases r.command.filter fun command => !command.isEmpty with
  | none => exact endsWith_done _ _
  | some command =>
    simp only [runFrom_bind]
    cases (p.reserve r.name).runFrom w with
    | mk result w₁ =>
      cases result with
      | error f => exact endsWith_done _ _
      | ok name =>
        refine .of_advance ?_
        simp only [advance, step, runFrom_bind, runFrom_attempt, runFrom_pure]
        cases (p.begin name command r).runFrom w₁ with
        | mk result w₂ =>
          cases result with
          | error f => exact .of_advance (endsWith_done _ _)
          | ok begun =>
            obtain ⟨number, captured⟩ := begun
            refine .of_advance (.of_advance ?_)
            simp only [advance, step, runFrom_bind, runFrom_pure, onRoster, runFrom_change]
            cases (p.isAlive number).runFrom _ with
            | mk result w₃ =>
              cases result with
              | error f => exact endsWith_done _ _
              | ok lives =>
                cases lives with
                | true => exact endsWith_done _ _
                | false => exact endsWith_done _ _

theorem endsWith_close (name : String) (w : World σ τ) :
    p.EndsWith (.close name) w ((p.carryOut (.close name)).runFrom w) := by
  refine .of_advance ?_
  simp only [advance, step, carryOut, close, runFrom_bind]
  cases (p.find name).runFrom w with
  | mk result w₁ =>
    cases result with
    | error f => exact endsWith_done _ _
    | ok number =>
      refine .of_advance (.of_advance ?_)
      simp only [advance, step, runFrom_bind, runFrom_pure, runFrom_attempt, onRoster,
        runFrom_change, runFrom_ofExcept]
      cases ((p.withHost number Host.close).runFrom w₁).1 with
      | error f => exact endsWith_done _ _
      | ok closed => exact endsWith_done _ _

theorem endsWith_reaping (names : List String) (rest : List (String × Nat × String))
    (w : World σ τ) :
    p.EndsWith (.reaping names rest) w
      ((p.reapAll rest >>= fun _ => pure (Reply.reaped names)).runFrom w) := by
  induction rest generalizing w with
  | nil => exact .of_advance (endsWith_done _ _)
  | cons first rest ih =>
    obtain ⟨name, number, reason⟩ := first
    refine .of_advance ?_
    simp only [advance, step, reapAll, note, runFrom_bind, runFrom_change]
    cases (p.closeQuietly number s!"reaped session {name}").runFrom _ with
    | mk result w₁ =>
      cases result with
      | error f => exact endsWith_done _ _
      | ok _ =>
        -- one more step drops the name, and the others are reaped from there
        refine .of_advance ?_
        have := ih { w₁ with roster := w₁.roster.drop name }
        rw [runFrom_bind] at this
        exact this

theorem endsWith_reap (w : World σ τ) :
    p.EndsWith .reap w ((p.carryOut .reap).runFrom w) := by
  refine .of_advance ?_
  simp only [advance, step, carryOut, reap, entries, runFrom_bind, runFrom_look]
  cases (p.ripe w.roster.entries).runFrom w with
  | mk result w₁ =>
    cases result with
    | error f => exact endsWith_done _ _
    | ok sessions =>
      have := p.endsWith_reaping (sessions.map (·.1)) sessions w₁
      simp only [runFrom_bind] at this
      simp only [runFrom_pure]
      cases hr : (p.reapAll sessions).runFrom w₁ with
      | mk result w₂ =>
        rw [hr] at this
        cases result with
        | error f => exact this
        | ok _ => exact this

theorem endsWith_emptying (count : Nat) (rest : List (String × Nat)) (w : World σ τ) :
    p.EndsWith (.emptying count rest) w ((do
      p.closeAll rest
      p.note .info s!"Session manager shut down ({count} sessions closed)"
      return Reply.shutDown : Act σ τ Reply).runFrom w) := by
  induction rest generalizing w with
  | nil => exact .of_advance (endsWith_done _ _)
  | cons first rest ih =>
    obtain ⟨name, number⟩ := first
    refine .of_advance ?_
    simp only [advance, step, closeAll, runFrom_bind]
    cases (p.closeQuietly number s!"session {name}").runFrom w with
    | mk result w₁ =>
      cases result with
      | error f => exact endsWith_done _ _
      | ok _ =>
        have := ih w₁
        simp only [runFrom_bind] at this
        exact this

theorem endsWith_shutdown (w : World σ τ) :
    p.EndsWith .shutdown w ((p.carryOut .shutdown).runFrom w) := by
  refine .of_advance ?_
  have := p.endsWith_emptying w.roster.entries.length w.roster.entries
    { w with isReaping := false, roster := w.roster.clear }
  simp only [runFrom_bind] at this
  simp only [advance, step, carryOut, shutdown, entries, onRoster, runFrom_bind, runFrom_look,
    runFrom_change, runFrom_pure]
  cases hr : (p.closeAll w.roster.entries).runFrom _ with
  | mk result w₁ =>
    rw [hr] at this
    cases result with
    | error f => exact this
    | ok _ => exact this

/-- **A call that nobody comes between does what the operation of the pool does**, and ends. -/
theorem exists_iterate_advance (order : Order) (w : World σ τ) :
    ∃ n, p.advance^[n] (order.call, w) =
      (.done ((p.carryOut order).runFrom w).1, ((p.carryOut order).runFrom w).2) := by
  cases order with
  | spawn r => exact p.endsWith_spawn r w
  | close name => exact p.endsWith_close name w
  | reap => exact p.endsWith_reap w
  | shutdown => exact p.endsWith_shutdown w

end Pool

/-! ## What a step does to the roster -/

/-- What is found under a name is an entry. -/
theorem Roster.mem_of_find? {r : Roster} {name : String} {number : Nat}
    (h : r.find? name = some number) : (name, number) ∈ r.entries := by
  obtain ⟨l, l', heq, -⟩ := List.lookup_eq_some_iff.1 h
  rw [heq]
  simp

namespace Call

/-- The name that is reserved for a call. -/
def held : Call → Option String
  | starting name _ _ | failed name _ | started name _ _ => some name
  | _ => none

/-- The session that a call has started and is about to register. -/
def opened : Call → Option (String × Nat)
  | started name number _ => some (name, number)
  | _ => none

/-- The session that a call has closed, with the name that it is about to drop. -/
def toDrop : Call → Option (String × Nat)
  | closed name number _ | reaped _ name number _ => some (name, number)
  | _ => none

/-- The sessions that a call found under their names and has not dropped yet. -/
def pending : Call → List (String × Nat)
  | closing name number | closed name number _ => [(name, number)]
  | reaping _ rest => rest.map fun e => (e.1, e.2.1)
  | reaped _ name number rest => (name, number) :: rest.map fun e => (e.1, e.2.1)
  | _ => []

end Call

/-- What a step of a call can do to the roster and to the sessions, from the call and the state
before it to those after it. -/
inductive Effect {σ τ : Type} : Call × World σ τ → Call × World σ τ → Prop
  /-- The roster is as it was. -/
  | quiet {c c' : Call} {w w' : World σ τ} : w.Untouched w' → c.opened = none → c.toDrop = none →
      c'.held = c.held → c'.opened = none → c'.pending ⊆ c.pending → Effect (c, w) (c', w')
  /-- A name is reserved. -/
  | reserved {r : Request} {command : String} {w w' : World σ τ} :
      w'.roster = (w.roster.nameFor r.name).2.reserve (w.roster.nameFor r.name).1 →
      w.seats.size ≤ w'.seats.size →
      Effect (.spawn r, w) (.starting (w.roster.nameFor r.name).1 command r, w')
  /-- A session is started, with a number that no session had. -/
  | opened {name command : String} {r : Request} {number : Nat} {captured : Captured}
      {w w' : World σ τ} :
      w'.roster = w.roster → w.seats.size ≤ number → number < w'.seats.size →
      Effect (.starting name command r, w) (.started name number captured, w')
  /-- A name is given back. -/
  | gaveBack {name : String} {f : PoolFault} {w : World σ τ} :
      Effect (.failed name f, w) (.done (.error f), { w with roster := w.roster.release name })
  /-- A session is registered. -/
  | registered {name : String} {number : Nat} {captured : Captured} {w : World σ τ} :
      Effect (.started name number captured, w)
        (.registered name number captured, { w with roster := w.roster.register name number })
  /-- Sessions are found under their names. -/
  | found {c c' : Call} {w w' : World σ τ} : w.Untouched w' → c.opened = none → c.toDrop = none →
      c'.held = c.held → c'.opened = none → c'.pending ⊆ w.roster.entries → Effect (c, w) (c', w')
  /-- The name of a session that was closed is dropped. -/
  | dropped {c c' : Call} {name : String} {number : Nat} {w : World σ τ} :
      c.toDrop = some (name, number) → c.opened = none → c'.held = c.held → c'.opened = none →
      c.pending = (name, number) :: c'.pending →
      Effect (c, w) (c', { w with roster := w.roster.drop name })
  /-- All names are dropped. -/
  | cleared {count : Nat} {sessions : List (String × Nat)} {w : World σ τ} :
      Effect (.shutdown, w)
        (.emptying count sessions, { w with isReaping := false, roster := w.roster.clear })

namespace Pool

variable {σ ρ τ : Type} [TimeScale τ] (p : Pool σ ρ τ)

/-- A step within which the roster is untouched, of a call that holds no name. -/
theorem effect_of_within {c : Call} {w : World σ τ} (h : (p.alone.step c).Within World.Untouched)
    (hheld : c.held = none) (hopened : c.opened = none) (hdrop : c.toDrop = none)
    (hok : ∀ c' w', (p.alone.step c).runFrom w = (.ok c', w') →
      c'.held = none ∧ c'.opened = none ∧ (c'.pending ⊆ c.pending ∨ c'.pending ⊆ w.roster.entries)) :
    Effect (c, w) (p.alone.advance (c, w)) := by
  have hw := h w
  rw [advance]
  cases hr : (p.alone.step c).runFrom w with
  | mk r w' =>
    rw [hr] at hw
    cases r with
    | error f => exact .quiet hw hopened hdrop hheld.symm rfl (List.nil_subset _)
    | ok c' =>
      obtain ⟨hheld', hopened', hpending | hpending⟩ := hok c' w' hr
      · exact .quiet hw hopened hdrop (hheld'.trans hheld.symm) hopened' hpending
      · exact .found hw hopened hdrop (hheld'.trans hheld.symm) hopened' hpending

/-- **What a step of a call does** is one of these effects. -/
theorem effect_advance (c : Call) (w : World σ τ) :
    Effect (c, w) (p.alone.advance (c, w)) := by
  cases c with
  | spawn r =>
    simp only [advance, step]
    cases r.command.filter fun command => !command.isEmpty with
    | none => exact .quiet (refl_of _ w) rfl rfl rfl rfl (List.nil_subset _)
    | some command =>
      simp only [runFrom_bind]
      rcases p.reserve_spec r.name w with ⟨w', hr, hroster, hsize⟩ | ⟨f, w', hr, hw⟩
      · rw [hr]
        exact .reserved hroster hsize
      · rw [hr]
        exact .quiet hw rfl rfl rfl rfl (List.nil_subset _)
  | starting name command r =>
    simp only [advance, step, runFrom_bind, runFrom_attempt]
    rcases p.begin_spec name command r w with
      ⟨number, captured, w', hr, hroster, hle, hlt⟩ | ⟨f, w', hr, hw⟩
    · rw [hr]
      exact .opened hroster hle hlt
    · rw [hr]
      exact .quiet hw rfl rfl rfl rfl (List.nil_subset _)
  | failed name f => exact .gaveBack
  | started name number captured => exact .registered
  | closed name number result =>
    cases result with
    | ok _ => exact .dropped rfl rfl rfl rfl rfl
    | error _ => exact .dropped rfl rfl rfl rfl rfl
  | reaped names name number rest => exact .dropped rfl rfl rfl rfl rfl
  | shutdown => exact .cleared
  | done reply => exact .quiet (refl_of _ w) rfl rfl rfl rfl (List.nil_subset _)
  | registered name number captured =>
    refine p.effect_of_within ?_ rfl rfl rfl ?_
    · refine (p.isAlive_untouched number).bind fun lives => .ite ?_ (within_pure _)
      exact (p.alone.note_untouched _ _).bind fun _ => within_pure _
    · intro c' w' h
      obtain ⟨lives, w₁, -, h⟩ := exists_of_runFrom_bind h
      cases lives with
      | true => cases h; exact ⟨rfl, rfl, .inl (List.nil_subset _)⟩
      | false => cases h; exact ⟨rfl, rfl, .inl (List.nil_subset _)⟩
  | close name =>
    refine p.effect_of_within ((p.find_untouched name).bind fun _ => within_pure _) rfl rfl rfl ?_
    intro c' w' h
    obtain ⟨number, w₁, hfind, h⟩ := exists_of_runFrom_bind h
    cases h
    refine ⟨rfl, rfl, .inr ?_⟩
    exact List.cons_subset.2 ⟨Roster.mem_of_find? (p.alone.find?_of_find hfind), List.nil_subset _⟩
  | closing name number =>
    have hclose := p.withHost_untouched (fun _ hh => hh.close) number
    refine p.effect_of_within (hclose.attempt.bind fun _ => within_pure _) rfl rfl rfl ?_
    intro c' w' h
    cases h
    exact ⟨rfl, rfl, .inl (List.Subset.refl _)⟩
  | reap =>
    have hripe : ∀ w : World σ τ, w.Untouched ((p.alone.step .reap).runFrom w).2 :=
      (within_look _).bind fun es => (p.ripe_untouched es).bind fun _ => within_pure _
    refine p.effect_of_within hripe rfl rfl rfl ?_
    intro c' w' h
    obtain ⟨es, w₁, hes, h⟩ := exists_of_runFrom_bind h
    cases hes
    obtain ⟨sessions, w₂, hsessions, h⟩ := exists_of_runFrom_bind h
    cases h
    refine ⟨rfl, rfl, .inr fun e he => ?_⟩
    obtain ⟨picked, hpicked, rfl⟩ := List.mem_map.1 he
    exact p.alone.mem_of_ripe hsessions picked hpicked
  | reaping names rest =>
    cases rest with
    | nil => exact .quiet (refl_of _ w) rfl rfl rfl rfl (List.nil_subset _)
    | cons first rest =>
      obtain ⟨name, number, reason⟩ := first
      refine p.effect_of_within ?_ rfl rfl rfl ?_
      · exact (p.alone.note_untouched _ _).bind fun _ =>
          (p.closeQuietly_untouched _ _).bind fun _ => within_pure _
      · intro c' w' h
        obtain ⟨_, w₁, -, h⟩ := exists_of_runFrom_bind h
        obtain ⟨_, w₂, -, h⟩ := exists_of_runFrom_bind h
        cases h
        exact ⟨rfl, rfl, .inl (List.Subset.refl _)⟩
  | emptying count rest =>
    cases rest with
    | nil => exact .quiet ⟨rfl, Nat.le_refl _⟩ rfl rfl rfl rfl (List.nil_subset _)
    | cons first rest =>
      obtain ⟨name, number⟩ := first
      refine p.effect_of_within ?_ rfl rfl rfl ?_
      · exact (p.closeQuietly_untouched _ _).bind fun _ => within_pure _
      · intro c' w' h
        obtain ⟨_, w₁, -, h⟩ := exists_of_runFrom_bind h
        cases h
        exact ⟨rfl, rfl, .inl (List.nil_subset _)⟩

end Pool

/-! ## Overlaps -/

/-- A pool's state, and all calls that were ever made, in order. -/
structure Overlap (σ τ : Type) where
  world : World σ τ
  calls : List Call

/-- What can happen next to a pool. -/
inductive Move (σ τ : Type) where
  /-- Somebody calls. -/
  | order (order : Order)
  /-- The call of that number takes its next step. -/
  | step (i : Nat)
  /-- Whatever does not concern the roster: time passes, children write and end, sessions are
  used. -/
  | around (system : σ → σ) (seat : Nat → Seat τ → Seat τ)

namespace Overlap

variable {σ ρ τ : Type}

/-- A pool that was just set up. -/
def start (system : σ) : Overlap σ τ where
  world := { system := system, seats := #[], roster := .empty, isReaping := false }
  calls := []

/-- The call of a number; a number that no call has stands for a call that is done. -/
def call (o : Overlap σ τ) (i : Nat) : Call :=
  o.calls.getD i (.done (.ok .shutDown))

theorem call_length (o : Overlap σ τ) : o.call o.calls.length = .done (.ok .shutDown) := by
  simp [call]

variable [TimeScale τ] (p : Pool σ ρ τ)

/-- What a move leads to. The calls run on the pool that serves no requests while it reads: here
other callers have moves of their own. -/
def move (o : Overlap σ τ) : Move σ τ → Overlap σ τ
  | .order order => { o with calls := o.calls ++ [order.call] }
  | .step i =>
    let next := p.alone.advance (o.call i, o.world)
    { world := next.2, calls := o.calls.set i next.1 }
  | .around system seat =>
    { o with world := { o.world with
        system := system o.world.system
        seats := o.world.seats.mapIdx seat } }

/-- What moves lead to, one after the other. -/
def run (o : Overlap σ τ) (moves : List (Move σ τ)) : Overlap σ τ :=
  moves.foldl (move p) o

theorem run_append (o : Overlap σ τ) (ms ms' : List (Move σ τ)) :
    run p o (ms ++ ms') = run p (run p o ms) ms' :=
  List.foldl_append

/-- Every move is one of which `P` holds where it is made. -/
def Along (P : Overlap σ τ → Move σ τ → Prop) : Overlap σ τ → List (Move σ τ) → Prop
  | _, [] => True
  | o, m :: ms => P o m ∧ Along P (move p o m) ms

variable {p}

/-- **Along a run**: what an invariant makes of a property `Q` of the moves holds along all runs
along which `Q` holds, if the moves with `Q` keep the invariant. -/
theorem Along.mono {I : Overlap σ τ → Prop} {P Q : Overlap σ τ → Move σ τ → Prop}
    {ms : List (Move σ τ)} (himp : ∀ o m, I o → Q o m → P o m)
    (hkeep : ∀ o, ∀ m ∈ ms, I o → Q o m → I (move p o m)) {o : Overlap σ τ} (hI : I o)
    (h : Along p Q o ms) : Along p P o ms := by
  induction ms generalizing o with
  | nil => trivial
  | cons m ms ih =>
    obtain ⟨hm, hms⟩ := h
    have hnext := hkeep o m List.mem_cons_self hI hm
    exact ⟨himp o m hI hm, ih (fun o m h => hkeep o m (List.mem_cons_of_mem _ h)) hnext hms⟩

/-- What an invariant makes equivalent holds along the same runs. -/
theorem along_iff {I : Overlap σ τ → Prop} {P Q : Overlap σ τ → Move σ τ → Prop}
    {ms : List (Move σ τ)} (hiff : ∀ o m, I o → (P o m ↔ Q o m))
    (hkeep : ∀ o, ∀ m ∈ ms, I o → Q o m → I (move p o m)) {o : Overlap σ τ} (hI : I o) :
    Along p P o ms ↔ Along p Q o ms :=
  ⟨Along.mono (fun o m hI hP => (hiff o m hI).1 hP)
    (fun o m h hI hP => hkeep o m h hI ((hiff o m hI).1 hP)) hI,
  Along.mono (fun o m hI hQ => (hiff o m hI).2 hQ) hkeep hI⟩

theorem call_move_step (o : Overlap σ τ) (i : Nat) :
    (move p o (.step i)).call i = (p.alone.advance (o.call i, o.world)).1 := by
  simp only [move, call, List.getD_eq_getElem?_getD, List.getElem?_set_self']
  cases o.calls[i]? with
  | none => rfl
  | some c => rfl

theorem call_move_step_of_ne {o : Overlap σ τ} {i j : Nat} (h : j ≠ i) :
    (move p o (.step i)).call j = o.call j := by
  simp only [move, call, List.getD_eq_getElem?_getD, List.getElem?_set_ne h.symm]

/-- The step of a call is an effect on it. -/
theorem effect_step (p : Pool σ ρ τ) (o : Overlap σ τ) (i : Nat) :
    Effect (o.call i, o.world) ((move p o (.step i)).call i, (move p o (.step i)).world) := by
  rw [call_move_step]
  exact p.effect_advance (o.call i) o.world

theorem call_move_order (o : Overlap σ τ) (order : Order) :
    (move p o (.order order)).call o.calls.length = order.call := by
  simp [move, call]

theorem call_move_order_of_ne {o : Overlap σ τ} {order : Order} {j : Nat}
    (h : j ≠ o.calls.length) : (move p o (.order order)).call j = o.call j := by
  simp only [move, call, List.getD_eq_getElem?_getD, List.getElem?_append]
  split
  · rfl
  · rw [List.getElem?_eq_none (by simp; omega), List.getElem?_eq_none (by omega)]

/-- **Every move is an effect on one call** and leaves the others as they are. One that is not the
step of a call is such an effect for a number that no call had. -/
theorem exists_effect (p : Pool σ ρ τ) (o : Overlap σ τ) (m : Move σ τ) :
    ∃ i, Effect (o.call i, o.world) ((move p o m).call i, (move p o m).world) ∧
      (∀ j ≠ i, (move p o m).call j = o.call j) ∧
      (m = .step i ∨ (∀ k, m ≠ .step k) ∧ o.call i = .done (.ok .shutDown)) := by
  cases m with
  | order order =>
    refine ⟨o.calls.length, ?_, fun j hj => call_move_order_of_ne hj,
      .inr ⟨by rintro k ⟨⟩, o.call_length⟩⟩
    -- the number that the new call gets stood for a call that was done
    rw [call_length, call_move_order]
    cases order with
    | _ => exact .quiet (refl_of _ o.world) rfl rfl rfl rfl (List.nil_subset _)
  | step i =>
    exact ⟨i, effect_step p o i, fun j hj => call_move_step_of_ne hj, .inl rfl⟩
  | around system seat =>
    -- no call does this, so it is the effect of one that is done
    refine ⟨o.calls.length, ?_, fun j _ => rfl, .inr ⟨by rintro k ⟨⟩, o.call_length⟩⟩
    have hcall : (move p o (.around system seat)).call o.calls.length = o.call o.calls.length := rfl
    rw [hcall, call_length]
    exact .quiet ⟨rfl, by simp [move]⟩ rfl rfl rfl rfl (List.nil_subset _)

/-- A call that begins to spawn did so before, or was ordered to by the move. -/
theorem spawn_of_move {o : Overlap σ τ} {m : Move σ τ} {j : Nat} {r : Request}
    (h : (move p o m).call j = .spawn r) : o.call j = .spawn r ∨ m = .order (.spawn r) := by
  cases m with
  | order order =>
    by_cases hlast : j = o.calls.length
    · rw [hlast, call_move_order] at h
      cases order with
      | spawn q => cases h; exact .inr rfl
      | _ => cases h
    · rw [call_move_order_of_ne hlast] at h
      exact .inl h
  | step i =>
    by_cases hji : j = i
    · rw [hji, call_move_step] at h
      exact absurd h (p.alone.advance_ne_spawn _ r)
    · rw [call_move_step_of_ne hji] at h
      exact .inl h
  | around system seat => exact .inl h

end Overlap

/-! ## A pool of silent children -/

/-- A scale on which no time passes. -/
instance : TimeScale Unit where
  add _ _ := ()
  sub _ _ := ()
  lt _ _ := false
  ofNumber _ := ()
  overflows _ _ := false
  exceeds _ _ := false
  roundTenth _ := ()

/-- A pool whose children all start, say nothing, and never end. -/
def Pool.silent : Pool Unit Empty Unit where
  system :=
    { now := fun _ => ()
      launch := fun _ => return 0
      child := fun _ =>
        { now := fun _ => ()
          read := fun _ => return .text []
          send := fun _ => return
          isAlive := return true
          sendEnd := return
          terminate := fun _ => return
          wait := fun _ => return
          exitStatus := fun _ => none
          signalStatus := fun _ => none
          readLimit := fun _ _ => 0 }
      read := fun _ _ => return .chunk (.text [])
      record := fun _ _ => () }
  options :=
    { settings :=
        { tabSize := .int 8
          idleTimeout := .int 1
          maxWait := .int 1
          maxBuffer := .number (.int 1)
          maxPages := .number (.int 1)
          autoDismiss := .bool false
          dismissKey := .text [' ']
          sanitize := .bool true }
      maxSessions := PoolOptions.usualMaxSessions
      maxLifetime := Opening.usualLifetime
      maxIdle := PoolOptions.usualMaxIdle
      directory := none
      reapInterval := .int 1
      environment := []
      backend := .pipes }
  serve := fun _ w => w

end Teletype
