/-!
# Actions

An action reads and changes a state and ends with a result or a fault. What it did to the state
before a fault stays done.
-/

namespace Teletype

/-- A change of a state of type `σ` that yields an `α` or fails with an `ε`. -/
abbrev Action (σ ε α : Type) := ExceptT ε (StateM σ) α

namespace Action

variable {σ ω ε ε' α β : Type}

/-- Runs an action from a state: its result, and the state after it. -/
def runFrom (a : Action σ ε α) (s : σ) : Except ε α × σ :=
  a.run.run s

/-- An action given by what it does to a state. -/
def ofRun (f : σ → Except ε α × σ) : Action σ ε α :=
  ExceptT.mk fun s => f s

/-- The action with its faults seen as faults of another type. -/
def mapFault (f : ε → ε') (a : Action σ ε α) : Action σ ε' α :=
  ofRun fun s => match a.runFrom s with
    | (.ok x, s) => (.ok x, s)
    | (.error e, s) => (.error (f e), s)

/-- The action with its fault as a part of its result. -/
def attempt (a : Action σ ε α) : Action σ ε' (Except ε α) :=
  ofRun fun s => let (r, s) := a.runFrom s; (.ok r, s)

/-- An action on a part of a state as an action on the whole. -/
def zoom (part : ω → σ) (put : σ → ω → ω) (a : Action σ ε α) : Action ω ε α :=
  ofRun fun w => let (r, s) := a.runFrom (part w); (r, put s w)

/-- Ends with a given result or fault. -/
def ofExcept (r : Except ε α) : Action σ ε α :=
  ofRun fun s => (r, s)

/-- Changes the state. -/
def change (f : σ → σ) : Action σ ε Unit :=
  ofRun fun s => (.ok (), f s)

/-- Reads something off the state. -/
def look (f : σ → α) : Action σ ε α :=
  ofRun fun s => (.ok (f s), s)

/-! ## Runs

What each action does from a state. -/

theorem runFrom_pure (x : α) (s : σ) : (pure x : Action σ ε α).runFrom s = (.ok x, s) := rfl

theorem runFrom_throw (e : ε) (s : σ) : (throw e : Action σ ε α).runFrom s = (.error e, s) := rfl

/-- An action in a row runs from the state that the one before it left, unless that failed. -/
theorem runFrom_bind (a : Action σ ε α) (f : α → Action σ ε β) (s : σ) :
    (a >>= f).runFrom s = match a.runFrom s with
      | (.ok x, s') => (f x).runFrom s'
      | (.error e, s') => (.error e, s') := by
  simp only [runFrom, ExceptT.run, bind, ExceptT.bind, ExceptT.mk, StateT.run, StateT.bind]
  cases h : a s with
  | mk r s' => cases r <;> rfl

theorem runFrom_ofRun (f : σ → Except ε α × σ) (s : σ) : (ofRun f).runFrom s = f s := rfl

theorem runFrom_attempt (a : Action σ ε α) (s : σ) :
    (a.attempt : Action σ ε' (Except ε α)).runFrom s = (.ok (a.runFrom s).1, (a.runFrom s).2) := rfl

theorem runFrom_mapFault (f : ε → ε') (a : Action σ ε α) (s : σ) :
    (a.mapFault f).runFrom s = ((a.runFrom s).1.mapError f, (a.runFrom s).2) := by
  simp only [mapFault, runFrom_ofRun]
  cases h : a.runFrom s with
  | mk r s' => cases r <;> rfl

theorem runFrom_zoom (part : ω → σ) (put : σ → ω → ω) (a : Action σ ε α) (w : ω) :
    (a.zoom part put).runFrom w = ((a.runFrom (part w)).1, put (a.runFrom (part w)).2 w) := rfl

theorem runFrom_ofExcept (r : Except ε α) (s : σ) :
    (ofExcept r : Action σ ε α).runFrom s = (r, s) := rfl

theorem runFrom_change (f : σ → σ) (s : σ) :
    (change f : Action σ ε Unit).runFrom s = (.ok (), f s) := rfl

theorem runFrom_look (f : σ → α) (s : σ) : (look f : Action σ ε α).runFrom s = (.ok (f s), s) := rfl

end Action

end Teletype
