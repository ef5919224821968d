import Teletype.Pool
import Mathlib.Order.Defs.Unbundled

/-!
# What actions leave alone

An action is *within* a relation when the states before and after it are always related, whether it
ends with a result or a fault. For a relation that is reflexive and transitive this passes through
every way of building actions, so it only has to be seen of what a host offers (`Host.Within`): then
it holds of all that a session does there.

Of a pool that serves no requests, nothing that is done to a session, to a child or to the log
touches the roster or takes a session away (`World.Untouched`).
-/

namespace Teletype

namespace Action

variable {σ ω ε ε' α β : Type} {R : σ → σ → Prop}

/-- Whatever comes of an action, it relates the states before and after it. -/
def Within (R : σ → σ → Prop) (a : Action σ ε α) : Prop :=
  ∀ s, R s (a.runFrom s).2

/-- A row of two actions that ends with a result: so did the first, and the second after it. -/
theorem exists_of_runFrom_bind {a : Action σ ε α} {f : α → Action σ ε β} {s s' : σ} {y : β}
    (h : (a >>= f).runFrom s = (.ok y, s')) :
    ∃ x s₁, a.runFrom s = (.ok x, s₁) ∧ (f x).runFrom s₁ = (.ok y, s') := by
  rw [runFrom_bind] at h
  cases hr : a.runFrom s with
  | mk r s₁ =>
    rw [hr] at h
    cases r with
    | ok x => exact ⟨x, s₁, rfl, h⟩
    | error e => cases h

/-- What an action ends with does not depend on how its faults are seen. -/
theorem runFrom_mapFault_eq_ok_iff {a : Action σ ε α} {f : ε → ε'} {s s' : σ} {x : α} :
    (a.mapFault f).runFrom s = (.ok x, s') ↔ a.runFrom s = (.ok x, s') := by
  rw [runFrom_mapFault]
  cases a.runFrom s with
  | mk r s₁ =>
    cases r with
    | ok y => constructor <;> rintro ⟨⟩ <;> rfl
    | error e => exact iff_of_false (by rintro ⟨⟩) (by rintro ⟨⟩)

/-- Every result that an action ends with has a property. -/
def Yields (Q : α → Prop) (a : Action σ ε α) : Prop :=
  ∀ s x s', a.runFrom s = (.ok x, s') → Q x

theorem yields_pure {Q : α → Prop} {x : α} (h : Q x) : Yields Q (pure x : Action σ ε α) := by
  rintro s y s' ⟨⟩
  exact h

theorem yields_throw (Q : α → Prop) (e : ε) : Yields Q (throw e : Action σ ε α) := by
  rintro s x s' ⟨⟩

theorem Yields.bind {Q : β → Prop} {a : Action σ ε α} {f : α → Action σ ε β}
    (h : ∀ x, Yields Q (f x)) : Yields Q (a >>= f) := by
  intro s y s' hrun
  obtain ⟨x, s₁, -, hrun⟩ := exists_of_runFrom_bind hrun
  exact h x s₁ y s' hrun

theorem Within.mapFault {a : Action σ ε α} (h : Within R a) (f : ε → ε') :
    Within R (a.mapFault f) := by
  intro s
  rw [runFrom_mapFault]
  exact h s

theorem Within.attempt {a : Action σ ε α} (h : Within R a) :
    Within R (a.attempt : Action σ ε' (Except ε α)) := by
  intro s
  rw [runFrom_attempt]
  exact h s

theorem within_change {f : σ → σ} (h : ∀ s, R s (f s)) :
    Within R (change f : Action σ ε Unit) :=
  h

theorem Within.ite {c : Prop} [Decidable c] {a b : Action σ ε α} (ha : Within R a)
    (hb : Within R b) : Within R (if c then a else b) := by
  split
  · exact ha
  · exact hb

variable [IsPreorder σ R]

theorem within_pure (x : α) : Within R (pure x : Action σ ε α) :=
  fun s => refl_of R s

theorem within_throw (e : ε) : Within R (throw e : Action σ ε α) :=
  fun s => refl_of R s

theorem within_ofExcept (r : Except ε α) : Within R (ofExcept r : Action σ ε α) :=
  fun s => refl_of R s

theorem within_look (f : σ → α) : Within R (look f : Action σ ε α) :=
  fun s => refl_of R s

theorem Within.bind {a : Action σ ε α} (h : Within R a) {f : α → Action σ ε β}
    (hf : ∀ x, Within R (f x)) : Within R (a >>= f) := by
  intro s
  rw [runFrom_bind]
  have hs := h s
  cases hr : a.runFrom s with
  | mk r s' =>
    rw [hr] at hs
    cases r with
    | error e => exact hs
    | ok x => exact trans_of R hs (hf x s')

end Action

open Teletype.Action

/-! ## Sessions -/

variable {κ τ α : Type} {R : κ → κ → Prop}

/-- All that a host offers keeps within a relation. -/
structure Host.Within (R : κ → κ → Prop) (h : Host κ τ) : Prop where
  read : ∀ t, (h.read t).Within R
  send : ∀ v, (h.send v).Within R
  isAlive : h.isAlive.Within R
  sendEnd : h.sendEnd.Within R
  terminate : ∀ force, (h.terminate force).Within R
  wait : ∀ seconds, (h.wait seconds).Within R
  update : ∀ f k, R k (h.update f k)
  record : ∀ r k, R k (h.record r k)

namespace Host.Within

variable {h : Host κ τ}

theorem ask {a : Action κ ChildFault α} (ha : a.Within R) : (Host.ask a).Within R :=
  ha.mapFault _

theorem note (hh : h.Within R) (level : Level) (text : Session τ → String) :
    (h.note level text).Within R :=
  within_change fun k => hh.record _ k

theorem dismiss (hh : h.Within R) (c : Settings) : (h.dismiss c).Within R :=
  ask (hh.send _)

variable [IsPreorder κ R]

theorem readPiece (hh : h.Within R) (idle : τ) : (h.readPiece idle).Within R := by
  refine (hh.read idle).attempt.bind fun r => ?_
  cases r with
  | ok chunk => exact within_pure _
  | error f => exact .ite (within_pure _) (within_throw _)

theorem isFull (hh : h.Within R) (c : Settings) (p : Progress) : (h.isFull c p).Within R := by
  refine (within_ofExcept _).bind fun fits => .ite (within_pure _) ?_
  exact (hh.note _ _).bind fun _ => within_pure _

theorem isSpent (hh : h.Within R) (c : Settings) (p : Progress) : (h.isSpent c p).Within R := by
  refine (within_ofExcept _).bind fun spent => .ite ?_ (within_pure _)
  exact (hh.note _ _).bind fun _ => within_pure _

theorem remember (hh : h.Within R) (prompt : Option Text) : (h.remember prompt).Within R := by
  cases prompt with
  | none => exact within_pure _
  | some text =>
    refine .ite (within_pure _) ?_
    cases PromptPattern.ofPrompt (some text) with
    | ok pattern => exact within_change fun k => hh.update _ k
    | error e => exact within_throw _

theorem whileAlive (hh : h.Within R) (name : String) {a : Action κ ChildFault Unit}
    (ha : a.Within R) : (h.whileAlive name a).Within R := by
  refine (ask hh.isAlive).bind fun lives => .ite ?_ (within_pure _)
  refine ha.attempt.bind fun r => ?_
  cases r with
  | ok _ => exact within_pure _
  | error f => exact hh.note _ _

variable [TimeScale τ]

theorem readOn (hh : h.Within R) (c : Settings) (prompt : Option PromptPattern)
    (idle deadline : τ) (reads : Nat) (p : Progress) :
    (h.readOn c prompt idle deadline reads p).Within R := by
  induction reads generalizing p with
  | zero => exact within_pure _
  | succ reads ih =>
    refine (within_look _).bind fun now => .ite (within_pure _) ?_
    refine (hh.readPiece idle).bind fun chunk => ?_
    cases chunk with
    | none => exact within_pure _
    | some chunk =>
      refine .ite (ih p) (.ite ?paused ?running)
      case paused =>
        refine (hh.isSpent c _).bind fun spent => .ite (within_pure _) ?_
        refine (hh.isFull c _).bind fun full => .ite (within_pure _) ?_
        exact (hh.dismiss c).bind fun _ => ih _
      case running =>
        refine (within_ofExcept _).bind fun shown => .ite (within_pure _) ?_
        exact (hh.isFull c _).bind fun full => .ite (within_pure _) (ih _)

theorem capture (hh : h.Within R) (idle : Option τ) (prompt : Option PromptPattern) :
    (h.capture idle prompt).Within R := by
  refine (within_look _).bind fun s => (within_look _).bind fun now =>
    (within_ofExcept _).bind fun deadline => (within_look _).bind fun reads => ?_
  exact (hh.readOn _ prompt _ _ reads _).bind fun r => within_ofExcept _

theorem readInitial (hh : h.Within R) : h.readInitial.Within R :=
  (hh.capture none none).bind fun captured =>
    (hh.remember _).bind fun _ => within_pure captured

theorem drain (hh : h.Within R) : h.drain.Within R := by
  have hattempt := (ask hh.sendEnd).bind fun _ =>
    hh.capture (some (TimeScale.ofNumber (.float 1))) none
  refine hattempt.attempt.bind fun r => ?_
  cases r with
  | ok captured => exact within_pure _
  | error f =>
    cases f with
    | child f => exact .ite (within_pure _) (within_throw _)
    | _ => exact within_throw _

/-- Closing a session keeps within what its host keeps within. -/
theorem close (hh : h.Within R) : h.close.Within R := by
  -- what follows is the same with and without something that the child still writes
  have hend : ∀ finalOutput : Text, Action.Within R (do
      h.whileAlive "terminate" do
        h.terminate false
        h.wait 5
      h.whileAlive "kill" (h.terminate true)
      let status ← Action.look h.exitStatus
      h.note .info fun s => s!"Closed session {s.id} (exit_status={statusText status})"
      return (⟨status.or (← Action.look h.signalStatus), finalOutput⟩ : Closed)) := by
    intro finalOutput
    refine (hh.whileAlive _ ((hh.terminate false).bind fun _ => hh.wait 5)).bind fun _ => ?_
    refine (hh.whileAlive _ (hh.terminate true)).bind fun _ => ?_
    refine (within_look _).bind fun status => (hh.note _ _).bind fun _ => ?_
    exact (within_look _).bind fun signal => within_pure _
  refine (ask hh.isAlive).bind fun lives => .ite ?_ ?_
  · exact hh.drain.bind hend
  · exact (within_pure _).bind hend

end Host.Within

/-! ## Pools -/

/-- The places that a pool gives to sessions keep within a relation, and so does starting one. -/
structure Pool.Within {σ ρ : Type} (R : World σ τ → World σ τ → Prop) (p : Pool σ ρ τ) : Prop where
  host : ∀ number process, (p.host number process).Within R
  openSession : ∀ o, (p.openSession o).Within R
  note : ∀ level text, (p.note level text).Within R

namespace Pool.Within

variable {σ ρ : Type} {p : Pool σ ρ τ} {R : World σ τ → World σ τ → Prop}

theorem withHost (hp : p.Within R) {f : Host (World σ τ) τ → Action (World σ τ) SessionFault α}
    (hf : ∀ h : Host (World σ τ) τ, h.Within R → (f h).Within R) (number : Nat) :
    (p.withHost number f).Within R := by
  intro w
  exact ((hf _ (hp.host number _)).mapFault _) w

theorem isAlive (hp : p.Within R) (number : Nat) : (p.isAlive number).Within R :=
  hp.withHost (fun _ hh => Host.Within.ask hh.isAlive) number

variable [IsPreorder (World σ τ) R]

theorem alive (hp : p.Within R) (entries : List (String × Nat)) : (p.alive entries).Within R := by
  induction entries with
  | nil => exact within_pure _
  | cons e rest ih =>
    exact (hp.isAlive e.2).bind fun lives => ih.bind fun names => within_pure _

theorem find (hp : p.Within R) (name : String) : (p.find name).Within R := by
  refine (within_look _).bind fun found => ?_
  cases found with
  | some number => exact within_pure _
  | none => exact (within_look _).bind fun es => (hp.alive es).bind fun _ => within_throw _

variable [TimeScale τ]

theorem closeQuietly (hp : p.Within R) (number : Nat) (what : String) :
    (p.closeQuietly number what).Within R := by
  refine (hp.withHost (fun _ hh => hh.close) number).attempt.bind fun r => ?_
  cases r with
  | ok _ => exact within_pure _
  | error f => exact hp.note _ _

theorem begin (hp : p.Within R) (name command : String) (r : Request) :
    (p.begin name command r).Within R := by
  refine (hp.openSession _).bind fun number =>
    (hp.withHost (fun _ hh => hh.readInitial) number).attempt.bind fun captured => ?_
  cases captured with
  | ok captured => exact within_pure _
  | error f => exact (hp.closeQuietly _ _).bind fun _ => within_throw _

theorem reasonToReap (hp : p.Within R) (number : Nat) : (p.reasonToReap number).Within R :=
  (hp.isAlive number).bind fun _ => (within_look _).bind fun _ => within_ofExcept _

theorem ripe (hp : p.Within R) (entries : List (String × Nat)) : (p.ripe entries).Within R := by
  induction entries with
  | nil => exact within_pure _
  | cons e rest ih =>
    exact (hp.reasonToReap e.2).bind fun reason => ih.bind fun others => within_pure _

end Pool.Within

/-! ## Pools that serve no requests -/

/-- The pool that does not serve the requests that interrupt a read. -/
def Pool.alone {σ ρ : Type} (p : Pool σ ρ τ) : Pool σ ρ τ :=
  { p with serve := fun _ w => w }

/-- The roster is the same, and no session is gone. -/
def World.Untouched {σ : Type} (w w' : World σ τ) : Prop :=
  w'.roster = w.roster ∧ w.seats.size ≤ w'.seats.size

instance {σ : Type} : IsPreorder (World σ τ) World.Untouched where
  refl _ := ⟨rfl, Nat.le_refl _⟩
  trans _ _ _ h h' := ⟨h'.1.trans h.1, Nat.le_trans h.2 h'.2⟩

namespace Pool

variable {σ ρ ε : Type} (p : Pool σ ρ τ)

theorem onSystem_untouched (a : Action σ ε α) :
    (onSystem a : Action (World σ τ) ε α).Within World.Untouched :=
  fun _ => ⟨rfl, Nat.le_refl _⟩

theorem note_untouched (level : Level) (text : String) :
    (p.note level text).Within World.Untouched :=
  fun _ => ⟨rfl, Nat.le_refl _⟩

/-- A read keeps within what waiting for the process keeps within, if nobody else is around. -/
theorem read_within {R : World σ τ → World σ τ → Prop} [IsPreorder (World σ τ) R] {process : Nat}
    {timeout : τ}
    (h : (onSystem (p.system.read process timeout) :
      Action (World σ τ) ChildFault (Delivery ρ)).Within R) :
    (p.alone.read process timeout).Within R := by
  refine Within.bind h fun delivery => ?_
  cases delivery with
  | chunk c => exact within_pure _
  | request r => exact (within_change fun w => refl_of _ w).bind fun _ => within_pure _

theorem host_untouched (number process : Nat) :
    (p.alone.host number process).Within World.Untouched where
  read _ := p.read_within (onSystem_untouched _)
  send _ := onSystem_untouched _
  isAlive := onSystem_untouched _
  sendEnd := onSystem_untouched _
  terminate _ := onSystem_untouched _
  wait _ := onSystem_untouched _
  update _ _ := ⟨rfl, by simp [host]⟩
  record _ _ := ⟨rfl, Nat.le_refl _⟩

/-- A session that is opened gets a number that no session had. -/
theorem openSession_spec (o : Opening) (w : World σ τ) :
    (∃ number w', (p.openSession o).runFrom w = (.ok number, w') ∧ w'.roster = w.roster ∧
      w.seats.size ≤ number ∧ number < w'.seats.size) ∨
    ∃ f w', (p.openSession o).runFrom w = (.error f, w') ∧ w.Untouched w' := by
  rw [openSession, runFrom_bind, runFrom_look]
  simp only [runFrom_bind, runFrom_mapFault, onSystem, runFrom_zoom]
  cases (p.system.launch o.launch).runFrom w.system with
  | mk r s =>
    cases r with
    | error f => exact .inr ⟨_, _, rfl, rfl, Nat.le_refl _⟩
    | ok process => exact .inl ⟨_, _, rfl, rfl, Nat.le_refl _, by simp⟩

/-- Nothing that a pool does with sessions touches the roster. -/
theorem untouched : p.alone.Within World.Untouched where
  host number process := p.host_untouched number process
  openSession o := by
    intro w
    rcases p.alone.openSession_spec o w with ⟨number, w', hopen, hroster, hle, hlt⟩ | ⟨f, w', hopen, hw⟩
    · rw [hopen]
      exact ⟨hroster, Nat.le_of_lt (Nat.lt_of_le_of_lt hle hlt)⟩
    · rw [hopen]
      exact hw
  note level text := p.alone.note_untouched level text

theorem withHost_untouched {f : Host (World σ τ) τ → Action (World σ τ) SessionFault α}
    (hf : ∀ h : Host (World σ τ) τ, h.Within World.Untouched → (f h).Within World.Untouched)
    (number : Nat) : (p.alone.withHost number f).Within World.Untouched :=
  p.untouched.withHost hf number

theorem isAlive_untouched (number : Nat) :
    (p.alone.isAlive number).Within World.Untouched :=
  p.untouched.isAlive number

theorem alive_untouched (entries : List (String × Nat)) :
    (p.alone.alive entries).Within World.Untouched :=
  p.untouched.alive entries

/-- Looking for a session changes nothing. -/
theorem find_untouched (name : String) : (p.alone.find name).Within World.Untouched :=
  p.untouched.find name

/-- The session that is found is the one registered under the name. -/
theorem find?_of_find {name : String} {w w' : World σ τ} {number : Nat}
    (h : (p.find name).runFrom w = (.ok number, w')) : w.roster.find? name = some number := by
  rw [find, runFrom_bind, runFrom_look] at h
  cases hfind : w.roster.find? name with
  | some found =>
    simp only [hfind, runFrom_pure] at h
    rw [(Except.ok.inj (Prod.mk.inj h).1)]
  | none =>
    simp only [hfind, runFrom_bind, entries, runFrom_look] at h
    split at h
    · cases h
    · cases h

/-- A reservation gives the name that the roster has for it, or changes nothing. -/
theorem reserve_spec (wanted : Option String) (w : World σ τ) :
    (∃ w', (p.alone.reserve wanted).runFrom w = (.ok (w.roster.nameFor wanted).1, w') ∧
      w'.roster = (w.roster.nameFor wanted).2.reserve (w.roster.nameFor wanted).1 ∧
      w.seats.size ≤ w'.seats.size) ∨
    ∃ f w', (p.alone.reserve wanted).runFrom w = (.error f, w') ∧ w.Untouched w' := by
  have halive := p.alive_untouched w.roster.entries w
  rw [reserve, entries, runFrom_bind, runFrom_look]
  simp only [runFrom_bind]
  cases hr : (p.alone.alive w.roster.entries).runFrom w with
  | mk r w' =>
    rw [hr] at halive
    cases r with
    | error f => exact .inr ⟨f, w', rfl, halive⟩
    | ok active =>
      simp only [runFrom_look]
      split
      · exact .inr ⟨_, w', rfl, halive⟩
      · rw [halive.1]
        exact .inl ⟨_, rfl, rfl, halive.2⟩

variable [TimeScale τ]

theorem closeQuietly_untouched (number : Nat) (what : String) :
    (p.alone.closeQuietly number what).Within World.Untouched :=
  p.untouched.closeQuietly number what

theorem ripe_untouched (entries : List (String × Nat)) :
    (p.alone.ripe entries).Within World.Untouched :=
  p.untouched.ripe entries

/-- The sessions that are reaped are registered. -/
theorem mem_of_ripe {sessions : List (String × Nat)} {w w' : World σ τ}
    {picked : List (String × Nat × String)}
    (h : (p.ripe sessions).runFrom w = (.ok picked, w')) :
    ∀ e ∈ picked, (e.1, e.2.1) ∈ sessions := by
  induction sessions generalizing w w' picked with
  | nil =>
    cases h
    exact fun e he => absurd he List.not_mem_nil
  | cons first rest ih =>
    obtain ⟨name, number⟩ := first
    obtain ⟨reason, w₁, -, h⟩ := exists_of_runFrom_bind h
    obtain ⟨others, w₂, hothers, h⟩ := exists_of_runFrom_bind h
    have hrest : ∀ e ∈ others, (e.1, e.2.1) ∈ (name, number) :: rest := fun e he =>
      List.mem_cons_of_mem _ (ih hothers e he)
    cases h
    cases reason with
    | none => exact hrest
    | some reason =>
      intro e he
      rcases List.mem_cons.1 he with rfl | he
      · exact List.mem_cons_self
      · exact hrest e he

/-- A session that begins has a number that no session had; the roster does not know of it. -/
theorem begin_spec (name command : String) (r : Request) (w : World σ τ) :
    (∃ number captured w', (p.alone.begin name command r).runFrom w =
        (.ok (number, captured), w') ∧
      w'.roster = w.roster ∧ w.seats.size ≤ number ∧ number < w'.seats.size) ∨
    ∃ f w', (p.alone.begin name command r).runFrom w = (.error f, w') ∧ w.Untouched w' := by
  rw [begin, runFrom_bind]
  rcases p.alone.openSession_spec (p.alone.opening name command r.rows r.columns) w with
    ⟨number, w₁, hopen, hroster, hle, hlt⟩ | ⟨f, w₁, hopen, hw⟩
  · have hread := p.withHost_untouched (fun h hh => hh.readInitial) number w₁
    simp only [hopen, runFrom_bind, runFrom_attempt]
    cases hr : (p.alone.withHost number Host.readInitial).runFrom w₁ with
    | mk r w₂ =>
      rw [hr] at hread
      cases r with
      | ok captured =>
        exact .inl ⟨number, captured, w₂, rfl, hread.1.trans hroster, hle,
          Nat.lt_of_lt_of_le hlt hread.2⟩
      | error f =>
        have hclose := p.closeQuietly_untouched number s!"session {name}" w₂
        simp only [runFrom_bind]
        cases hr : (p.alone.closeQuietly number s!"session {name}").runFrom w₂ with
        | mk r w₃ =>
          rw [hr] at hclose
          have hw : w.Untouched w₃ := trans_of _ ⟨hroster, by omega⟩ (trans_of _ hread hclose)
          cases r with
          | ok _ => exact .inr ⟨f, w₃, rfl, hw⟩
          | error g => exact .inr ⟨g, w₃, rfl, hw⟩
  · rw [hopen]
    exact .inr ⟨f, w₁, rfl, hw⟩

end Pool

end Teletype
