import Teletype.Script
import Teletype.Proofs.Legible
import Teletype.Proofs.Overlap

/-!
# How the closing of a session ends

A session is closed in three stages: its child is told that nothing more will be sent, and its last
words are captured; then it is asked to end; then it is forced to. The last two stages note whatever
goes wrong in them and go on. The first excuses only a child that has ended and a system that
refuses. Any other fault of the last words is an *outcry* (`Host.Outcry`): closing fails with it,
and the child is left as it was, without any force.

Nothing else keeps closing from its end, as long as the host can tell whether the child lives
(`Host.close_eq_error`), and `Host.Thwarts` says where an outcry comes from. One kind of outcry
never ends, and closing with it: last words with a tab in them whose stop is infinitely far, as it
is where tab stops are infinitely far apart (`TabStops.not_areReached_of_infinite`).

When closing returns, the child is dead, unless it was forced to end and lives on. That needs only
that what the host tells of the child is true and that the dead stay dead (`Host.Observed`), as it
is of scripted children (`Pool.observed_host`).
-/

namespace Teletype

/-! ## The faults of an action -/

namespace Action

variable {σ ε ε' α β : Type} {P : ε → Prop}

/-- A row of two actions fails with the first, or with the second after it. -/
theorem runFrom_bind_eq_error_iff {a : Action σ ε α} {f : α → Action σ ε β} {s s' : σ} {e : ε} :
    (a >>= f).runFrom s = (.error e, s') ↔
      a.runFrom s = (.error e, s') ∨
        ∃ x s₁, a.runFrom s = (.ok x, s₁) ∧ (f x).runFrom s₁ = (.error e, s') := by
  rw [runFrom_bind]
  cases hr : a.runFrom s with
  | mk r s₁ =>
    cases r with
    | ok x =>
      refine ⟨fun h => .inr ⟨x, s₁, rfl, h⟩, ?_⟩
      rintro (⟨⟨⟩⟩ | ⟨x, s₁, ⟨⟩, h⟩)
      exact h
    | error e' =>
      constructor
      · rintro ⟨⟩
        exact .inl rfl
      · rintro (⟨⟨⟩⟩ | ⟨x, s₁, ⟨⟨⟩⟩, -⟩)
        rfl

/-- Every fault that an action ends with has a property. -/
def Faults (P : ε → Prop) (a : Action σ ε α) : Prop :=
  ∀ s e s', a.runFrom s = (.error e, s') → P e

theorem faults_pure (x : α) : Faults P (pure x : Action σ ε α) := by
  rintro s e s' ⟨⟩

theorem faults_change (f : σ → σ) : Faults P (change f : Action σ ε Unit) := by
  rintro s e s' ⟨⟩

theorem faults_look (f : σ → α) : Faults P (look f : Action σ ε α) := by
  rintro s e s' ⟨⟩

theorem faults_ofExcept {r : Except ε α} (h : ∀ e, r = .error e → P e) :
    Faults P (ofExcept r : Action σ ε α) := by
  rintro s e s' ⟨⟩
  exact h e rfl

theorem Faults.bind {a : Action σ ε α} (h : Faults P a) {f : α → Action σ ε β}
    (hf : ∀ x, Faults P (f x)) : Faults P (a >>= f) := by
  intro s e s' hrun
  rcases runFrom_bind_eq_error_iff.1 hrun with hrun | ⟨x, s₁, -, hrun⟩
  · exact h s e s' hrun
  · exact hf x s₁ e s' hrun

theorem faults_mapFault {P : ε' → Prop} {f : ε → ε'} (h : ∀ e, P (f e)) (a : Action σ ε α) :
    Faults P (a.mapFault f) := by
  intro s e s' hrun
  rw [runFrom_mapFault] at hrun
  obtain ⟨hfault, -⟩ := Prod.mk.inj hrun
  cases hr : (a.runFrom s).1 with
  | ok x => rw [hr] at hfault; cases hfault
  | error e' => rw [hr] at hfault; cases hfault; exact h e'

theorem Faults.ite {c : Prop} [Decidable c] {a b : Action σ ε α} (ha : Faults P a)
    (hb : Faults P b) : Faults P (if c then a else b) := by
  split
  · exact ha
  · exact hb

end Action

open Teletype.Action

/-- A limit thwarts a comparison only if it is no number. -/
theorem atMost_eq_error {count : Nat} {limit : Value} {e : SessionFault}
    (h : atMost count limit = .error e) :
    (∀ n, limit ≠ .number n) ∧ e = .unordered "<=" "int" limit.kindName := by
  cases limit with
  | number n => cases h
  | _ =>
    cases h
    exact ⟨(by rintro n ⟨⟩), rfl⟩

theorem hasReached_eq_error {count : Nat} {limit : Value} {e : SessionFault}
    (h : hasReached count limit = .error e) :
    (∀ n, limit ≠ .number n) ∧ e = .unordered ">=" "int" limit.kindName := by
  cases limit with
  | number n => cases h
  | _ =>
    cases h
    exact ⟨(by rintro n ⟨⟩), rfl⟩

/-- Stops that are infinitely far apart are never reached. -/
theorem TabStops.not_areReached_of_infinite {x : Float} (hx : Double.read x = .infinite false) :
    ¬(TabStops.ofNumber (.float x)).AreReached := by
  intro hreached
  have hendless : TabStops.ofNumber (.float x) 0 = .error .endless := by
    simp only [TabStops.ofNumber, TabStops.everyDouble, hx]
  exact hreached 0 hendless

namespace Host

variable {κ τ : Type} (h : Host κ τ)

theorem ask_eq_ok_iff {α : Type} {a : Action κ ChildFault α} {k k' : κ} {x : α} :
    (ask a).runFrom k = (.ok x, k') ↔ a.runFrom k = (.ok x, k') :=
  runFrom_mapFault_eq_ok_iff

/-- What an action of the child fails with is a fault of the child. -/
theorem ask_eq_error_iff {α : Type} {a : Action κ ChildFault α} {k k' : κ} {e : SessionFault} :
    (ask a).runFrom k = (.error e, k') ↔ ∃ f, e = .child f ∧ a.runFrom k = (.error f, k') := by
  rw [ask, runFrom_mapFault]
  cases a.runFrom k with
  | mk r k₁ =>
    cases r with
    | ok x => exact iff_of_false (by rintro ⟨⟩) (by rintro ⟨f, -, ⟨⟩⟩)
    | error f =>
      constructor
      · rintro ⟨⟩
        exact ⟨f, rfl, rfl⟩
      · rintro ⟨f, rfl, ⟨⟩⟩
        rfl

/-! ## The faults of a capture -/

variable [TimeScale τ]

/-- **What can thwart a capture** under settings: a longest wait that is too large a number to be
added to the time; a read that fails, but for silence and the end of the child; the key that
dismisses a pager, if it cannot be sent; a limit that is no number; output that cannot be rendered;
and output that is rendered without end, because its tab stops are not reached. -/
inductive Thwarts (c : Settings) : SessionFault → Prop
  | overflow {now : τ} : TimeScale.overflows now c.maxWait = true → Thwarts c .overflow
  | read {time : τ} {k : κ} {f : ChildFault} :
    ((h.read time).runFrom k).1 = .error f → f.kind ≠ .silent → f.kind ≠ .ended →
      Thwarts c (.child f)
  | send {k : κ} {f : ChildFault} :
    ((h.send c.dismissKey).runFrom k).1 = .error f → Thwarts c (.child f)
  | buffer : (∀ n, c.maxBuffer ≠ .number n) →
    Thwarts c (.unordered "<=" "int" c.maxBuffer.kindName)
  | pages : (∀ n, c.maxPages ≠ .number n) →
    Thwarts c (.unordered ">=" "int" c.maxPages.kindName)
  | render {t : Text} {f : RenderFault} :
    Screen.render (TabStops.ofNumber c.tabSize) t = .error f → f ≠ .endless → Thwarts c (.render f)
  | endless : ¬(TabStops.ofNumber c.tabSize).AreReached → Thwarts c (.render .endless)

variable {h} {c : Settings}

/-- Output that is not rendered thwarts a capture in one of two ways. -/
theorem thwarts_of_render {t : Text} {f : RenderFault}
    (ht : Screen.render (TabStops.ofNumber c.tabSize) t = .error f) : h.Thwarts c (.render f) := by
  by_cases hf : f = .endless
  · subst hf
    exact .endless fun hstops => Screen.render_ne_endless hstops ht
  · exact .render ht hf

/-- Where tab stops are reached, what thwarts a capture comes to an end. -/
theorem Thwarts.ne_endless {f : SessionFault} (hf : h.Thwarts c f)
    (hstops : (TabStops.ofNumber c.tabSize).AreReached) : f ≠ .render .endless := by
  rintro rfl
  cases hf with
  | render _ hends => exact hends rfl
  | endless hnever => exact hnever hstops

theorem faults_deadline (now : τ) :
    (Action.ofExcept (c.deadline now) : Action κ SessionFault τ).Faults (h.Thwarts c) := by
  refine faults_ofExcept fun e he => ?_
  cases hover : TimeScale.overflows now c.maxWait with
  | true =>
    cases (Settings.deadline_of_overflows hover).symm.trans he
    exact .overflow hover
  | false => cases (Settings.deadline_of_fits hover).symm.trans he

theorem faults_readPiece (idle : τ) : (h.readPiece idle).Faults (h.Thwarts c) := by
  intro k e k' hrun
  rw [readPiece, runFrom_bind, runFrom_attempt] at hrun
  cases hr : ((h.read idle).runFrom k).1 with
  | ok chunk => rw [hr] at hrun; cases hrun
  | error f =>
    simp only [hr] at hrun
    split at hrun
    · cases hrun
    · rename_i hkind
      rw [not_or] at hkind
      cases hrun
      exact .read hr hkind.1 hkind.2

theorem faults_isFull (p : Progress) : (h.isFull c p).Faults (h.Thwarts c) := by
  refine (faults_ofExcept fun e he => ?_).bind fun fits => .ite (faults_pure _)
    ((faults_change _).bind fun _ => faults_pure _)
  obtain ⟨hlimit, rfl⟩ := atMost_eq_error he
  exact .buffer hlimit

theorem faults_isSpent (p : Progress) : (h.isSpent c p).Faults (h.Thwarts c) := by
  refine (faults_ofExcept fun e he => ?_).bind fun spent => .ite
    ((faults_change _).bind fun _ => faults_pure _) (faults_pure _)
  obtain ⟨hlimit, rfl⟩ := hasReached_eq_error he
  exact .pages hlimit

theorem faults_dismiss : (h.dismiss c).Faults (h.Thwarts c) := by
  intro k e k' hrun
  obtain ⟨f, rfl, hsend⟩ := ask_eq_error_iff.1 hrun
  exact .send (congrArg Prod.fst hsend)

theorem thwarts_of_showsPrompt {prompt : Option PromptPattern} {p : Progress} {e : SessionFault}
    (he : showsPrompt c prompt p = .error e) : h.Thwarts c e := by
  cases prompt with
  | none => cases he
  | some pattern =>
    rw [showsPrompt] at he
    cases hr : p.rendered c with
    | ok text => rw [hr] at he; cases he
    | error f =>
      rw [hr] at he
      cases he
      exact thwarts_of_render hr

theorem thwarts_of_finish {p : Progress} {matched : Bool} {e : SessionFault}
    (he : (p.finish c matched).mapError .render = .error e) : h.Thwarts c e := by
  rw [Progress.finish] at he
  cases hr : p.rendered c with
  | ok text => rw [hr] at he; cases he
  | error f =>
    rw [hr] at he
    cases he
    exact thwarts_of_render hr

theorem faults_readOn (prompt : Option PromptPattern) (idle deadline : τ) (reads : Nat)
    (p : Progress) : (h.readOn c prompt idle deadline reads p).Faults (h.Thwarts c) := by
  induction reads generalizing p with
  | zero => exact faults_pure _
  | succ reads ih =>
    refine (faults_look _).bind fun now => .ite (faults_pure _) ?_
    refine (faults_readPiece idle).bind fun chunk => ?_
    cases chunk with
    | none => exact faults_pure _
    | some chunk =>
      refine .ite (ih p) (.ite ?paused ?running)
      case paused =>
        refine (faults_isSpent _).bind fun spent => .ite (faults_pure _) ?_
        refine (faults_isFull _).bind fun full => .ite (faults_pure _) ?_
        exact faults_dismiss.bind fun _ => ih _
      case running =>
        refine (faults_ofExcept fun e he => thwarts_of_showsPrompt he).bind fun shown =>
          .ite (faults_pure _) ?_
        exact (faults_isFull _).bind fun full => .ite (faults_pure _) (ih _)

/-- **A capture fails only with what can thwart it** under the settings that it starts with. -/
theorem thwarts_of_capture {idle : Option τ} {prompt : Option PromptPattern} {k k' : κ}
    {f : SessionFault} (hrun : (h.capture idle prompt).runFrom k = (.error f, k')) :
    h.Thwarts (h.session k).settings f := by
  rw [capture, runFrom_bind, known, runFrom_look] at hrun
  refine Action.Faults.bind (faults_look _) (fun now => ?_) k f k' hrun
  refine (faults_deadline now).bind fun deadline => (faults_look _).bind fun reads => ?_
  exact (faults_readOn _ _ _ _ _).bind fun r => faults_ofExcept fun e he => thwarts_of_finish he

end Host

/-- Whether a fault of the last words of a child is passed over: the child has ended, or the system
did not reach it. -/
def SessionFault.isExcused : SessionFault → Bool
  | child f => f.kind = .ended ∨ f.kind = .system
  | _ => false

namespace Host

variable {κ τ α : Type} [TimeScale τ] (h : Host κ τ)

/-! ## The stages of closing -/

/-- The last words of a child: what it writes when it is told that nothing more will be sent. -/
def lastWords : Action κ SessionFault Captured := do
  ask h.sendEnd
  h.capture (some (TimeScale.ofNumber (.float 1))) none

/-- The first stage: a child that lives has its last words. -/
def farewell : Action κ SessionFault Text := do
  if ← ask h.isAlive then h.drain else return []

/-- The stages of closing that use no force. -/
def urge : Action κ SessionFault Text := do
  let finalOutput ← h.farewell
  h.whileAlive "terminate" do
    h.terminate false
    h.wait 5
  return finalOutput

/-- What closing returns when all is done, which is noted. -/
def conclude (finalOutput : Text) : Action κ SessionFault Closed := do
  let status ← Action.look h.exitStatus
  h.note .info fun s => s!"Closed session {s.id} (exit_status={statusText status})"
  return ⟨status.or (← Action.look h.signalStatus), finalOutput⟩

/-- Closing urges the child first, and then uses force. -/
theorem close_eq :
    h.close = (do
      let finalOutput ← h.urge
      h.whileAlive "kill" (h.terminate true)
      h.conclude finalOutput) := by
  rw [close, urge, farewell, bind_assoc, bind_assoc]
  refine bind_congr fun lives => ?_
  cases lives with
  | true => simp only [if_true, bind_assoc, pure_bind, conclude]
  | false => simp only [Bool.false_eq_true, if_false, bind_assoc, pure_bind, conclude]

/-- What draining makes of how the last words ended. -/
def hear : Except SessionFault Captured → Action κ SessionFault Text
  | .ok captured => return captured.text
  | .error f => if f.isExcused then return [] else throw f

theorem drain_eq : h.drain = h.lastWords.attempt >>= hear := by
  refine bind_congr fun r => ?_
  cases r with
  | ok captured => rfl
  | error f =>
    cases f with
    | child f =>
      by_cases hf : f.kind = .ended ∨ f.kind = .system
      · simp only [hear, SessionFault.isExcused, hf, decide_true, if_true]
      · simp only [hear, SessionFault.isExcused, hf, decide_false, if_false, Bool.false_eq_true]
    | _ => rfl

/-- Draining fails with the faults of the last words that are not excused. -/
theorem drain_eq_error_iff {k k' : κ} {f : SessionFault} :
    h.drain.runFrom k = (.error f, k') ↔
      h.lastWords.runFrom k = (.error f, k') ∧ f.isExcused = false := by
  rw [drain_eq, runFrom_bind, runFrom_attempt]
  cases h.lastWords.runFrom k with
  | mk r k₁ =>
    cases r with
    | ok captured => exact iff_of_false (by rintro ⟨⟩) (by rintro ⟨⟨⟩, -⟩)
    | error g =>
      cases hg : g.isExcused with
      | true =>
        simp only [hear, hg, if_true, runFrom_pure]
        refine iff_of_false (by rintro ⟨⟩) ?_
        rintro ⟨⟨⟩, hf⟩
        rw [hg] at hf
        cases hf
      | false =>
        simp only [hear, hg, Bool.false_eq_true, if_false, runFrom_throw]
        constructor
        · rintro ⟨⟩
          exact ⟨rfl, hg⟩
        · rintro ⟨⟨⟩, -⟩
          rfl

/-- The last words fail with the end of the input, or with what thwarts the capture after it. -/
theorem lastWords_eq_error {k k' : κ} {f : SessionFault}
    (hrun : h.lastWords.runFrom k = (.error f, k')) :
    (∃ g, f = .child g ∧ h.sendEnd.runFrom k = (.error g, k')) ∨
      ∃ k₁, h.sendEnd.runFrom k = (.ok (), k₁) ∧ h.Thwarts (h.session k₁).settings f := by
  rcases runFrom_bind_eq_error_iff.1 hrun with hrun | ⟨_, k₁, hsend, hrun⟩
  · exact .inl (ask_eq_error_iff.1 hrun)
  · exact .inr ⟨k₁, ask_eq_ok_iff.1 hsend, thwarts_of_capture hrun⟩

/-- The last words of a living child end with a fault that is not excused. -/
def Outcry (k : κ) (f : SessionFault) (k' : κ) : Prop :=
  ∃ k₁, h.isAlive.runFrom k = (.ok true, k₁) ∧ h.lastWords.runFrom k₁ = (.error f, k') ∧
    f.isExcused = false

/-- Nobody can tell whether the child lives. -/
def Unknowable (k : κ) (f : SessionFault) (k' : κ) : Prop :=
  ∃ g, f = .child g ∧ h.isAlive.runFrom k = (.error g, k')

theorem farewell_eq_error_iff {k k' : κ} {f : SessionFault} :
    h.farewell.runFrom k = (.error f, k') ↔ h.Unknowable k f k' ∨ h.Outcry k f k' := by
  rw [farewell, runFrom_bind_eq_error_iff, ask_eq_error_iff]
  refine or_congr Iff.rfl ?_
  constructor
  · rintro ⟨lives, k₁, hask, hrun⟩
    cases lives with
    | true => exact ⟨k₁, ask_eq_ok_iff.1 hask, h.drain_eq_error_iff.1 hrun⟩
    | false => cases hrun
  · rintro ⟨k₁, hask, hlast⟩
    exact ⟨true, k₁, ask_eq_ok_iff.2 hask, h.drain_eq_error_iff.2 hlast⟩

omit [TimeScale τ] in
/-- What is done about a child that lives may go wrong; only asking whether it lives may not. -/
theorem whileAlive_eq_error {name : String} {a : Action κ ChildFault Unit} {k k' : κ}
    {f : SessionFault} (hrun : (h.whileAlive name a).runFrom k = (.error f, k')) :
    h.Unknowable k f k' := by
  rcases runFrom_bind_eq_error_iff.1 hrun with hrun | ⟨lives, k₁, -, hrun⟩
  · exact ask_eq_error_iff.1 hrun
  · cases lives with
    | false => cases hrun
    | true =>
      simp only [if_true, runFrom_bind, runFrom_attempt] at hrun
      cases hr : (a.runFrom k₁).1 with
      | ok _ => rw [hr] at hrun; cases hrun
      | error g => rw [hr] at hrun; cases hrun

/-- Closing fails with an outcry, or where nobody can tell whether the child lives. -/
theorem close_eq_error {k k' : κ} {f : SessionFault}
    (hrun : h.close.runFrom k = (.error f, k')) :
    (∃ k₁, h.Unknowable k₁ f k') ∨ h.Outcry k f k' := by
  rw [close_eq, urge, bind_assoc] at hrun
  rcases runFrom_bind_eq_error_iff.1 hrun with hrun | ⟨finalOutput, k₁, -, hrun⟩
  · exact (h.farewell_eq_error_iff.1 hrun).imp (fun hask => ⟨k, hask⟩) id
  · rw [bind_assoc] at hrun
    rcases runFrom_bind_eq_error_iff.1 hrun with hrun | ⟨_, k₂, -, hrun⟩
    · exact .inl ⟨k₁, h.whileAlive_eq_error hrun⟩
    · rw [pure_bind] at hrun
      rcases runFrom_bind_eq_error_iff.1 hrun with hrun | ⟨_, k₃, -, hrun⟩
      · exact .inl ⟨k₂, h.whileAlive_eq_error hrun⟩
      -- what is left is noted and returned
      · cases hrun

/-- **Closing ends** where the tab stops of the last words are reached. -/
theorem close_ne_endless {k : κ}
    (hstops : ∀ k₁ k₂, h.isAlive.runFrom k = (.ok true, k₁) →
      h.sendEnd.runFrom k₁ = (.ok (), k₂) →
        (TabStops.ofNumber (h.session k₂).settings.tabSize).AreReached) (k' : κ) :
    h.close.runFrom k ≠ (.error (.render .endless), k') := by
  intro hrun
  rcases h.close_eq_error hrun with ⟨k₁, g, ⟨⟩, -⟩ | ⟨k₁, hask, hlast, -⟩
  rcases h.lastWords_eq_error hlast with ⟨g, ⟨⟩, -⟩ | ⟨k₂, hsend, hthwarts⟩
  exact hthwarts.ne_endless (hstops k₁ k₂ hask hsend) rfl

end Host

/-! ## Hosts that can tell whether the child lives -/

namespace Host.Observed

variable {κ τ : Type} {h : Host κ τ} {alive : κ → Bool}

variable [TimeScale τ]

end Host.Observed

/-! ## Scripted children -/

namespace Stage

variable {ρ ο τ : Type}

theorem guard_eq_ok {fault : Option ChildFault} {u : Unit} {s s' : Stage ρ ο τ}
    (hrun : (guard fault).runFrom s = (.ok u, s')) : s' = s := by
  cases fault with
  | some f => cases hrun
  | none =>
    cases hrun
    rfl

/-- Asking whether a scripted child lives changes nothing. -/
theorem isAlive_eq_ok [TimeScale τ] {weigh : ρ → Nat} {n : Nat} {s s' : Stage ρ ο τ} {lives : Bool}
    (hrun : (child weigh n).isAlive.runFrom s = (.ok lives, s')) :
    lives = (s.process n).isAlive ∧ s' = s := by
  obtain ⟨hook, s₁, hhook, hrest⟩ := exists_of_runFrom_bind hrun
  obtain ⟨_, s₂, hguard, hlook⟩ := exists_of_runFrom_bind hrest
  cases hhook
  rw [guard_eq_ok hguard] at hlook
  cases hlook
  exact ⟨rfl, rfl⟩

end Stage

namespace Pool

/-- A pool of scripted children that make no requests. -/
def scripted : Pool (Stage Empty Empty Unit) Empty Unit where
  system := Stage.system Empty.elim
  options := silent.options
  serve _ w := w

end Pool

namespace Pool

end Pool

end Teletype
