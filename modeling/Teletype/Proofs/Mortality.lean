import Teletype.Proofs.Closing

/-!
# The dead stay dead

In a system that is mortal, what is told of a child is true, and nothing that is done brings back a
child that has ended (`System.Mortal`). Then every step of a call only lets a pool age: no session
is lost or given another child, and none comes back to life (`Overlap.ages_move`). Scripted children
are mortal (`Stage.mortal`).
-/

namespace Teletype

open Teletype.Action

/-- No child that has ended is alive again later. -/
def NoneRevives {σ : Type} (alive : σ → Nat → Bool) (s s' : σ) : Prop :=
  ∀ n, alive s' n = true → alive s n = true

instance {σ : Type} (alive : σ → Nat → Bool) : IsPreorder σ (NoneRevives alive) where
  refl _ _ h := h
  trans _ _ _ h h' n hn := h n (h' n hn)

/-- **A system where the dead stay dead**, and which knows who lives. A child that was not started
yet counts as one that has not ended. -/
structure System.Mortal {σ ρ τ : Type} (S : System σ ρ τ) (alive : σ → Nat → Bool) : Prop where
  truthful : ∀ {n s lives s'}, (S.child n).isAlive.runFrom s = (.ok lives, s') → lives = alive s n
  launch : ∀ l, (S.launch l).Within (NoneRevives alive)
  read : ∀ n time, (S.read n time).Within (NoneRevives alive)
  send : ∀ n v, ((S.child n).send v).Within (NoneRevives alive)
  isAlive : ∀ n, (S.child n).isAlive.Within (NoneRevives alive)
  sendEnd : ∀ n, (S.child n).sendEnd.Within (NoneRevives alive)
  terminate : ∀ n force, ((S.child n).terminate force).Within (NoneRevives alive)
  wait : ∀ n seconds, ((S.child n).wait seconds).Within (NoneRevives alive)
  record : ∀ r s, NoneRevives alive s (S.record r s)

/-! ## Worlds that age -/

/-- **A world has become another one**: no child has come back to life, and every session is still
there, with the same child. -/
structure World.Ages {σ τ : Type} (alive : σ → Nat → Bool) (w w' : World σ τ) : Prop where
  noneRevives : NoneRevives alive w.system w'.system
  seats : ∀ (i : Nat) seat, w.seats[i]? = some seat →
    ∃ seat', w'.seats[i]? = some seat' ∧ seat'.process = seat.process

instance {σ τ : Type} (alive : σ → Nat → Bool) :
    IsPreorder (World σ τ) (World.Ages alive) where
  refl w := ⟨refl_of _ w.system, fun _ seat h => ⟨seat, h, rfl⟩⟩
  trans w w' w'' h h' := by
    refine ⟨trans_of _ h.noneRevives h'.noneRevives, fun i seat hseat => ?_⟩
    obtain ⟨seat', hseat', hprocess'⟩ := h.seats i seat hseat
    obtain ⟨seat'', hseat'', hprocess''⟩ := h'.seats i seat' hseat'
    exact ⟨seat'', hseat'', hprocess''.trans hprocess'⟩

namespace Pool

variable {σ ρ τ ε α : Type} {alive : σ → Nat → Bool}

theorem ages_of_seats_eq {w w' : World σ τ} (h : NoneRevives alive w.system w'.system)
    (hseats : w'.seats = w.seats) : w.Ages alive w' :=
  ⟨h, fun _ seat hseat => ⟨seat, hseats ▸ hseat, rfl⟩⟩

theorem onSystem_ages {a : Action σ ε α} (h : a.Within (NoneRevives alive)) :
    (onSystem a : Action (World σ τ) ε α).Within (World.Ages alive) :=
  fun w => ages_of_seats_eq (h w.system) rfl

variable {p : Pool σ ρ τ} (hp : p.system.Mortal alive)

include hp

theorem host_ages (number process : Nat) :
    (p.alone.host number process).Within (World.Ages alive) where
  read time := p.read_within (onSystem_ages (hp.read process time))
  send v := onSystem_ages (hp.send process v)
  isAlive := onSystem_ages (hp.isAlive process)
  sendEnd := onSystem_ages (hp.sendEnd process)
  terminate force := onSystem_ages (hp.terminate process force)
  wait seconds := onSystem_ages (hp.wait process seconds)
  update f w := by
    refine ⟨refl_of _ w.system, fun i seat hseat => ?_⟩
    simp only [host, Array.getElem?_modify, hseat]
    split
    · exact ⟨_, rfl, rfl⟩
    · exact ⟨seat, rfl, rfl⟩
  record r w := ages_of_seats_eq (hp.record r w.system) rfl

/-- All that a pool does with sessions only lets it age. -/
theorem ages : p.alone.Within (World.Ages alive) where
  host := host_ages hp
  openSession o := by
    have hlaunch : (onSystem (p.system.launch o.launch) :
        Action (World σ τ) ChildFault Nat).Within (World.Ages alive) := onSystem_ages (hp.launch _)
    have hnotice : ∀ w : World σ τ,
        w.Ages alive { w with system := p.system.record o.notice w.system } := fun w =>
      ages_of_seats_eq (hp.record _ w.system) rfl
    have hseat : ∀ (w : World σ τ) seat, w.Ages alive { w with seats := w.seats.push seat } := by
      refine fun w seat => ⟨refl_of _ w.system, fun i old hold => ⟨old, ?_, rfl⟩⟩
      rw [Array.getElem?_push, if_neg, hold]
      rintro rfl
      rw [Array.getElem?_size] at hold
      cases hold
    refine (within_look _).bind fun now => (hlaunch.mapFault _).bind fun process => ?_
    refine (within_change hnotice).bind fun _ => (within_look _).bind fun number => ?_
    exact (within_change fun w => hseat w _).bind fun _ => within_pure _
  note level text := within_change fun w => ages_of_seats_eq (hp.record _ w.system) rfl

end Pool

/-! ## Calls -/

section

variable {σ ρ τ : Type} {p : Pool σ ρ τ} {R : World σ τ → World σ τ → Prop}
  [IsPreorder (World σ τ) R]

theorem Pool.Within.reserve (hp : p.Within R)
    (hroster : ∀ (f : Roster → Roster) w, R w { w with roster := f w.roster }) (wanted : Option String) :
    (p.reserve wanted).Within R := by
  refine (within_look _).bind fun es => (hp.alive es).bind fun active =>
    (within_look _).bind fun roster => .ite (within_throw _) ?_
  cases roster.nameFor wanted with
  | mk name roster =>
    exact Within.bind (within_change fun w => hroster (fun _ => roster.reserve name) w) fun _ =>
      within_pure _

/-- A step of a call keeps within what the sessions keep within, if the roster does not matter. -/
theorem Pool.Within.step [TimeScale τ] (hp : p.Within R)
    (hroster : ∀ (f : Roster → Roster) w, R w { w with roster := f w.roster })
    (hreaping : ∀ b w, R w { w with isReaping := b }) (c : Call) : (p.step c).Within R := by
  have hchange : ∀ f : Roster → Roster, (Pool.onRoster f : Pool.Act σ τ Unit).Within R := fun f =>
    within_change (hroster f)
  have hclose : ∀ number : Nat, (p.withHost number Host.close).Within R := fun number =>
    hp.withHost (fun _ hh => hh.close) number
  cases c with
  | spawn r =>
    rw [Pool.step]
    cases r.command.filter fun command => !command.isEmpty with
    | none => exact within_throw _
    | some command => exact (hp.reserve hroster _).bind fun name => within_pure _
  | starting name command r =>
    refine (hp.begin name command r).attempt.bind fun begun => ?_
    cases begun with
    | ok begun => exact within_pure _
    | error f => exact within_pure _
  | failed name f => exact (hchange _).bind fun _ => within_throw _
  | started name number captured => exact (hchange _).bind fun _ => within_pure _
  | registered name number captured =>
    refine (hp.isAlive number).bind fun lives => .ite ?_ (within_pure _)
    exact (hp.note _ _).bind fun _ => within_pure _
  | close name => exact (hp.find name).bind fun _ => within_pure _
  | closing name number => exact (hclose number).attempt.bind fun _ => within_pure _
  | closed name number result =>
    exact (hchange _).bind fun _ => (within_ofExcept _).bind fun _ => within_pure _
  | reap => exact (within_look _).bind fun es => (hp.ripe es).bind fun _ => within_pure _
  | reaping names rest =>
    cases rest with
    | nil => exact within_pure _
    | cons first rest =>
      exact (hp.note _ _).bind fun _ => (hp.closeQuietly _ _).bind fun _ => within_pure _
  | reaped names name number rest => exact (hchange _).bind fun _ => within_pure _
  | shutdown =>
    refine (within_change fun w => hreaping false w).bind fun _ => (within_look _).bind fun es => ?_
    exact (hchange _).bind fun _ => within_pure _
  | emptying count rest =>
    cases rest with
    | nil => exact (hp.note _ _).bind fun _ => within_pure _
    | cons first rest => exact (hp.closeQuietly _ _).bind fun _ => within_pure _
  | done reply => exact within_pure _

theorem Pool.Within.advance [TimeScale τ] (hp : p.Within R)
    (hroster : ∀ (f : Roster → Roster) w, R w { w with roster := f w.roster })
    (hreaping : ∀ b w, R w { w with isReaping := b }) (x : Call × World σ τ) :
    R x.2 (p.advance x).2 := by
  have hstep := hp.step hroster hreaping x.1 x.2
  rw [Pool.advance]
  cases hr : (p.step x.1).runFrom x.2 with
  | mk r w =>
    rw [hr] at hstep
    cases r with
    | ok c => exact hstep
    | error f => exact hstep

end

namespace Overlap

variable {σ ρ τ : Type} {alive : σ → Nat → Bool}

/-- Nothing that happens around a pool brings back a child or gives a session another one. -/
def Natural (alive : σ → Nat → Bool) : Move σ τ → Prop
  | .around system seat =>
    (∀ s, NoneRevives alive s (system s)) ∧ ∀ i s, (seat i s).process = s.process
  | _ => True

/-- **Every move only lets the world age**, if what happens around the pool does. -/
theorem ages_move [TimeScale τ] {p : Pool σ ρ τ} (hp : p.system.Mortal alive) (o : Overlap σ τ)
    {m : Move σ τ} (hm : Natural alive m) : o.world.Ages alive (move p o m).world := by
  cases m with
  | order order => exact refl_of _ o.world
  | step i =>
    exact (Pool.ages hp).advance (fun _ w => Pool.ages_of_seats_eq (refl_of _ w.system) rfl)
      (fun _ w => Pool.ages_of_seats_eq (refl_of _ w.system) rfl) (o.call i, o.world)
  | around system seat =>
    refine ⟨hm.1 o.world.system, fun i s hs => ⟨seat i s, ?_, hm.2 i s⟩⟩
    simp [move, hs]

end Overlap

/-! ## Scripted children -/

theorem Process.isAlive_of_stop {ρ τ : Type} {p : Process ρ τ} {force : Bool}
    (h : (p.stop force).isAlive = true) : p.isAlive = true := by
  cases force with
  | _ =>
    simp only [Process.stop, if_true, Bool.false_eq_true, if_false] at h
    split at h
    · exact h
    · split at h
      · cases h
      · cases h

namespace Stage

variable {ρ ο τ : Type}

/-- The children of a stage that have not ended. -/
def lives (s : Stage ρ ο τ) (n : Nat) : Bool :=
  (s.process n).isAlive

/-- What is done to one child revives none, unless it revives that one. -/
theorem noneRevives_modify {f : Process ρ τ → Process ρ τ}
    (h : ∀ p, (f p).isAlive = true → p.isAlive = true) (s : Stage ρ ο τ) (n : Nat) :
    NoneRevives lives s (s.modify n f) := by
  intro m hm
  rw [lives, process, modify, Array.getElem?_modify] at hm
  rw [lives, process]
  cases hp : s.processes[m]? with
  | none => rfl
  | some q =>
    rw [hp] at hm
    split at hm
    · exact h q hm
    · exact hm

theorem noneRevives_of_processes_eq {s s' : Stage ρ ο τ} (h : s'.processes = s.processes) :
    NoneRevives lives s s' := by
  intro n hn
  rw [lives, process, h] at hn
  exact hn

theorem guard_noneRevives (fault : Option ChildFault) :
    (guard fault : Action (Stage ρ ο τ) ChildFault Unit).Within (NoneRevives lives) := by
  cases fault with
  | some f => exact within_throw _
  | none => exact within_pure _

theorem act_noneRevives (n : Nat) (e : Process ρ τ → Event) (fault : Hooks → Option ChildFault) :
    (act n e fault : Action (Stage ρ ο τ) ChildFault Unit).Within (NoneRevives lives) := by
  refine (within_look _).bind fun p => Within.bind (within_change fun s => ?_) fun _ =>
    guard_noneRevives _
  exact noneRevives_of_processes_eq rfl

variable [TimeScale τ]

theorem deliver_noneRevives (n : Nat) (timeout : τ) (rest : List (Item ρ τ)) (item : Item ρ τ)
    (s : Stage ρ ο τ) : NoneRevives lives s (deliver n timeout rest item s).2 := by
  have hqueue : ∀ (s : Stage ρ ο τ) (queue : List (Item ρ τ)),
      NoneRevives lives s (s.modify n fun p => { p with queue := queue }) := by
    intro s queue
    refine noneRevives_modify (fun p h => ?_) s n
    exact h
  have hends : ∀ (s : Stage ρ ο τ) (f : Process ρ τ → Process ρ τ),
      (∀ p, (f p).isAlive = false) → NoneRevives lives s (s.modify n f) := fun s f hf =>
    noneRevives_modify (fun p h => absurd h (by rw [hf p]; exact Bool.false_ne_true)) s n
  induction item generalizing s with
  | wait time item ih =>
    rw [deliver]
    split
    · exact hqueue s _
    · exact ih (s.advance time)
  | exit status => exact trans_of _ (hqueue s rest) (hends _ _ fun p => rfl)
  | signal signal => exact trans_of _ (hqueue s rest) (hends _ _ fun p => rfl)
  | _ => exact hqueue s rest

theorem read_noneRevives (n : Nat) (time : τ) :
    (read n time : Action (Stage ρ ο τ) ChildFault (Delivery ρ)).Within (NoneRevives lives) := by
  intro s
  rw [read, runFrom_ofRun]
  cases (s.process n).queue with
  | nil =>
    simp only
    split
    · exact noneRevives_of_processes_eq rfl
    · exact refl_of _ s
  | cons item rest => exact deliver_noneRevives n time rest item s

/-- **Scripted children are mortal.** -/
theorem mortal (weigh : ρ → Nat) :
    (system weigh : System (Stage ρ ο τ) ρ τ).Mortal lives where
  truthful hrun := (isAlive_eq_ok hrun).1
  launch l := by
    refine (within_look _).bind fun n => (within_look _).bind fun script => ?_
    refine Within.bind (within_change fun s m hm => ?_) fun _ =>
      Within.bind (within_change fun s => ?_) fun _ =>
        (guard_noneRevives _).bind fun _ => within_pure _
    · -- a child that was not started yet counts as one that lives
      rw [lives, process] at hm ⊢
      cases hp : s.processes[m]? with
      | none => rfl
      | some q =>
        have hlt : m < s.processes.size := (Array.getElem?_eq_some_iff.1 hp).1
        rw [Array.getElem?_push, if_neg (Nat.ne_of_lt hlt), hp] at hm
        exact hm
    · exact noneRevives_of_processes_eq rfl
  read := read_noneRevives
  send n v := by
    refine (act_noneRevives n _ _).bind fun _ => within_change fun s => ?_
    refine noneRevives_modify (fun p h => ?_) s n
    exact h
  isAlive n := by
    refine (within_look _).bind fun hook => (guard_noneRevives hook).bind fun _ => within_look _
  sendEnd n := by
    refine (act_noneRevives n _ _).bind fun _ => within_change fun s => ?_
    refine noneRevives_modify (fun p h => ?_) s n
    simp only at h
    split at h
    · exact h
    · cases h
  terminate n force := by
    refine (act_noneRevives n _ _).bind fun _ => within_change fun s => ?_
    refine noneRevives_modify (fun p h => ?_) s n
    exact Process.isAlive_of_stop h
  wait n seconds := act_noneRevives n _ _
  record r s := noneRevives_of_processes_eq rfl

end Stage

end Teletype
