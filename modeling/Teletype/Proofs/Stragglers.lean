import Teletype.Proofs.Room

/-!
# Sessions that outlive a shutdown

A shutdown takes all sessions off the roster at once and closes them. A session that is being
started at that moment is not on the roster yet. It is registered afterwards, and nobody closes it:
the file ends with such a run.

What stands on the roster at the end of a run was registered at some move, and was not taken off by
any later one (`mem_entries_run`). So a shutdown reaches the sessions of the calls that began before
it returned exactly if every one that is registered after the roster was emptied is taken off again,
or dead (`shutdown_covers_iff`). It does if nobody is about to start a session while it shuts down.
-/

namespace Teletype

/-- A call that is about to register a session is about to do nothing else to the roster. -/
theorem Call.only_opened {c : Call} {e : String × Nat} (h : c.opened = some e) :
    c.toDrop = none ∧ c ≠ .shutdown := by
  cases c with
  | started name number captured => exact ⟨rfl, by rintro ⟨⟩⟩
  | _ => cases h

namespace Roster

/-- A session that is put under a name takes the place of the one that stood there. -/
theorem mem_put_iff {name : String} {number : Nat} {entries : List (String × Nat)}
    (h : (entries.map (·.1)).Nodup) {e : String × Nat} :
    e ∈ put name number entries ↔ e = (name, number) ∨ e ∈ entries ∧ e.1 ≠ name := by
  induction entries with
  | nil => simp [put]
  | cons first rest ih =>
    obtain ⟨n, s⟩ := first
    rw [List.map_cons, List.nodup_cons] at h
    rw [put]
    split
    · rename_i hn
      subst hn
      have hrest : e ∈ rest → e.1 ≠ n := by
        rintro he rfl
        exact h.1 (List.mem_map.2 ⟨e, he, rfl⟩)
      simp only [List.mem_cons]
      grind
    · simp only [List.mem_cons, ih h.2]
      grind

end Roster

/-- Nothing comes on the roster or goes off it, unless a session is registered, a name is dropped, or
the roster is emptied. -/
theorem Effect.entries_eq {σ τ : Type} {c c' : Call} {w w' : World σ τ}
    (h : Effect (c, w) (c', w')) (hopened : c.opened = none) (hdrop : c.toDrop = none)
    (hshut : c ≠ .shutdown) : w'.roster.entries = w.roster.entries := by
  cases h with
  | quiet hw => rw [hw.1]
  | found hw => rw [hw.1]
  | opened hroster => rw [hroster]
  | reserved hroster =>
    rw [hroster]
    exact Roster.entries_nameFor _ _
  | gaveBack => rfl
  | registered => cases hopened
  | dropped hdrops =>
    rw [hdrop] at hdrops
    cases hdrops
  | cleared => exact absurd rfl hshut

namespace Overlap

variable {σ ρ τ : Type}

/-- A move registers a session for a call. -/
def Enrols (i : Nat) (e : String × Nat) (o : Overlap σ τ) (m : Move σ τ) : Prop :=
  m = .step i ∧ (o.call i).opened = some e

/-- A move takes off the roster what stands there under a name: it drops the name, registers another
session under it, or empties the roster. -/
def TakesOff (name : String) (o : Overlap σ τ) (m : Move σ τ) : Prop :=
  ∃ i, m = .step i ∧ ((∃ number, (o.call i).toDrop = some (name, number)) ∨
    (∃ number, (o.call i).opened = some (name, number)) ∨ o.call i = .shutdown)

theorem exists_enrols_step_iff {i : Nat} {e : String × Nat} {o : Overlap σ τ} :
    (∃ j, Enrols j e o (.step i)) ↔ (o.call i).opened = some e := by
  constructor
  · rintro ⟨j, ⟨⟩, hopened⟩
    exact hopened
  · exact fun hopened => ⟨i, rfl, hopened⟩

theorem takesOff_step_iff {i : Nat} {name : String} {o : Overlap σ τ} :
    TakesOff name o (.step i) ↔ (∃ number, (o.call i).toDrop = some (name, number)) ∨
      (∃ number, (o.call i).opened = some (name, number)) ∨ o.call i = .shutdown := by
  constructor
  · rintro ⟨j, ⟨⟩, h⟩
    exact h
  · exact fun h => ⟨i, rfl, h⟩

/-- A call is not about to start a session, and has none to register. -/
def Idle (i : Nat) (o : Overlap σ τ) : Prop :=
  (o.call i).held = none ∧ ∀ r, o.call i ≠ .spawn r

theorem Idle.not_enrols {i : Nat} {e : String × Nat} {o : Overlap σ τ} (h : Idle i o) (m : Move σ τ) :
    ¬Enrols i e o m := by
  rintro ⟨-, hopened⟩
  cases (Call.held_of_opened hopened).symm.trans h.1

/-- No name is registered twice, and the sessions that are about to be registered have numbers of
their own. -/
structure Numbered (o : Overlap σ τ) : Prop where
  nodup : o.world.roster.names.Nodup
  opened_lt : ∀ i e, (o.call i).opened = some e → e.2 < o.world.seats.size
  distinct : ∀ i j e f, (o.call i).opened = some e → (o.call j).opened = some f → e.2 = f.2 → i = j

theorem numbered_start (system : σ) : (start system : Overlap σ τ).Numbered where
  nodup := List.nodup_nil
  opened_lt := by rintro i e ⟨⟩
  distinct := by rintro i j e f ⟨⟩

variable [TimeScale τ] {p : Pool σ ρ τ}

theorem Numbered.move {o : Overlap σ τ} (ho : o.Numbered) (m : Move σ τ) :
    (Overlap.move p o m).Numbered := by
  obtain ⟨i, heffect, hothers, -⟩ := exists_effect p o m
  obtain ⟨hsize, -, hopened, -, hnodup⟩ := heffect.numbers
  have hother : ∀ {j e}, j ≠ i → ((Overlap.move p o m).call j).opened = some e →
      (o.call j).opened = some e := fun hj he => by rwa [hothers _ hj] at he
  refine ⟨hnodup ho.nodup, fun j e he => ?_, fun j k e f he hf heq => ?_⟩
  · by_cases hj : j = i
    · exact (hopened e (hj ▸ he)).2
    · exact Nat.lt_of_lt_of_le (ho.opened_lt j e (hother hj he)) hsize
  · -- a session that the move opens has a number that none had
    by_cases hj : j = i
    · by_cases hk : k = i
      · rw [hj, hk]
      · have hnew := (hopened e (hj ▸ he)).1
        have hold := ho.opened_lt k f (hother hk hf)
        omega
    · by_cases hk : k = i
      · have hnew := (hopened f (hk ▸ hf)).1
        have hold := ho.opened_lt j e (hother hj he)
        omega
      · exact ho.distinct j k e f (hother hj he) (hother hk hf) heq

/-- The step that registers a session puts it in the place of the one under its name. -/
theorem roster_of_opened {o : Overlap σ τ} {i : Nat} {name : String} {number : Nat}
    (h : (o.call i).opened = some (name, number)) :
    (move p o (.step i)).world.roster = o.world.roster.register name number := by
  rw [move]
  cases hc : o.call i with
  | started n k captured =>
    rw [hc] at h
    cases h
    rfl
  | _ => rw [hc] at h; cases h

/-- The step that empties the roster leaves nothing on it. -/
theorem entries_of_shutdown {o : Overlap σ τ} {i : Nat} (h : o.call i = .shutdown) :
    (move p o (.step i)).world.roster.entries = [] := by
  rw [move, h]
  rfl

/-- **What stands on the roster after a move** was registered by it, or stood there before and was
not taken off. -/
theorem Numbered.mem_entries_move {o : Overlap σ τ} (ho : o.Numbered) (m : Move σ τ)
    (e : String × Nat) :
    e ∈ (Overlap.move p o m).world.roster.entries ↔
      (∃ i, Enrols i e o m) ∨ e ∈ o.world.roster.entries ∧ ¬TakesOff e.1 o m := by
  -- a move that is no step of a call has nothing to do with the roster
  have hidle : (∀ i, m ≠ .step i) →
      ((Overlap.move p o m).world.roster.entries = o.world.roster.entries) →
      (e ∈ (Overlap.move p o m).world.roster.entries ↔
        (∃ i, Enrols i e o m) ∨ e ∈ o.world.roster.entries ∧ ¬TakesOff e.1 o m) := by
    intro hm heq
    rw [heq]
    constructor
    · exact fun he => .inr ⟨he, fun ⟨i, hstep, _⟩ => hm i hstep⟩
    · rintro (⟨i, hstep, -⟩ | ⟨he, -⟩)
      · exact absurd hstep (hm i)
      · exact he
  cases m with
  | order order => exact hidle (by rintro i ⟨⟩) rfl
  | around system seat => exact hidle (by rintro i ⟨⟩) rfl
  | step i =>
    rw [exists_enrols_step_iff, takesOff_step_iff]
    cases hopened : (o.call i).opened with
    | some f =>
      obtain ⟨name, number⟩ := f
      obtain ⟨hdrop, hshut⟩ := Call.only_opened hopened
      rw [roster_of_opened hopened, Roster.register, Roster.mem_put_iff ho.nodup, hdrop]
      simp only [Option.some.injEq, reduceCtorEq, exists_false, false_or, hshut, or_false]
      grind
    | none =>
      cases hdrop : (o.call i).toDrop with
      | some f =>
        obtain ⟨name, number⟩ := f
        have hshut : o.call i ≠ .shutdown := by
          intro hshut
          rw [hshut] at hdrop
          cases hdrop
        rw [entries_of_toDrop hdrop]
        simp only [Option.some.injEq, reduceCtorEq, exists_false, false_or, hshut, or_false]
        grind
      | none =>
        by_cases hshut : o.call i = .shutdown
        · simp [entries_of_shutdown hshut, hshut]
        · rw [(effect_step p o i).entries_eq hopened hdrop hshut]
          simp [hshut]

/-! ## Runs -/

variable (p)

/-- Some move is one of which `P` holds where it is made, with the moves that come after it. -/
def Sometime (P : Overlap σ τ → Move σ τ → List (Move σ τ) → Prop) :
    Overlap σ τ → List (Move σ τ) → Prop
  | _, [] => False
  | o, m :: ms => P o m ms ∨ Sometime P (move p o m) ms

/-- In the course of moves a session is registered for a call. -/
def Registers (i : Nat) (e : String × Nat) : Overlap σ τ → List (Move σ τ) → Prop :=
  Sometime p fun o m _ => Enrols i e o m

/-- In the course of moves a session is registered for a call, and is not taken off the roster after
that. -/
def Leaves (i : Nat) (e : String × Nat) : Overlap σ τ → List (Move σ τ) → Prop :=
  Sometime p fun o m ms =>
    Enrols i e o m ∧ Along p (fun o m => ¬TakesOff e.1 o m) (move p o m) ms

variable {p} {e : String × Nat} {ms : List (Move σ τ)}

theorem Leaves.registers {i : Nat} {o : Overlap σ τ} (h : Leaves p i e o ms) :
    Registers p i e o ms := by
  induction ms generalizing o with
  | nil => exact h
  | cons m ms ih => exact h.imp (fun h => h.1) ih

theorem registers_append {i : Nat} {o : Overlap σ τ} {ms' : List (Move σ τ)} :
    Registers p i e o (ms ++ ms') ↔ Registers p i e o ms ∨ Registers p i e (run p o ms) ms' := by
  induction ms generalizing o with
  | nil => exact ⟨.inr, fun h => h.resolve_left id⟩
  | cons m ms ih =>
    have hrest : Registers p i e (move p o m) (ms ++ ms') ↔ _ := ih
    have hcons : ∀ ms, Registers p i e o (m :: ms) ↔
        Enrols i e o m ∨ Registers p i e (move p o m) ms := fun ms => Iff.rfl
    rw [List.cons_append, hcons, hcons, hrest, or_assoc]
    rfl

/-- **What stands on the roster after a run** stood there before and was never taken off, or was
registered on the way and not taken off after that. -/
theorem Numbered.mem_entries_run {o : Overlap σ τ} (ho : o.Numbered) :
    e ∈ (run p o ms).world.roster.entries ↔
      e ∈ o.world.roster.entries ∧ Along p (fun o m => ¬TakesOff e.1 o m) o ms ∨
        ∃ i, Leaves p i e o ms := by
  induction ms generalizing o with
  | nil =>
    refine ⟨fun he => .inl ⟨he, trivial⟩, ?_⟩
    rintro (⟨he, -⟩ | ⟨i, h⟩)
    · exact he
    · cases h
  | cons m ms ih =>
    have hrun : (run p o (m :: ms)) = run p (Overlap.move p o m) ms := rfl
    rw [hrun, ih (ho.move m), ho.mem_entries_move m]
    constructor
    · rintro (⟨⟨i, henrols⟩ | ⟨he, hspared⟩, hrest⟩ | ⟨i, h⟩)
      · exact .inr ⟨i, .inl ⟨henrols, hrest⟩⟩
      · exact .inl ⟨he, hspared, hrest⟩
      · exact .inr ⟨i, .inr h⟩
    · rintro (⟨he, hspared, hrest⟩ | ⟨i, ⟨henrols, hrest⟩ | h⟩)
      · exact .inl ⟨.inr ⟨he, hspared⟩, hrest⟩
      · exact .inl ⟨.inl ⟨i, henrols⟩, hrest⟩
      · exact .inr ⟨i, h⟩

/-! ## Numbers that are not used again -/

/-- A number was given to a session, and no call is about to register that one. -/
def Spent (number : Nat) (o : Overlap σ τ) : Prop :=
  number < o.world.seats.size ∧ ∀ j f, (o.call j).opened = some f → f.2 ≠ number

theorem Spent.move {number : Nat} {o : Overlap σ τ} (h : Spent number o) (m : Move σ τ) :
    Spent number (Overlap.move p o m) := by
  obtain ⟨hsize, -, hopened, -⟩ := move_numbers p o m
  refine ⟨Nat.lt_of_lt_of_le h.1 hsize, fun j f hf => ?_⟩
  rcases hopened j f hf with hold | ⟨hnew, -⟩
  · exact h.2 j f hold
  · have := h.1
    omega

/-- The number of a session is spent when the session is registered. -/
theorem Numbered.spent {o : Overlap σ τ} (ho : o.Numbered) {i : Nat} {m : Move σ τ}
    (h : Enrols i e o m) : Spent e.2 (Overlap.move p o m) := by
  obtain ⟨rfl, hopened⟩ := h
  obtain ⟨hsize, -, hnew, -⟩ := (effect_step p o i).numbers
  have hlt := ho.opened_lt i e hopened
  refine ⟨Nat.lt_of_lt_of_le hlt hsize, fun j f hf => ?_⟩
  by_cases hj : j = i
  · have := (hnew f (hj ▸ hf)).1
    omega
  · rw [call_move_step_of_ne hj] at hf
    exact fun heq => hj (ho.distinct j i f e hf hopened heq)

theorem Spent.not_registers {o : Overlap σ τ} (h : Spent e.2 o) (j : Nat) :
    ¬Registers p j e o ms := by
  induction ms generalizing o with
  | nil => exact id
  | cons m ms ih =>
    rintro (⟨-, hopened⟩ | hrest)
    · exact h.2 j e hopened rfl
    · exact ih (h.move m) hrest

/-- **A session is registered for one call only.** -/
theorem Numbered.eq_of_registers {o : Overlap σ τ} (ho : o.Numbered) {i j : Nat}
    (hi : Registers p i e o ms) (hj : Registers p j e o ms) : i = j := by
  -- the number is spent by the first of the two, so the other one comes too late
  induction ms generalizing o with
  | nil => cases hi
  | cons m ms ih =>
    rcases hi with hi | hi
    · rcases hj with hj | hj
      · exact Move.step.inj (hi.1.symm.trans hj.1)
      · exact absurd hj ((ho.spent hi).not_registers j)
    · rcases hj with hj | hj
      · exact absurd hi ((ho.spent hj).not_registers i)
      · exact ih (ho.move m) hi hj

/-! ## Calls that start nothing -/

/-- A call starts nothing unless it was ordered to. -/
theorem Idle.move {i : Nat} {o : Overlap σ τ} (h : Idle i o) {m : Move σ τ}
    (hm : i < o.calls.length ∨ ∀ r, m ≠ .order (.spawn r)) : Idle i (Overlap.move p o m) := by
  constructor
  · obtain ⟨j, heffect, hothers, -⟩ := exists_effect p o m
    by_cases hij : i = j
    · subst hij
      rcases heffect.reservations with ⟨hheld, -⟩ | ⟨r, hspawn, -⟩ | ⟨name, hname, -⟩
      · rw [hheld, h.1]
      · exact absurd hspawn (h.2 r)
      · rw [h.1] at hname
        cases hname
    · rw [hothers i hij, h.1]
  · intro r hr
    rcases spawn_of_move hr with hold | rfl
    · exact h.2 r hold
    · rcases hm with hlt | hm
      · rw [call_move_order_of_ne (Nat.ne_of_lt hlt)] at hr
        exact h.2 r hr
      · exact hm r rfl

theorem length_calls_move (o : Overlap σ τ) (m : Move σ τ) :
    o.calls.length ≤ (move p o m).calls.length := by
  cases m with
  | order order => simp [move]
  | step i => simp [move]
  | around system seat => exact Nat.le_refl _

/-- A call that was made and starts nothing never registers a session. -/
theorem Idle.not_registers {i : Nat} {o : Overlap σ τ} (h : Idle i o) (hlt : i < o.calls.length) :
    ¬Registers p i e o ms := by
  induction ms generalizing o with
  | nil => exact id
  | cons m ms ih =>
    rintro (henrols | hrest)
    · exact h.not_enrols m henrols
    · exact ih (h.move (.inl hlt)) (Nat.lt_of_lt_of_le hlt (length_calls_move o m)) hrest

/-- While nobody orders a session, nobody starts one or registers one. -/
theorem idle_run {o : Overlap σ τ} (h : ∀ i, Idle i o) (hms : ∀ r, .order (.spawn r) ∉ ms) :
    (∀ i, Idle i (run p o ms)) ∧ ∀ i, ¬Registers p i e o ms := by
  induction ms generalizing o with
  | nil => exact ⟨h, fun i => id⟩
  | cons m ms ih =>
    have hm : ∀ r, m ≠ .order (.spawn r) := by
      rintro r rfl
      exact hms r List.mem_cons_self
    obtain ⟨hidle, hnone⟩ := ih (fun i => (h i).move (.inr hm))
      (fun r hr => hms r (List.mem_cons_of_mem _ hr))
    refine ⟨hidle, fun i => ?_⟩
    rintro (henrols | hrest)
    · exact (h i).not_enrols m henrols
    · exact hnone i hrest

/-! ## Shutdowns -/

theorem numbered_run {o : Overlap σ τ} (ho : o.Numbered) : (run p o ms).Numbered := by
  induction ms generalizing o with
  | nil => exact ho
  | cons m ms ih => exact ih (ho.move m)

variable (p)

/-- **What a shutdown reaches.** A shutdown empties the roster, and some calls have begun when it
returns. After any moves that follow, the sessions that were registered for those calls are dead or
off the roster, if and only if those are dead that were registered for them after the roster was
emptied and not taken off since. So it is if no call was about to start a session when the roster
was emptied and none was ordered to before the shutdown returned. -/
theorem shutdown_covers_iff (alive : σ → Nat → Bool) (system : σ)
    {before : List (Move σ τ)} (middle after : List (Move σ τ)) {k : Nat}
    (hshut : (run p (start system) before).call k = .shutdown) :
    let emptied := run p (start system) (before ++ [.step k])
    let returned := run p emptied middle
    let final := run p returned after
    let covers := ∀ i < returned.calls.length, ∀ e,
      Registers p i e (start system) (before ++ .step k :: (middle ++ after)) →
      e ∈ final.world.roster.entries → final.world.lives alive e.2 = false
    (covers ↔ ∀ i < returned.calls.length, ∀ e, Leaves p i e emptied (middle ++ after) →
      final.world.lives alive e.2 = false) ∧
    ((∀ i, Idle i (run p (start system) before)) → (∀ r, .order (.spawn r) ∉ middle) → covers) := by
  intro emptied returned final covers
  have hnumbered : emptied.Numbered := numbered_run (numbered_start system)
  have hemptied : emptied = Overlap.move p (run p (start system) before) (.step k) :=
    run_append p _ before [.step k]
  have hempty : emptied.world.roster.entries = [] := by
    rw [hemptied, entries_of_shutdown hshut]
  have hmoves : before ++ .step k :: (middle ++ after) =
      (before ++ [.step k]) ++ (middle ++ after) := by simp
  have hlate : ∀ {i e}, Registers p i e emptied (middle ++ after) →
      Registers p i e (start system) (before ++ .step k :: (middle ++ after)) := fun h => by
    rw [hmoves]
    exact registers_append.2 (.inr h)
  -- what is on the roster at the end came there after it was emptied
  have hfinal : ∀ e, e ∈ final.world.roster.entries ↔ ∃ i, Leaves p i e emptied (middle ++ after) := by
    intro e
    have hmem : e ∈ (run p emptied (middle ++ after)).world.roster.entries ↔ _ :=
      hnumbered.mem_entries_run
    rw [run_append] at hmem
    rw [hmem, hempty]
    simp
  have hiff : covers ↔ ∀ i < returned.calls.length, ∀ e, Leaves p i e emptied (middle ++ after) →
      final.world.lives alive e.2 = false := by
    constructor
    · exact fun h i hi e hleaves => h i hi e (hlate hleaves.registers) ((hfinal e).2 ⟨i, hleaves⟩)
    · intro h i hi e hregisters he
      obtain ⟨j, hleaves⟩ := (hfinal e).1 he
      obtain rfl : i = j := (numbered_start system).eq_of_registers hregisters
        (hlate hleaves.registers)
      exact h i hi e hleaves
  refine ⟨hiff, fun hidle hnone => hiff.2 fun i hi e hleaves => ?_⟩
  -- nobody registers a session before the shutdown returns, nor do those calls later
  have hidle' : ∀ j, Idle j emptied := by
    rw [hemptied]
    exact fun j => (hidle j).move (.inr (by rintro r ⟨⟩))
  obtain ⟨hreturned, hmiddle⟩ := idle_run (p := p) (e := e) hidle' hnone
  rcases registers_append.1 hleaves.registers with h | h
  · exact absurd h (hmiddle i)
  · exact absurd h ((hreturned i).not_registers hi)

/-- A session is started, and then the pool is shut down. -/
def startAndShutDown : List (Move Unit Unit) :=
  [spawnNamed "a", .step 0, .step 0, .step 0, .step 0, .order .shutdown]

/-- The sessions that were on the roster are closed, and the shutdown returns. -/
def returning : List (Move Unit Unit) :=
  [.step 1, .step 1]

/-- The pool is reaped. -/
def reaping : List (Move Unit Unit) :=
  [.order .reap, .step 2]

/-- A session that was registered before the shutdown is off the roster after it. -/
theorem shutdown_covers_startAndShutDown :
    let emptied := run Pool.silent (start ()) (startAndShutDown ++ [Move.step 1])
    let final := run Pool.silent (run Pool.silent emptied returning) reaping
    (run Pool.silent (start ()) startAndShutDown).call 1 = .shutdown ∧
      ∀ i < 2, ∀ e, Registers Pool.silent i e (start ())
          (startAndShutDown ++ Move.step 1 :: (returning ++ reaping)) →
        e ∈ final.world.roster.entries → final.world.lives (fun _ _ => true) e.2 = false := by
  have hshut : (run Pool.silent (start ()) startAndShutDown).call 1 = .shutdown := by cbv
  have hcalls : (run Pool.silent (start ()) startAndShutDown).calls =
      [.done (.ok (.spawned "a" ⟨[], [], 0, false⟩)), .shutdown] := by cbv
  have hidle : ∀ i, Idle i (run Pool.silent (start ()) startAndShutDown) := by
    intro i
    rw [Idle, call, hcalls]
    rcases i with _ | _ | i
    · exact ⟨rfl, by rintro r ⟨⟩⟩
    · exact ⟨rfl, by rintro r ⟨⟩⟩
    · exact ⟨rfl, by rintro r ⟨⟩⟩
  have hnone : ∀ r, .order (.spawn r) ∉ returning := by simp [returning]
  have hlength : (run Pool.silent (run Pool.silent (start ()) (startAndShutDown ++ [Move.step 1]))
      returning).calls.length = 2 := by cbv
  have hcovers := (shutdown_covers_iff Pool.silent (fun _ _ => true) () returning reaping hshut).2
    hidle hnone
  exact ⟨hshut, fun i hi => hcovers i (by rw [hlength]; exact hi)⟩

/-- A pool is shut down while a session is started. -/
def shutDownMeanwhile : List (Move Unit Unit) :=
  [spawnNamed "a", .step 0, .order .shutdown, .step 1, .step 1, .step 0, .step 0, .step 0]

/-- **A shutdown misses a session that is being started.** When it returns, the session is not
registered. When both calls are done, it is registered and alive. -/
theorem missed_by_shutdown :
    let returned := run Pool.silent (start ()) (shutDownMeanwhile.take 5)
    let final := run Pool.silent (start ()) shutDownMeanwhile
    returned.call 1 = .done (.ok .shutDown) ∧
      (∀ i < returned.calls.length, ∃ reply, final.call i = .done reply) ∧
      ¬∀ i < returned.calls.length, ∀ e, Registers Pool.silent i e (start ()) shutDownMeanwhile →
        e ∈ final.world.roster.entries →
        ((Pool.silent.isAlive e.2).runFrom final.world).1 = .ok false := by
  have hlength : (run Pool.silent (start ()) (shutDownMeanwhile.take 5)).calls.length = 2 := by cbv
  have hentries : (run Pool.silent (start ()) shutDownMeanwhile).world.roster.entries =
      [("a", 0)] := by cbv
  have halive : ((Pool.silent.isAlive 0).runFrom
      (run Pool.silent (start ()) shutDownMeanwhile).world).1 = .ok true := by cbv
  have hregisters : Registers Pool.silent 0 ("a", 0) (start ()) shutDownMeanwhile :=
    -- the seventh move registers the session
    .inr (.inr (.inr (.inr (.inr (.inr (.inl ⟨rfl, by cbv⟩))))))
  refine ⟨by cbv, ?_, fun h => ?_⟩
  · rw [hlength]
    intro i hi
    interval_cases i
    · exact ⟨.ok (.spawned "a" ⟨[], [], 0, false⟩), by cbv⟩
    · exact ⟨.ok .shutDown, by cbv⟩
  · have := h 0 (by rw [hlength]; decide) ("a", 0) hregisters (hentries ▸ List.mem_singleton_self _)
    rw [halive] at this
    cases this

end Overlap

end Teletype
