import Teletype.Proofs.Freshness

/-!
# Names that are dropped

Closing and reaping look a session up, close it, and then drop its *name*. In between, another call
can drop the name too, and a new session can be registered under it: then the last of the drops
takes the wrong session off the roster, and nobody knows of it any more. The file ends with such a
run.

Numbers tell the sessions apart. A session that stands under a name which a call is about to drop
was started no earlier than the session that the call closed (`Tracked`), so a call drops what it
closed unless a later session stands there (`Tracked.dropsOwn_iff`). That happens only after a
session was registered under a name that another call was about to drop (`Unmixed.move`).
-/

namespace Teletype

namespace Call

theorem mem_pending_of_toDrop {c : Call} {e : String × Nat} (h : c.toDrop = some e) :
    e ∈ c.pending := by
  cases c with
  | closed name number _ => cases h; exact List.mem_cons_self
  | reaped _ name number _ => cases h; exact List.mem_cons_self
  | _ => cases h

theorem held_of_opened {c : Call} {e : String × Nat} (h : c.opened = some e) :
    c.held = some e.1 := by
  cases c with
  | started name number _ => cases h; rfl
  | _ => cases h

end Call

namespace Roster

theorem mem_put {name : String} {session : Nat} {entries : List (String × Nat)}
    {e : String × Nat} (h : e ∈ put name session entries) : e = (name, session) ∨ e ∈ entries := by
  induction entries with
  | nil => exact .inl (List.mem_singleton.1 h)
  | cons first rest ih =>
    obtain ⟨n, s⟩ := first
    rw [put] at h
    split at h
    · rename_i hn
      rcases List.mem_cons.1 h with rfl | h
      · exact .inl (by rw [hn])
      · exact .inr (List.mem_cons_of_mem _ h)
    · rcases List.mem_cons.1 h with rfl | h
      · exact .inr List.mem_cons_self
      · exact (ih h).imp_right (List.mem_cons_of_mem _)

/-- One session stands under a name. -/
theorem eq_of_mem_entries {r : Roster} (h : r.names.Nodup) {name : String} {m n : Nat}
    (hm : (name, m) ∈ r.entries) (hn : (name, n) ∈ r.entries) : m = n :=
  congrArg Prod.snd (List.inj_on_of_nodup_map h hm hn rfl)

theorem mem_entries_drop {r : Roster} {name : String} {e : String × Nat} :
    e ∈ (r.drop name).entries ↔ e ∈ r.entries ∧ e.1 ≠ name := by
  simp [drop]

/-- Whatever happens to the roster, no name is registered twice. -/
theorem nodup_register {r : Roster} (h : r.names.Nodup) (name : String) (session : Nat) :
    (r.register name session).names.Nodup := by
  rw [names_register]
  split
  · exact h
  · rename_i hname
    rw [← List.concat_eq_append]
    exact h.concat hname

end Roster

/-- **What an effect does to numbers**: no session is gone, an entry that is new was opened by the
call, what the call opens is new, and what it is going to drop it found among the entries. -/
theorem Effect.numbers {σ τ : Type} {c c' : Call} {w w' : World σ τ}
    (h : Effect (c, w) (c', w')) :
    w.seats.size ≤ w'.seats.size ∧
      (∀ e ∈ w'.roster.entries, c.opened = some e ∨ e ∈ w.roster.entries) ∧
      (∀ e, c'.opened = some e → w.seats.size ≤ e.2 ∧ e.2 < w'.seats.size) ∧
      (∀ e ∈ c'.pending, e ∈ c.pending ∨ e ∈ w.roster.entries) ∧
      (w.roster.names.Nodup → w'.roster.names.Nodup) := by
  cases h with
  | quiet hw _ _ _ hopened hpending =>
    refine ⟨hw.2, fun e he => .inr (hw.1 ▸ he), fun e he => ?_, fun e he => .inl (hpending he),
      fun h => hw.1 ▸ h⟩
    rw [hopened] at he
    cases he
  | found hw _ _ _ hopened hpending =>
    refine ⟨hw.2, fun e he => .inr (hw.1 ▸ he), fun e he => ?_, fun e he => .inr (hpending he),
      fun h => hw.1 ▸ h⟩
    rw [hopened] at he
    cases he
  | reserved hroster hsize =>
    have hentries : w'.roster.entries = w.roster.entries := by
      rw [hroster]
      exact Roster.entries_nameFor _ _
    refine ⟨hsize, fun e he => .inr (hentries ▸ he), (by rintro e ⟨⟩), (by rintro e ⟨⟩), fun h => ?_⟩
    rw [Roster.names, hentries]
    exact h
  | opened hroster hle hlt =>
    refine ⟨by omega, fun e he => .inr (hroster ▸ he), ?_, (by rintro e ⟨⟩), fun h => hroster ▸ h⟩
    rintro e ⟨⟩
    exact ⟨hle, hlt⟩
  | gaveBack =>
    exact ⟨Nat.le_refl _, fun e he => .inr he, (by rintro e ⟨⟩), (by rintro e ⟨⟩), id⟩
  | registered =>
    refine ⟨Nat.le_refl _, fun e he => ?_, (by rintro e ⟨⟩), (by rintro e ⟨⟩),
      fun h => Roster.nodup_register h _ _⟩
    exact (Roster.mem_put he).imp_left fun h => by rw [h]; rfl
  | dropped _ _ _ hopened hpending =>
    refine ⟨Nat.le_refl _, fun e he => .inr (Roster.mem_entries_drop.1 he).1, fun e he => ?_,
      fun e he => .inl (hpending ▸ List.mem_cons_of_mem _ he), fun h => ?_⟩
    · rw [hopened] at he
      cases he
    · rw [Roster.names_drop]
      exact h.filter _
  | cleared =>
    exact ⟨Nat.le_refl _, (by rintro e ⟨⟩), (by rintro e ⟨⟩), (by rintro e ⟨⟩),
      fun _ => List.nodup_nil⟩

namespace Overlap

variable {σ ρ τ : Type}

/-- The numbers of the sessions fit to where they stand: what a call is about to drop was started
before whatever is about to be registered, and no later than what is registered, under its name. -/
structure Tracked (o : Overlap σ τ) : Prop where
  orderly : o.Orderly
  nodup : o.world.roster.names.Nodup
  entry_lt : ∀ e ∈ o.world.roster.entries, e.2 < o.world.seats.size
  opened_lt : ∀ i e, (o.call i).opened = some e → e.2 < o.world.seats.size
  pending_lt : ∀ i, ∀ e ∈ (o.call i).pending, e.2 < o.world.seats.size
  pending_le_entry : ∀ i, ∀ e ∈ (o.call i).pending, ∀ n, (e.1, n) ∈ o.world.roster.entries → e.2 ≤ n
  pending_lt_opened : ∀ i, ∀ e ∈ (o.call i).pending, ∀ j n,
    (o.call j).opened = some (e.1, n) → e.2 < n

theorem tracked_start (system : σ) : (start system : Overlap σ τ).Tracked where
  orderly := orderly_start system
  nodup := List.nodup_nil
  entry_lt := by rintro e ⟨⟩
  opened_lt := by rintro i e ⟨⟩
  pending_lt := by rintro i e ⟨⟩
  pending_le_entry := by rintro i e ⟨⟩
  pending_lt_opened := by rintro i e ⟨⟩

/-- A name under which a session is about to be registered is not registered. -/
theorem Orderly.not_mem_of_opened {o : Overlap σ τ} (ho : o.Orderly) {i : Nat} {e : String × Nat}
    (h : (o.call i).opened = some e) (n : Nat) : (e.1, n) ∉ o.world.roster.entries := by
  intro hmem
  have hreserved := ho.reserved i e.1 (Call.held_of_opened h)
  exact ho.unregistered e.1 hreserved (List.mem_map.2 ⟨_, hmem, rfl⟩)

/-- A move drops a name under which a session stands that was started after the one that its call
closed. -/
def DropsLater (o : Overlap σ τ) (m : Move σ τ) : Prop :=
  ∃ i name number later, m = .step i ∧ (o.call i).toDrop = some (name, number) ∧
    (name, later) ∈ o.world.roster.entries ∧ number < later

/-- A move registers a session under a name that a call is about to drop. -/
def Crosses (o : Overlap σ τ) (m : Move σ τ) : Prop :=
  ∃ i j name number closed, m = .step i ∧ (o.call i).opened = some (name, number) ∧
    (name, closed) ∈ (o.call j).pending

theorem not_crosses_of_opened {o : Overlap σ τ} {i : Nat} (h : (o.call i).opened = none) :
    ¬Crosses o (.step i) := by
  rintro ⟨j, k, name, number, closed, hm, hopened, -⟩
  obtain rfl : i = j := Move.step.inj hm
  rw [h] at hopened
  cases hopened

theorem not_crosses_of_pending {o : Overlap σ τ} {m : Move σ τ}
    (h : ∀ c ∈ o.calls, c.pending = []) : ¬Crosses o m := by
  rintro ⟨i, j, name, number, closed, -, -, hpending⟩
  rw [call, List.getD_eq_getElem?_getD] at hpending
  cases hc : o.calls[j]? with
  | none => rw [hc] at hpending; cases hpending
  | some c =>
    have := h c (List.mem_of_getElem? hc)
    rw [hc, Option.getD_some, this] at hpending
    cases hpending

variable [TimeScale τ] {p : Pool σ ρ τ}

/-- **What a move does to numbers.** No session is gone; an entry is an old one, or the session that
the call registers whose step the move is; a session that is about to be registered was so before,
or is new; what a call is about to drop it was so before, or it is registered. -/
theorem move_numbers (p : Pool σ ρ τ) (o : Overlap σ τ) (m : Move σ τ) :
    o.world.seats.size ≤ (move p o m).world.seats.size ∧
      (∀ e ∈ (move p o m).world.roster.entries,
        e ∈ o.world.roster.entries ∨ ∃ i, m = .step i ∧ (o.call i).opened = some e) ∧
      (∀ j e, ((move p o m).call j).opened = some e → (o.call j).opened = some e ∨
        o.world.seats.size ≤ e.2 ∧ e.2 < (move p o m).world.seats.size) ∧
      (∀ j, ∀ e ∈ ((move p o m).call j).pending,
        e ∈ (o.call j).pending ∨ e ∈ o.world.roster.entries) ∧
      (o.world.roster.names.Nodup → (move p o m).world.roster.names.Nodup) := by
  obtain ⟨i, heffect, hothers, hstep⟩ := exists_effect p o m
  obtain ⟨hsize, hentries, hopened, hpending, hnodup⟩ := heffect.numbers
  refine ⟨hsize, fun e he => ?_, fun j e he => ?_, fun j e he => ?_, hnodup⟩
  · rcases hentries e he with hreg | hold
    · rcases hstep with hm | ⟨-, hdone⟩
      · exact .inr ⟨i, hm, hreg⟩
      · rw [hdone] at hreg
        cases hreg
    · exact .inl hold
  · by_cases hj : j = i
    · exact .inr (hopened e (hj ▸ he))
    · exact .inl (hothers j hj ▸ he)
  · by_cases hj : j = i
    · exact hj ▸ hpending e (hj ▸ he)
    · exact .inl (hothers j hj ▸ he)

/-- **A move keeps track of the numbers**, unless it makes up a name that is taken. -/
theorem Tracked.move {o : Overlap σ τ} (ho : o.Tracked) {m : Move σ τ}
    (h : ¬MakesUpTaken p o m) : (Overlap.move p o m).Tracked := by
  obtain ⟨hsize, hentry, hopen, hpend, hnodup⟩ := move_numbers p o m
  have horderly := ho.orderly.move h
  generalize Overlap.move p o m = o' at *
  have hpendlt : ∀ j, ∀ e ∈ (o'.call j).pending, e.2 < o.world.seats.size := by
    intro j e he
    rcases hpend j e he with hold | hfound
    · exact ho.pending_lt j e hold
    · exact ho.entry_lt e hfound
  refine ⟨horderly, hnodup ho.nodup, fun e he => ?_, fun j e he => ?_, fun j e he => ?_,
    fun j e he n hn => ?_, fun j e he k n hn => ?_⟩
  · rcases hentry e he with hold | ⟨i, -, hreg⟩
    · exact Nat.lt_of_lt_of_le (ho.entry_lt e hold) hsize
    · exact Nat.lt_of_lt_of_le (ho.opened_lt i e hreg) hsize
  · rcases hopen j e he with hold | ⟨-, hnew⟩
    · exact Nat.lt_of_lt_of_le (ho.opened_lt j e hold) hsize
    · exact hnew
  · exact Nat.lt_of_lt_of_le (hpendlt j e he) hsize
  · -- what is registered here was about to be, and so is later than what is about to be dropped
    rcases hentry _ hn with hold | ⟨i, -, hreg⟩
    · rcases hpend j e he with hwas | hfound
      · exact ho.pending_le_entry j e hwas n hold
      · exact Nat.le_of_eq (Roster.eq_of_mem_entries ho.nodup hfound hold)
    · rcases hpend j e he with hwas | hfound
      · exact Nat.le_of_lt (ho.pending_lt_opened j e hwas i n hreg)
      · exact absurd hfound (ho.orderly.not_mem_of_opened hreg e.2)
  · rcases hopen k _ hn with hold | ⟨hnew, -⟩
    · rcases hpend j e he with hwas | hfound
      · exact ho.pending_lt_opened j e hwas k n hold
      · exact absurd hfound (ho.orderly.not_mem_of_opened hold e.2)
    · -- a session that was just started has a number that no session had
      have := hpendlt j e he
      omega

variable (p)

/-- A move drops nothing but the session that its call closed. -/
def DropsOwn (o : Overlap σ τ) (m : Move σ τ) : Prop :=
  ∀ i, m = .step i → ∀ name number, (o.call i).toDrop = some (name, number) →
    ∀ e ∈ o.world.roster.entries, e ∉ (move p o m).world.roster.entries → e = (name, number)

variable {p}

/-- The step that drops a name takes the entries of that name off the roster, and no others. -/
theorem entries_of_toDrop {o : Overlap σ τ} {i : Nat} {name : String} {number : Nat}
    (h : (o.call i).toDrop = some (name, number)) (e : String × Nat) :
    e ∈ (move p o (.step i)).world.roster.entries ↔ e ∈ o.world.roster.entries ∧ e.1 ≠ name := by
  have hroster : (move p o (.step i)).world.roster = o.world.roster.drop name := by
    rw [move]
    cases hc : o.call i with
    | closed n k result =>
      rw [hc] at h
      cases h
      cases result with
      | ok _ => rfl
      | error _ => rfl
    | reaped names n k rest =>
      rw [hc] at h
      cases h
      rfl
    | _ => rw [hc] at h; cases h
  rw [hroster, Roster.mem_entries_drop]

/-- A call drops its own session if every session under the name is that one. -/
theorem dropsOwn_of_unique {o : Overlap σ τ} {m : Move σ τ}
    (h : ∀ i, m = .step i → ∀ name number, (o.call i).toDrop = some (name, number) →
      ∀ n, (name, n) ∈ o.world.roster.entries → n = number) : DropsOwn p o m := by
  rintro i rfl name number hdrop ⟨name', n⟩ he hgone
  rw [entries_of_toDrop hdrop] at hgone
  obtain rfl : name' = name := by
    by_contra hne
    exact hgone ⟨he, hne⟩
  rw [h i rfl name' number hdrop n he]

/-- Where numbers are kept track of, a call drops its own session exactly if no later one stands
under the name. -/
theorem Tracked.dropsOwn_iff {o : Overlap σ τ} (ho : o.Tracked) (m : Move σ τ) :
    DropsOwn p o m ↔ ¬DropsLater o m := by
  constructor
  · rintro h ⟨i, name, number, later, rfl, hdrop, he, hlt⟩
    have hgone : (name, later) ∉ (Overlap.move p o (.step i)).world.roster.entries := by
      rw [entries_of_toDrop hdrop]
      exact fun hstays => hstays.2 rfl
    have := congrArg Prod.snd (h i rfl name number hdrop _ he hgone)
    simp only at this
    omega
  · intro h
    refine dropsOwn_of_unique fun i hm name number hdrop n hn => ?_
    have hle := ho.pending_le_entry i _ (Call.mem_pending_of_toDrop hdrop) n hn
    have hlt : ¬number < n := fun hlt => h ⟨i, name, number, n, hm, hdrop, hn, hlt⟩
    simp only at hle
    omega

/-- Under a name that a call is about to drop there is nothing but the session that it found. -/
def Unmixed (o : Overlap σ τ) : Prop :=
  ∀ i, ∀ e ∈ (o.call i).pending, ∀ n, (e.1, n) ∈ o.world.roster.entries → n = e.2

/-- Nothing else comes to stand there unless it is registered there. -/
theorem Unmixed.move {o : Overlap σ τ} (ho : o.Unmixed) (htracked : o.Tracked) {m : Move σ τ}
    (h : ¬Crosses o m) : (Overlap.move p o m).Unmixed := by
  obtain ⟨-, hentry, -, hpend, -⟩ := move_numbers p o m
  intro j e he n hn
  rcases hentry _ hn with hold | ⟨i, hm, hreg⟩
  · rcases hpend j e he with hwas | hfound
    · exact ho j e hwas n hold
    · exact Roster.eq_of_mem_entries htracked.nodup hold hfound
  · rcases hpend j e he with hwas | hfound
    · exact absurd ⟨i, j, e.1, n, e.2, hm, hreg, hwas⟩ h
    · exact absurd hfound (htracked.orderly.not_mem_of_opened hreg e.2)

theorem Unmixed.dropsOwn {o : Overlap σ τ} (ho : o.Unmixed) (m : Move σ τ) : DropsOwn p o m :=
  dropsOwn_of_unique fun i _ _ _ hdrop n hn => ho i _ (Call.mem_pending_of_toDrop hdrop) n hn

/-! ## Runs in which all sessions are named -/

/-- Every session that is asked for is asked for with a name. -/
def AllNamed (moves : List (Move σ τ)) : Prop :=
  ∀ r, .order (.spawn r) ∈ moves → r.wanted ≠ none

/-- No name is made up for the calls so far. -/
def Named (o : Overlap σ τ) : Prop :=
  ∀ i r, o.call i = .spawn r → r.wanted ≠ none

theorem Named.move {o : Overlap σ τ} (ho : o.Named) {m : Move σ τ}
    (h : ∀ r, m = .order (.spawn r) → r.wanted ≠ none) : (Overlap.move p o m).Named := by
  intro j r hj
  rcases spawn_of_move hj with hold | hm
  · exact ho j r hold
  · exact h r hm

theorem Named.not_makesUpTaken {o : Overlap σ τ} (ho : o.Named) (m : Move σ τ) :
    ¬MakesUpTaken p o m := by
  rintro ⟨i, r, name, -, hspawn, hwanted, -⟩
  exact ho i r hspawn hwanted

/-- **Every call drops its own session exactly if no drop comes late.** Along every run of
overlapping calls in which all sessions are named, every name that is dropped takes the session that
the same call closed off the roster, or nothing, if and only if no name is dropped under which a
session stands that was started later. It suffices that no session is registered under a name that
a call is about to drop. -/
theorem along_dropsOwn_iff (p : Pool σ ρ τ) (system : σ) (moves : List (Move σ τ))
    (hnamed : AllNamed moves) :
    (Along p (DropsOwn p) (start system) moves ↔
      Along p (fun o m => ¬DropsLater o m) (start system) moves) ∧
    (Along p (fun o m => ¬Crosses o m) (start system) moves →
      Along p (DropsOwn p) (start system) moves) := by
  have hmember : ∀ m ∈ moves, ∀ r, m = .order (.spawn r) → r.wanted ≠ none := by
    rintro m hm r rfl
    exact hnamed r hm
  have hstart : (start system : Overlap σ τ).Named := by rintro i r ⟨⟩
  constructor
  · refine along_iff (I := fun o => o.Tracked ∧ o.Named) (fun o m ho => ho.1.dropsOwn_iff m) ?_
      ⟨tracked_start system, hstart⟩
    rintro o m hm ⟨ho, hnames⟩ -
    exact ⟨ho.move (hnames.not_makesUpTaken m), hnames.move (hmember m hm)⟩
  · refine Along.mono (I := fun o => o.Unmixed ∧ o.Tracked ∧ o.Named)
      (fun o m ho _ => ho.1.dropsOwn m) ?_ ⟨by rintro i e ⟨⟩, tracked_start system, hstart⟩
    rintro o m hm ⟨ho, htracked, hnames⟩ hcross
    exact ⟨ho.move htracked hcross, htracked.move (hnames.not_makesUpTaken m),
      hnames.move (hmember m hm)⟩

/-- A session is started under a name. -/
def spawnNamed (name : String) : Move Unit Unit :=
  .order (.spawn ⟨some "sh", some name, none, none⟩)

/-- A session is started and closed. -/
def startAndClose : List (Move Unit Unit) :=
  [spawnNamed "b", .step 0, .step 0, .step 0, .order (.close "b"), .step 1, .step 1, .step 1]

/-- A session that nobody else cares for. -/
theorem dropsOwn_startAndClose :
    AllNamed startAndClose ∧ Along Pool.silent (fun o m => ¬Crosses o m) (start ()) startAndClose ∧
      Along Pool.silent (DropsOwn Pool.silent) (start ()) startAndClose := by
  have hnamed : AllNamed startAndClose := by
    intro r hr
    obtain rfl : r = ⟨some "sh", some "b", none, none⟩ := by
      simpa [startAndClose, spawnNamed] using hr
    simp [Request.wanted]
  have hcross : Along Pool.silent (fun o m => ¬Crosses o m) (start ()) startAndClose := by
    refine ⟨?_, ?_, ?_, ?_, ?_, ?_, ?_, ?_, trivial⟩
    · exact not_crosses_of_pending (List.forall_mem_nil _)
    · exact not_crosses_of_pending (List.forall_mem_singleton.2 (by cbv))
    · exact not_crosses_of_pending (List.forall_mem_singleton.2 (by cbv))
    · exact not_crosses_of_pending (List.forall_mem_singleton.2 (by cbv))
    · exact not_crosses_of_pending (List.forall_mem_singleton.2 (by cbv))
    · exact not_crosses_of_opened (by cbv)
    · exact not_crosses_of_opened (by cbv)
    · exact not_crosses_of_opened (by cbv)
  exact ⟨hnamed, hcross, (along_dropsOwn_iff Pool.silent () startAndClose hnamed).2 hcross⟩

/-- A name is dropped by two calls, and given to a new session in between. -/
def closeTwice : List (Move Unit Unit) :=
  [spawnNamed "b", .step 0, .step 0, .step 0,
    .order (.close "b"), .step 1, .order (.close "b"), .step 2, .step 2, .step 2,
    spawnNamed "b", .step 3, .step 3, .step 3, .step 1, .step 1]

/-- **A session can lose its name to another call.** The first call has closed session 0, and takes
session 1 off the roster. -/
theorem dropped_with_name :
    ¬Along Pool.silent (DropsOwn Pool.silent) (start ()) closeTwice ∧
      ((run Pool.silent (start ()) (closeTwice.take 15)).call 1).toDrop = some ("b", 0) ∧
      (run Pool.silent (start ()) (closeTwice.take 15)).world.roster.entries = [("b", 1)] ∧
      (run Pool.silent (start ()) closeTwice).world.roster.entries = [] := by
  have hdrop : ((run Pool.silent (start ()) (closeTwice.take 15)).call 1).toDrop =
      some ("b", 0) := by cbv
  have hbefore : (run Pool.silent (start ()) (closeTwice.take 15)).world.roster.entries =
      [("b", 1)] := by cbv
  have hafter : (run Pool.silent (start ()) closeTwice).world.roster.entries = [] := by cbv
  refine ⟨?_, hdrop, hbefore, hafter⟩
  -- the last move is the step with which the first call drops the name
  rintro ⟨-, -, -, -, -, -, -, -, -, -, -, -, -, -, -, hlast, -⟩
  have := hlast 1 rfl "b" 0 hdrop ("b", 1) (hbefore ▸ List.mem_singleton_self _)
    (hafter ▸ List.not_mem_nil)
  cases this

end Overlap

end Teletype
