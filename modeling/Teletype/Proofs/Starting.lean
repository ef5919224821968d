import Mathlib
import Teletype.Proofs.Delivery
import Teletype.Proofs.Freshness

/-!
# What a failed start leaves behind

Starting a session takes several steps, and most of them can fail: a name is reserved, a child is
started, its first output is captured, the session is registered, and its child is asked whether it
lives. `Pool.SpawnFails` has one case for each of the ways to fail, with all that was done until
then and is done after it; `Pool.spawn_eq_error_iff` says that there are no others.

A start that fails in one of the first steps takes back what it did: its name is given back, and its
child, if there is one, has its session closed. In the last step nothing is taken back. The session
is registered by then, and stays (`Pool.Orphans`). So a start that fails leaves nothing behind
exactly if it does not fail in this way (`Pool.spawn_leaves_nothing_iff`).
-/

namespace Teletype

open Teletype.Action

namespace Roster

/-- Giving back the name that a session was given leaves the registered sessions and the reserved
names as they were. -/
theorem release_reserve_nameFor {r : Roster} {wanted : Option String}
    (h : (r.nameFor wanted).1 ∉ r.reserved) :
    (((r.nameFor wanted).2.reserve (r.nameFor wanted).1).release (r.nameFor wanted).1).entries =
        r.entries ∧
      (((r.nameFor wanted).2.reserve (r.nameFor wanted).1).release (r.nameFor wanted).1).reserved =
        r.reserved := by
  have hcontains : ¬r.reserved.contains (r.nameFor wanted).1 = true :=
    fun hmem => h (List.contains_iff_mem.1 hmem)
  have hothers : r.reserved.filter (· != (r.nameFor wanted).1) = r.reserved := by
    refine List.filter_eq_self.2 fun x hx => bne_iff_ne.2 ?_
    rintro rfl
    exact h hx
  rw [release, reserve, reserved_nameFor, if_neg hcontains, List.filter_append, hothers,
    List.filter_singleton, bne_self_eq_false, cond_false, List.append_nil, entries_nameFor]
  exact ⟨rfl, rfl⟩

end Roster

namespace Pool

variable {σ ρ τ : Type} [TimeScale τ] (p : Pool σ ρ τ)

/-- Closing quietly does not fail. -/
theorem exists_closeQuietly_eq_ok (number : Nat) (what : String) (w : World σ τ) :
    ∃ w', (p.closeQuietly number what).runFrom w = (.ok (), w') := by
  rw [closeQuietly, runFrom_bind, runFrom_attempt]
  cases ((p.withHost number Host.close).runFrom w).1 with
  | ok _ => exact ⟨_, rfl⟩
  | error f => exact ⟨_, rfl⟩

/-! ## The ways in which a start fails -/

/-- A command is given, and a name is reserved for its session. -/
def Reserves (r : Request) (w : World σ τ) (command name : String) (w₁ : World σ τ) : Prop :=
  (r.command.filter fun command => !command.isEmpty) = some command ∧
    (p.reserve r.name).runFrom w = (.ok name, w₁)

/-- A name is reserved for a session, and its child is started. The session has a number. -/
def Opens (r : Request) (w : World σ τ) (name : String) (number : Nat) (w₂ : World σ τ) : Prop :=
  ∃ command w₁, p.Reserves r w command name w₁ ∧
    (p.openSession (p.opening name command r.rows r.columns)).runFrom w₁ = (.ok number, w₂)

/-- **How a start fails.** -/
inductive SpawnFails (r : Request) (w : World σ τ) : PoolFault → World σ τ → Prop
  /-- There is no command. -/
  | noCommand : (r.command.filter fun command => !command.isEmpty) = none →
    SpawnFails r w .noCommand w
  /-- There is no room, or nobody can tell how much room there is. -/
  | noRoom {command : String} {f : PoolFault} {w' : World σ τ} :
    (r.command.filter fun command => !command.isEmpty) = some command →
    (p.reserve r.name).runFrom w = (.error f, w') → SpawnFails r w f w'
  /-- No child is started, and the name is given back. -/
  | noChild {command name : String} {f : PoolFault} {w₁ w₂ : World σ τ} :
    p.Reserves r w command name w₁ →
    (p.openSession (p.opening name command r.rows r.columns)).runFrom w₁ = (.error f, w₂) →
    SpawnFails r w f { w₂ with roster := w₂.roster.release name }
  /-- The first output is not captured; the session is closed, and the name is given back. -/
  | noOutput {name : String} {number : Nat} {f : PoolFault} {w₂ w₃ w₄ : World σ τ} :
    p.Opens r w name number w₂ →
    (p.withHost number Host.readInitial).runFrom w₂ = (.error f, w₃) →
    (p.closeQuietly number s!"session {name}").runFrom w₃ = (.ok (), w₄) →
    SpawnFails r w f { w₄ with roster := w₄.roster.release name }
  /-- The session is registered, and nobody can tell whether its child lives. -/
  | noAnswer {name : String} {number : Nat} {captured : Captured} {f : PoolFault}
    {w₂ w₃ w' : World σ τ} :
    p.Opens r w name number w₂ →
    (p.withHost number Host.readInitial).runFrom w₂ = (.ok captured, w₃) →
    (p.isAlive number).runFrom { w₃ with roster := w₃.roster.register name number } =
      (.error f, w') →
    SpawnFails r w f w'

/-- A session that begins and fails: no child was started, or its session was closed. -/
theorem begin_eq_error_iff {name command : String} {r : Request} {w w' : World σ τ}
    {f : PoolFault} :
    (p.begin name command r).runFrom w = (.error f, w') ↔
      (p.openSession (p.opening name command r.rows r.columns)).runFrom w = (.error f, w') ∨
      ∃ number w₁ w₂, (p.openSession (p.opening name command r.rows r.columns)).runFrom w =
          (.ok number, w₁) ∧
        (p.withHost number Host.readInitial).runFrom w₁ = (.error f, w₂) ∧
        (p.closeQuietly number s!"session {name}").runFrom w₂ = (.ok (), w') := by
  rw [begin, runFrom_bind_eq_error_iff]
  refine or_congr_right (exists_congr fun number => exists_congr fun w₁ => ?_)
  rw [exists_and_left]
  refine and_congr_right fun _ => ?_
  rw [runFrom_bind, runFrom_attempt]
  cases hread : (p.withHost number Host.readInitial).runFrom w₁ with
  | mk result w₂ =>
    cases result with
    | ok captured => exact iff_of_false (by rintro ⟨⟩) (by rintro ⟨_, ⟨⟩, -⟩)
    | error g =>
      obtain ⟨w₃, hclose⟩ := p.exists_closeQuietly_eq_ok number s!"session {name}" w₂
      simp only [runFrom_bind, hclose, runFrom_throw]
      constructor
      · rintro ⟨⟩
        exact ⟨w₂, rfl, hclose⟩
      · rintro ⟨_, ⟨⟩, hclose'⟩
        cases hclose.symm.trans hclose'
        rfl

theorem begin_eq_ok_iff {name command : String} {r : Request} {w w' : World σ τ} {number : Nat}
    {captured : Captured} :
    (p.begin name command r).runFrom w = (.ok (number, captured), w') ↔
      ∃ w₁, (p.openSession (p.opening name command r.rows r.columns)).runFrom w = (.ok number, w₁) ∧
        (p.withHost number Host.readInitial).runFrom w₁ = (.ok captured, w') := by
  rw [begin, runFrom_bind]
  cases hopen : (p.openSession (p.opening name command r.rows r.columns)).runFrom w with
  | mk result w₁ =>
    cases result with
    | error g => exact iff_of_false (by rintro ⟨⟩) (by rintro ⟨_, ⟨⟩, -⟩)
    | ok n =>
      simp only [runFrom_bind, runFrom_attempt]
      cases hread : (p.withHost n Host.readInitial).runFrom w₁ with
      | mk result w₂ =>
        cases result with
        | ok c =>
          constructor
          · rintro ⟨⟩
            exact ⟨w₁, rfl, hread⟩
          · rintro ⟨_, ⟨⟩, hread'⟩
            cases hread.symm.trans hread'
            rfl
        | error g =>
          obtain ⟨w₃, hclose⟩ := p.exists_closeQuietly_eq_ok n s!"session {name}" w₂
          simp only [runFrom_bind, hclose]
          refine iff_of_false (by rintro ⟨⟩) ?_
          rintro ⟨_, ⟨⟩, hread'⟩
          cases hread.symm.trans hread'

variable {p}

/-- Each of these ways is one in which the start fails. -/
theorem SpawnFails.runFrom {r : Request} {w w' : World σ τ} {f : PoolFault}
    (h : p.SpawnFails r w f w') : (p.spawn r).runFrom w = (.error f, w') := by
  cases h with
  | noCommand hnone => rw [spawn, hnone]; rfl
  | noRoom hcommand hreserve =>
    rw [spawn, hcommand]
    exact runFrom_bind_eq_error_iff.2 (.inl hreserve)
  | noChild hreserves hopen =>
    obtain ⟨hcommand, hreserve⟩ := hreserves
    have hbegin := p.begin_eq_error_iff.2 (.inl hopen)
    rw [spawn, hcommand]
    simp only [runFrom_bind, hreserve, runFrom_attempt, hbegin]
    rfl
  | noOutput hopens hread hclose =>
    obtain ⟨command, w₁, ⟨hcommand, hreserve⟩, hopen⟩ := hopens
    have hbegin := p.begin_eq_error_iff.2 (.inr ⟨_, _, _, hopen, hread, hclose⟩)
    rw [spawn, hcommand]
    simp only [runFrom_bind, hreserve, runFrom_attempt, hbegin]
    rfl
  | noAnswer hopens hread hask =>
    obtain ⟨command, w₁, ⟨hcommand, hreserve⟩, hopen⟩ := hopens
    have hbegin := p.begin_eq_ok_iff.2 ⟨_, hopen, hread⟩
    rw [spawn, hcommand]
    simp only [runFrom_bind, hreserve, runFrom_attempt, hbegin, onRoster, runFrom_change, hask]

/-- **There is no other way in which a start fails.** -/
theorem spawn_eq_error_iff {r : Request} {w w' : World σ τ} {f : PoolFault} :
    (p.spawn r).runFrom w = (.error f, w') ↔ p.SpawnFails r w f w' := by
  refine ⟨fun hrun => ?_, SpawnFails.runFrom⟩
  rw [spawn] at hrun
  cases hcommand : r.command.filter fun command => !command.isEmpty with
  | none =>
    rw [hcommand] at hrun
    cases hrun
    exact .noCommand hcommand
  | some command =>
    rw [hcommand] at hrun
    rcases runFrom_bind_eq_error_iff.1 hrun with hreserve | ⟨name, w₁, hreserve, hrun⟩
    · exact .noRoom hcommand hreserve
    rw [runFrom_bind, runFrom_attempt] at hrun
    cases hbegin : (p.begin name command r).runFrom w₁ with
    | mk result w₂ =>
      rw [hbegin] at hrun
      cases result with
      | error g =>
        cases hrun
        rcases p.begin_eq_error_iff.1 hbegin with hopen | ⟨number, w₃, w₄, hopen, hread, hclose⟩
        · exact .noChild ⟨hcommand, hreserve⟩ hopen
        · exact .noOutput ⟨command, w₁, ⟨hcommand, hreserve⟩, hopen⟩ hread hclose
      | ok begun =>
        obtain ⟨number, captured⟩ := begun
        obtain ⟨w₃, hopen, hread⟩ := p.begin_eq_ok_iff.1 hbegin
        simp only [runFrom_bind, onRoster, runFrom_change] at hrun
        cases hask : (p.isAlive number).runFrom
            { w₂ with roster := w₂.roster.register name number } with
        | mk answer w₅ =>
          rw [hask] at hrun
          cases answer with
          | error g =>
            cases hrun
            exact .noAnswer ⟨command, w₁, ⟨hcommand, hreserve⟩, hopen⟩ hread hask
          -- once the child has answered, what is left is noted and returned
          | ok lives => cases lives <;> cases hrun

/-! ## What is left -/

variable (p)

/-- A start fails when the session is registered already and nobody can tell whether its child
lives. -/
def Orphans (r : Request) (w : World σ τ) (f : PoolFault) (w' : World σ τ) : Prop :=
  ∃ name number captured w₂ w₃, p.Opens r w name number w₂ ∧
    (p.withHost number Host.readInitial).runFrom w₂ = (.ok captured, w₃) ∧
    (p.isAlive number).runFrom { w₃ with roster := w₃.roster.register name number } = (.error f, w')

/-- **A start that fails leaves nothing behind**: the registered sessions are the same, and so are
the reserved names; and if the child of the session was started, then it was the capture of its
first output that failed, upon which the session was closed, and only its name was given back after
that. -/
structure LeavesNothing (r : Request) (w : World σ τ) (f : PoolFault) (w' : World σ τ) : Prop where
  entries : w'.roster.entries = w.roster.entries
  reserved : w'.roster.reserved = w.roster.reserved
  closed : ∀ name number w₂, p.Opens r w name number w₂ → ∃ w₃ w₄,
    (p.withHost number Host.readInitial).runFrom w₂ = (.error f, w₃) ∧
      (p.closeQuietly number s!"session {name}").runFrom w₃ = (.ok (), w₄) ∧
      w' = { w₄ with roster := w₄.roster.release name }

variable {p} {r : Request} {w w' : World σ τ} {f : PoolFault}

section

variable {w₁ w₂ : World σ τ} {name : String} {number : Nat}

omit [TimeScale τ] in
/-- A name is reserved in one way only. -/
theorem Reserves.unique {command command' name' : String} {w₁' : World σ τ}
    (h : p.Reserves r w command name w₁) (h' : p.Reserves r w command' name' w₁') :
    command' = command ∧ name' = name ∧ w₁' = w₁ := by
  cases h.1.symm.trans h'.1
  cases h.2.symm.trans h'.2
  exact ⟨rfl, rfl, rfl⟩

omit [TimeScale τ] in
/-- A session is opened in one way only. -/
theorem Opens.unique {name' : String} {number' : Nat} {w₂' : World σ τ}
    (h : p.Opens r w name number w₂) (h' : p.Opens r w name' number' w₂') :
    name' = name ∧ number' = number ∧ w₂' = w₂ := by
  obtain ⟨command, w₁, hreserves, hopen⟩ := h
  obtain ⟨command', w₁', hreserves', hopen'⟩ := h'
  obtain ⟨rfl, rfl, rfl⟩ := hreserves.unique hreserves'
  cases hopen.symm.trans hopen'
  exact ⟨rfl, rfl, rfl⟩

omit [TimeScale τ] in
/-- A name is reserved beside those that were. -/
theorem Reserves.roster {command : String} (h : p.alone.Reserves r w command name w₁) :
    w₁.roster = (w.roster.nameFor r.name).2.reserve name ∧
      name = (w.roster.nameFor r.name).1 ∧ w.seats.size ≤ w₁.seats.size := by
  rcases p.reserve_spec r.name w with ⟨w₁', hrun, hroster, hsize⟩ | ⟨f, w₁', hrun, -⟩
  · cases h.2.symm.trans hrun
    exact ⟨hroster, rfl, hsize⟩
  · cases h.2.symm.trans hrun

omit [TimeScale τ] in
/-- A session is opened under a number that no session had, and the roster is still that of the
reservation. -/
theorem Opens.roster (h : p.alone.Opens r w name number w₂) :
    w₂.roster = (w.roster.nameFor r.name).2.reserve name ∧
      name = (w.roster.nameFor r.name).1 ∧ w.seats.size ≤ number := by
  obtain ⟨command, w₁, hreserves, hopen⟩ := h
  obtain ⟨hroster, hname, hsize⟩ := hreserves.roster
  rcases p.alone.openSession_spec (p.alone.opening name command r.rows r.columns) w₁ with
    ⟨number', w₂', hrun, hroster', hle, -⟩ | ⟨f, w₂', hrun, -⟩
  · cases hopen.symm.trans hrun
    exact ⟨hroster'.trans hroster, hname, hsize.trans hle⟩
  · cases hopen.symm.trans hrun

end

/-- An orphan is registered under the name that was reserved for it, with a number that no session
had. -/
theorem Orphans.find? (h : p.alone.Orphans r w f w') :
    ∃ number, w.seats.size ≤ number ∧
      w'.roster.find? (w.roster.nameFor r.name).1 = some number := by
  obtain ⟨name, number, captured, w₂, w₃, hopens, -, hask⟩ := h
  obtain ⟨-, rfl, hle⟩ := hopens.roster
  have hkept := p.isAlive_untouched number
    { w₃ with roster := w₃.roster.register (w.roster.nameFor r.name).1 number }
  rw [hask] at hkept
  refine ⟨number, hle, ?_⟩
  rw [hkept.1, Roster.find?_register, if_pos rfl]

/-- Where no child is started, there is no session to close or to leave behind. -/
theorem leavesNothing_iff_of_not_opens (hentries : w'.roster.entries = w.roster.entries)
    (hreserved : w'.roster.reserved = w.roster.reserved)
    (hnone : ∀ name number w₂, ¬p.Opens r w name number w₂) :
    p.LeavesNothing r w f w' ↔ ¬p.Orphans r w f w' := by
  refine iff_of_true ⟨hentries, hreserved, fun name number w₂ hopens => ?_⟩ ?_
  · exact absurd hopens (hnone name number w₂)
  · rintro ⟨name, number, captured, w₂, w₃, hopens, -⟩
    exact hnone name number w₂ hopens

/-- **When a start that fails leaves nothing behind.** The name that it is given is not reserved for
another call; then it leaves nothing behind, unless it fails in the last step. In that case the
session stays on the roster. -/
theorem spawn_leaves_nothing_iff (hname : (w.roster.nameFor r.name).1 ∉ w.roster.reserved)
    (hrun : (p.alone.spawn r).runFrom w = (.error f, w')) :
    (p.alone.LeavesNothing r w f w' ↔ ¬p.alone.Orphans r w f w') ∧
      (p.alone.Orphans r w f w' → ∃ number, w.seats.size ≤ number ∧
        w'.roster.find? (w.roster.nameFor r.name).1 = some number) := by
  refine ⟨?_, Orphans.find?⟩
  obtain ⟨hentries, hreserved⟩ := Roster.release_reserve_nameFor hname
  cases spawn_eq_error_iff.1 hrun with
  | noCommand hnone =>
    refine leavesNothing_iff_of_not_opens rfl rfl fun name number w₂ hopens => ?_
    obtain ⟨command, w₁, ⟨hcommand, -⟩, -⟩ := hopens
    cases hnone.symm.trans hcommand
  | noRoom hcommand hreserve =>
    rcases p.reserve_spec r.name w with ⟨w₁, hrun', -⟩ | ⟨g, w₁, hrun', hkept⟩
    · cases hreserve.symm.trans hrun'
    · cases hreserve.symm.trans hrun'
      refine leavesNothing_iff_of_not_opens (by rw [hkept.1]) (by rw [hkept.1])
        fun name number w₂ hopens => ?_
      obtain ⟨command', w₁', ⟨-, hreserve'⟩, -⟩ := hopens
      cases hreserve.symm.trans hreserve'
  | @noChild command name _ w₁ w₂ hreserves hopen =>
    obtain ⟨hroster, rfl, -⟩ := hreserves.roster
    rcases p.alone.openSession_spec (p.alone.opening _ command r.rows r.columns) w₁ with
      ⟨number, w₂', hrun', -⟩ | ⟨g, w₂', hrun', hkept⟩
    · cases hopen.symm.trans hrun'
    · cases hopen.symm.trans hrun'
      rw [← hkept.1.trans hroster] at hentries hreserved
      refine leavesNothing_iff_of_not_opens hentries hreserved fun name' number w₃ hopens => ?_
      obtain ⟨command', w₁', hreserves', hopen'⟩ := hopens
      obtain ⟨rfl, rfl, rfl⟩ := hreserves.unique hreserves'
      cases hopen.symm.trans hopen'
  | @noOutput name number _ w₂ w₃ w₄ hopens hread hclose =>
    obtain ⟨hroster, rfl, -⟩ := hopens.roster
    have hkept : w₄.roster = w₂.roster := by
      have hread' := p.withHost_untouched (fun h hh => hh.readInitial) number w₂
      have hclose' := p.closeQuietly_untouched number
        s!"session {(w.roster.nameFor r.name).1}" w₃
      rw [hread] at hread'
      rw [hclose] at hclose'
      exact hclose'.1.trans hread'.1
    rw [← hkept.trans hroster] at hentries hreserved
    refine iff_of_true ⟨hentries, hreserved, fun name' number' w₂' hopens' => ?_⟩ ?_
    · obtain ⟨rfl, rfl, rfl⟩ := hopens.unique hopens'
      exact ⟨w₃, w₄, hread, hclose, rfl⟩
    · rintro ⟨name', number', captured, w₂', w₃', hopens', hread', -⟩
      obtain ⟨rfl, rfl, rfl⟩ := hopens.unique hopens'
      cases hread.symm.trans hread'
  | @noAnswer name number captured _ w₂ w₃ _ hopens hread hask =>
    refine iff_of_false (fun hleft => ?_) fun h => h ⟨_, _, _, _, _, hopens, hread, hask⟩
    obtain ⟨w₃', w₄, hread', -⟩ := hleft.closed name number w₂ hopens
    cases hread.symm.trans hread'

end Pool

/-! ## Children that fail their reader -/

/-- The world before the first session, with the script of a child to come. -/
def World.awaiting (script : Script Empty Int) : World (Stage Empty Empty Int) Int where
  system := Stage.start [script]
  seats := #[]
  roster := .empty
  isReaping := false

namespace Pool

/-- A pool of scripted children that are waited for for a second. -/
def attentive : Pool (Stage Empty Empty Int) Empty Int :=
  onStage Empty.elim silent.options fun _ w => w

/-- A session is asked for under a name. -/
def named (name : String) : Request :=
  ⟨some "sh", some name, none, none⟩

/-- A child that the system does not reach: nothing can be read from it, and it cannot be told that
nothing more will be sent. -/
def unreachable : Script Empty Int :=
  { Script.plain "sh" with
    initial := [.fail ⟨.system, "pty closed".toList⟩]
    hooks := ⟨none, none, none, some ⟨.system, "pty closed".toList⟩, none, none⟩ }

/-- A child that shows its prompt, and does not answer whether it lives. -/
def speechless : Script Empty Int :=
  { Script.plain "sh" with
    hooks := ⟨none, none, some ⟨.system, "boom".toList⟩, none, none, none⟩ }

/-- A child that cannot be read is asked to end, and its name is free again. -/
theorem spawn_leaves_nothing_unreachable :
    ∃ w, (attentive.alone.spawn (named "r1")).runFrom (.awaiting unreachable) =
        (.error (.session (.child ⟨.system, "pty closed".toList⟩)), w) ∧
      "r1" ∉ (World.awaiting unreachable).roster.reserved ∧
      attentive.alone.LeavesNothing (named "r1") (.awaiting unreachable)
        (.session (.child ⟨.system, "pty closed".toList⟩)) w ∧
      (w.system.process 0).isAlive = false := by
  have hfault : ((attentive.alone.spawn (named "r1")).runFrom (.awaiting unreachable)).1 =
      .error (.session (.child ⟨.system, "pty closed".toList⟩)) := rfl
  have hnobody : ((attentive.alone.spawn (named "r1")).runFrom
      (.awaiting unreachable)).2.roster.find? "r1" = none := rfl
  have hdead : (((attentive.alone.spawn (named "r1")).runFrom
      (.awaiting unreachable)).2.system.process 0).isAlive = false := rfl
  cases hrun : (attentive.alone.spawn (named "r1")).runFrom (.awaiting unreachable) with
  | mk result w =>
    rw [hrun] at hfault hnobody hdead
    obtain rfl : result = _ := hfault
    have hname : "r1" ∉ (World.awaiting unreachable).roster.reserved := List.not_mem_nil
    obtain ⟨hleft, horphans⟩ := spawn_leaves_nothing_iff hname hrun
    refine ⟨w, rfl, hname, hleft.2 fun h => ?_, hdead⟩
    obtain ⟨number, -, hfind⟩ := horphans h
    cases hnobody.symm.trans hfind

/-- **A child that does not answer stays behind.** Its session is registered, and the child lives
on. -/
theorem spawn_orphans :
    ∃ f w, (attentive.alone.spawn (named "a")).runFrom (.awaiting speechless) = (.error f, w) ∧
      f = .session (.child ⟨.system, "boom".toList⟩) ∧
      w.roster.entries = [("a", 0)] ∧ (w.system.process 0).isAlive = true ∧
      ¬attentive.alone.LeavesNothing (named "a") (.awaiting speechless) f w := by
  have hfault : ((attentive.alone.spawn (named "a")).runFrom (.awaiting speechless)).1 =
      .error (.session (.child ⟨.system, "boom".toList⟩)) := by cbv
  have hentries : ((attentive.alone.spawn (named "a")).runFrom
      (.awaiting speechless)).2.roster.entries = [("a", 0)] := by cbv
  have hlives : (((attentive.alone.spawn (named "a")).runFrom
      (.awaiting speechless)).2.system.process 0).isAlive = true := by cbv
  refine ⟨_, _, Prod.ext hfault rfl, rfl, hentries, hlives, fun h => ?_⟩
  cases hentries.symm.trans h.entries

end Pool

end Teletype
