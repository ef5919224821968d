import Teletype.Proofs.Closing
import Teletype.Proofs.Starting
import Teletype.Proofs.Telling

/-!
# What reaping leaves

Reaping goes over the roster, closes the sessions that it found dead, too old, or unused for too
long, and drops their names. Closing takes time and can fail, and meanwhile other sessions can come
to be dead or too old. None of that matters any more: what is to be closed was settled when the
roster was gone over.

`Pool.scan` is that first part by itself: it asks each child in turn whether it lives, and keeps
what it finds out (`Finding`). Some of the findings are ripe. The sessions of these are closed, each
once, in order and none besides (`Pool.Closes`); those of the other findings stay on the roster, in
order, and nothing else has changed but the system (`Pool.reap_partitions`).

For each session that is to be closed a reason is given, which names the limit that it has passed.
So the limits of a pool have to be numbers that can be written (`PoolOptions.IsWritable`). Where one
has too many digits, reaping fails as soon as it is to name it (`Pool.exists_reap_eq_ok_iff`), and
has closed nothing then (`Pool.reap_eq_error`).
-/

namespace Teletype

open Teletype.Action

variable {σ ρ τ κ α : Type}

/-! ## Changes of the system alone

What is known about a session changes through `Host.update` alone, and closing has no use for it:
it does the same on a host where it does nothing.
-/

namespace Host

variable (h : Host κ τ)

/-- The host, but for what is known about the session, which does not change there. -/
def frozen : Host κ τ :=
  { h with update := fun _ k => k }

variable [TimeScale τ]

theorem readOn_frozen (c : Settings) (prompt : Option PromptPattern) (idle deadline : τ)
    (reads : Nat) (p : Progress) :
    h.frozen.readOn c prompt idle deadline reads p = h.readOn c prompt idle deadline reads p := by
  induction reads generalizing p with
  | zero => rfl
  | succ reads ih =>
    simp only [readOn, ih]
    rfl

theorem capture_frozen (idle : Option τ) (prompt : Option PromptPattern) :
    h.frozen.capture idle prompt = h.capture idle prompt := by
  simp only [capture, readOn_frozen]
  rfl

theorem drain_frozen : h.frozen.drain = h.drain := by
  simp only [drain, capture_frozen]
  rfl

/-- Closing a session does not change what is known about it. -/
theorem close_frozen : h.frozen.close = h.close := by
  simp only [close, drain_frozen]
  rfl

end Host

/-- Only the system has changed. -/
structure World.SameButSystem (w w' : World σ τ) : Prop where
  roster : w'.roster = w.roster
  seats : w'.seats = w.seats
  isReaping : w'.isReaping = w.isReaping

theorem World.sameButSystem (w : World σ τ) (s : σ) : w.SameButSystem { w with system := s } :=
  ⟨rfl, rfl, rfl⟩

instance : IsPreorder (World σ τ) World.SameButSystem where
  refl _ := ⟨rfl, rfl, rfl⟩
  trans _ _ _ h h' :=
    ⟨h'.roster.trans h.roster, h'.seats.trans h.seats, h'.isReaping.trans h.isReaping⟩

namespace Pool

variable (p : Pool σ ρ τ)

theorem onSystem_sameButSystem {ε : Type} (a : Action σ ε α) :
    (onSystem a : Action (World σ τ) ε α).Within World.SameButSystem :=
  fun w => w.sameButSystem _

theorem host_sameButSystem (number process : Nat) :
    (p.alone.host number process).frozen.Within World.SameButSystem where
  read _ := p.read_within (onSystem_sameButSystem _)
  send _ := onSystem_sameButSystem _
  isAlive := onSystem_sameButSystem _
  sendEnd := onSystem_sameButSystem _
  terminate _ := onSystem_sameButSystem _
  wait _ := onSystem_sameButSystem _
  update _ w := refl_of _ w
  record _ w := w.sameButSystem _

theorem withHost_sameButSystem {f : Host (World σ τ) τ → Action (World σ τ) SessionFault α}
    {number : Nat}
    (hf : ∀ process, (f (p.alone.host number process)).Within World.SameButSystem) :
    (p.alone.withHost number f).Within World.SameButSystem :=
  fun w => (hf _).mapFault _ w

theorem isAlive_sameButSystem (number : Nat) :
    (p.alone.isAlive number).Within World.SameButSystem :=
  p.withHost_sameButSystem fun _ => Host.Within.ask (onSystem_sameButSystem _)

variable [TimeScale τ]

theorem close_sameButSystem (number process : Nat) :
    (p.alone.host number process).close.Within World.SameButSystem := by
  rw [← Host.close_frozen]
  exact (p.host_sameButSystem number process).close

theorem closeQuietly_sameButSystem (number : Nat) (what : String) :
    (p.alone.closeQuietly number what).Within World.SameButSystem := by
  refine (p.withHost_sameButSystem (p.close_sameButSystem number)).attempt.bind fun r => ?_
  cases r with
  | ok _ => exact within_pure _
  | error f => exact within_change fun w => w.sameButSystem _

end Pool

/-! ## Limits that can be written -/

/-- A fault that says that one of the limits cannot be written. -/
def PoolOptions.Unwritable (o : PoolOptions) (f : PoolFault) : Prop :=
  ∃ e, f = .overlong e ∧ (o.maxLifetime.text = .error e ∨ o.maxIdle.text = .error e)

/-! ## Going over the roster -/

/-- What is found out about a registered session: whether its child lives, and the state of the
world when that was asked. -/
structure Finding (σ τ : Type) where
  name : String
  number : Nat
  lives : Bool
  world : World σ τ

/-- The entry of the roster that a finding is about. -/
def Finding.entry (f : Finding σ τ) : String × Nat :=
  (f.name, f.number)

namespace Pool

variable (p : Pool σ ρ τ)

/-- Asks about registered sessions, one after the other. -/
def scan : List (String × Nat) → Act σ τ (List (Finding σ τ))
  | [] => return []
  | (name, number) :: rest => do
    let lives ← p.isAlive number
    let world ← Action.look id
    let others ← scan rest
    return ⟨name, number, lives, world⟩ :: others

theorem scan_sameButSystem (entries : List (String × Nat)) :
    (p.alone.scan entries).Within World.SameButSystem := by
  induction entries with
  | nil => exact within_pure _
  | cons e rest ih =>
    exact (p.isAlive_sameButSystem e.2).bind fun lives => (within_look _).bind fun world =>
      ih.bind fun others => within_pure _

variable [TimeScale τ]

/-- **A session is ripe** if its child is dead, or if it is older than it may become, or was last
used longer ago than it may be unused. -/
def isRipe (f : Finding σ τ) : Bool :=
  let h := p.hostAt f.world f.number
  !f.lives || h.isExpired f.world || TimeScale.exceeds (h.idle f.world) p.options.maxIdle

/-- It can be said why a session is to be reaped, or that it is not. -/
def IsExplained (f : Finding σ τ) : Prop :=
  ∃ reason, p.reason f.number f.lives f.world = .ok reason

variable {p}

/-- A reason is given if its limit can be written, and else nothing is said. -/
theorem reasonWith_cases (what : String) (limit : Number) :
    (∃ reason, (reasonWith what limit).map some = .ok (some reason) ∧ ∃ t, limit.text = .ok t) ∨
      ∃ e, (reasonWith what limit).map some = .error (.overlong e) ∧ limit.text = .error e := by
  rw [reasonWith]
  cases limit.text with
  | ok t => exact .inl ⟨_, rfl, t, rfl⟩
  | error e => exact .inr ⟨e, rfl, rfl⟩

/-- **There is a reason to reap a session exactly if it is ripe**, if it can be said at all. -/
theorem isSome_of_reason {f : Finding σ τ} {reason : Option String}
    (h : p.reason f.number f.lives f.world = .ok reason) : reason.isSome = p.isRipe f := by
  have hsome : ∀ {what : String} {limit : Number},
      (reasonWith what limit).map some = .ok reason → reason.isSome = true := by
    intro what limit hlimit
    rcases reasonWith_cases what limit with ⟨_, hok, -⟩ | ⟨e, herror, -⟩
    · cases hok.symm.trans hlimit
      rfl
    · cases herror.symm.trans hlimit
  simp only [Pool.reason] at h
  simp only [isRipe]
  split_ifs at h with hdead hold hidle
  · cases h
    simp only [hdead, Bool.true_or, Option.isSome_some]
  · simp only [hsome h, hold, Bool.or_true, Bool.true_or]
  · simp only [hsome h, hidle, Bool.or_true]
  · cases h
    simp_all only [Bool.not_eq_true, Bool.or_self, Option.isSome_none]

/-- What cannot be said is a limit that cannot be written. -/
theorem unwritable_of_reason {f : Finding σ τ} {e : PoolFault}
    (h : p.reason f.number f.lives f.world = .error e) : p.options.Unwritable e := by
  have hlimit : ∀ {what : String} {limit : Number}, (reasonWith what limit).map some = .error e →
      ∃ x, e = .overlong x ∧ limit.text = .error x := by
    intro what limit hlimit
    rcases reasonWith_cases what limit with ⟨_, hok, -⟩ | ⟨x, herror, hx⟩
    · cases hok.symm.trans hlimit
    · cases herror.symm.trans hlimit
      exact ⟨x, rfl, hx⟩
  simp only [Pool.reason] at h
  split_ifs at h
  · obtain ⟨x, he, hx⟩ := hlimit h
    exact ⟨x, he, .inl hx⟩
  · obtain ⟨x, he, hx⟩ := hlimit h
    exact ⟨x, he, .inr hx⟩

/-- **The sessions that are to be reaped** are those of the ripe findings, in order. -/
theorem exists_ripe {entries : List (String × Nat)} {found : List (Finding σ τ)}
    {w w' : World σ τ} (h : (p.scan entries).runFrom w = (.ok found, w'))
    (hexplained : ∀ f ∈ found, p.IsExplained f) :
    found.map Finding.entry = entries ∧ ∃ picked, (p.ripe entries).runFrom w = (.ok picked, w') ∧
      picked.map (·.1) = (found.filter p.isRipe).map (·.name) ∧
      picked.map (·.2.1) = (found.filter p.isRipe).map (·.number) := by
  induction entries generalizing w w' found with
  | nil =>
    cases h
    exact ⟨rfl, [], rfl, rfl, rfl⟩
  | cons e rest ih =>
    obtain ⟨name, number⟩ := e
    obtain ⟨lives, w₁, halive, h⟩ := exists_of_runFrom_bind h
    obtain ⟨_, _, ⟨⟩, h⟩ := exists_of_runFrom_bind h
    obtain ⟨others, w₂, hothers, ⟨⟩⟩ := exists_of_runFrom_bind h
    obtain ⟨⟨reason, hreason⟩, hrest⟩ := List.forall_mem_cons.1 hexplained
    obtain ⟨hentries, picked, hripe, hnames, hnumbers⟩ := ih hothers hrest
    have hreason : p.reason number lives w₁ = .ok reason := hreason
    have hsome : reason.isSome = p.isRipe ⟨name, number, lives, w₁⟩ := isSome_of_reason hreason
    have hasked : (p.reasonToReap number).runFrom w = (.ok reason, w₁) := by
      simp only [reasonToReap, runFrom_bind, halive, runFrom_look, id, runFrom_ofExcept, hreason]
    refine ⟨congrArg _ hentries, ?_⟩
    -- both ask the same child in the same world, so a reason stands where the finding is ripe
    rw [ripe]
    simp only [runFrom_bind, hasked, hripe]
    cases reason with
    | none =>
      rw [List.filter_cons_of_neg (by simp [← hsome])]
      exact ⟨picked, rfl, hnames, hnumbers⟩
    | some reason =>
      rw [List.filter_cons_of_pos (by simp [← hsome])]
      exact ⟨(name, number, reason) :: picked, rfl, congrArg _ hnames, congrArg _ hnumbers⟩

/-- The roster is gone over to its end only if all is explained. -/
theorem isExplained_of_ripe {entries : List (String × Nat)} {found : List (Finding σ τ)}
    {w w' w'' : World σ τ} {picked : List (String × Nat × String)}
    (h : (p.scan entries).runFrom w = (.ok found, w'))
    (hripe : (p.ripe entries).runFrom w = (.ok picked, w'')) : ∀ f ∈ found, p.IsExplained f := by
  induction entries generalizing w w'' found picked with
  | nil =>
    cases h
    exact fun f hf => absurd hf List.not_mem_nil
  | cons e rest ih =>
    obtain ⟨name, number⟩ := e
    obtain ⟨lives, w₁, halive, h⟩ := exists_of_runFrom_bind h
    obtain ⟨_, _, ⟨⟩, h⟩ := exists_of_runFrom_bind h
    obtain ⟨others, w₂, hothers, ⟨⟩⟩ := exists_of_runFrom_bind h
    obtain ⟨reason, w₃, hreason, hripe⟩ := exists_of_runFrom_bind hripe
    obtain ⟨lives', w₄, halive', hreason⟩ := exists_of_runFrom_bind hreason
    cases halive.symm.trans halive'
    obtain ⟨_, _, ⟨⟩, hreason⟩ := exists_of_runFrom_bind hreason
    rw [runFrom_ofExcept] at hreason
    obtain ⟨hsaid, rfl⟩ := Prod.mk.inj hreason
    obtain ⟨rest', w₅, hrest, -⟩ := exists_of_runFrom_bind hripe
    exact List.forall_mem_cons.2 ⟨⟨reason, hsaid⟩, ih hothers hrest⟩

/-! ## Closing what is ripe -/

variable (p)

/-- **Sessions are closed**, one after the other and each of them once, whether or not that fails;
and it ends. Besides, records are written and names are dropped, and nothing else is done. -/
inductive Closes : List Nat → World σ τ → World σ τ → Prop
  | done (w : World σ τ) : Closes [] w w
  | record {numbers : List Nat} {w w' : World σ τ} (r : LogRecord) :
    Closes numbers { w with system := p.system.record r w.system } w' → Closes numbers w w'
  | drop {numbers : List Nat} {w w' : World σ τ} (name : String) :
    Closes numbers { w with roster := w.roster.drop name } w' → Closes numbers w w'
  | close {numbers : List Nat} {w w' : World σ τ} (number : Nat) :
    ((p.withHost number Host.close).runFrom w).1 ≠ .error (.session (.render .endless)) →
      Closes numbers ((p.withHost number Host.close).runFrom w).2 w' →
        Closes (number :: numbers) w w'

/-- The tab stops of a session. -/
def tabStops (w : World σ τ) (number : Nat) : TabStops :=
  TabStops.ofNumber ((p.hostAt w number).session w).settings.tabSize

omit [TimeScale τ] in
/-- They are kept with its seat. -/
theorem tabStops_of_seats {w w' : World σ τ} (h : w'.seats = w.seats) (number : Nat) :
    p.tabStops w' number = p.tabStops w number := by
  have hsettings : ((p.hostAt w' number).session w').settings =
      ((p.hostAt w number).session w).settings := by
    simp only [hostAt, h]
    exact p.settings_host_of_seats h
  rw [tabStops, tabStops, hsettings]

/-- **Closing a session ends** where its tab stops are reached. -/
theorem withHost_close_ne_endless {w : World σ τ} {number : Nat}
    (hstops : (p.tabStops w number).AreReached) :
    ((p.alone.withHost number Host.close).runFrom w).1 ≠
      .error (.session (.render .endless)) := by
  have hkept : ∀ k₁ k₂, (p.alone.hostAt w number).isAlive.runFrom w = (.ok true, k₁) →
      (p.alone.hostAt w number).sendEnd.runFrom k₁ = (.ok (), k₂) →
        (TabStops.ofNumber ((p.alone.hostAt w number).session k₂).settings.tabSize).AreReached := by
    intro k₁ k₂ hask hsend
    have hasked : w.SameButSystem ((p.alone.hostAt w number).isAlive.runFrom w).2 :=
      onSystem_sameButSystem _ w
    have hended : k₁.SameButSystem ((p.alone.hostAt w number).sendEnd.runFrom k₁).2 :=
      onSystem_sameButSystem _ k₁
    rw [hask] at hasked
    rw [hsend] at hended
    have hsettings : ((p.alone.hostAt w number).session k₂).settings =
        ((p.alone.hostAt w number).session w).settings :=
      p.alone.settings_host_of_seats (hended.seats.trans hasked.seats)
    rw [hsettings]
    exact hstops
  intro hrun
  simp only [withHost, runFrom_bind, runFrom_look, runFrom_mapFault] at hrun
  cases hclose : (p.alone.hostAt w number).close.runFrom w with
  | mk r w' =>
    rw [hclose] at hrun
    cases r with
    | ok closed => cases hrun
    | error f =>
      cases hrun
      exact (p.alone.hostAt w number).close_ne_endless hkept w' hclose

/-- A session that is closed quietly is closed. -/
theorem closes_closeQuietly (number : Nat) (what : String) {numbers : List Nat}
    {w w' : World σ τ}
    (hends : ((p.withHost number Host.close).runFrom w).1 ≠ .error (.session (.render .endless)))
    (h : p.Closes numbers ((p.closeQuietly number what).runFrom w).2 w') :
    p.Closes (number :: numbers) w w' := by
  refine .close number hends ?_
  rw [closeQuietly, runFrom_bind, runFrom_attempt] at h
  cases hclose : ((p.withHost number Host.close).runFrom w).1 with
  | ok closed =>
    rw [hclose] at h
    exact h
  | error f =>
    rw [hclose] at h
    exact .record _ h

/-- What is picked is closed, and its names are dropped. -/
theorem exists_reapAll (picked : List (String × Nat × String)) (w : World σ τ) :
    ∃ w', (p.alone.reapAll picked).runFrom w = (.ok (), w') ∧
      ((∀ number ∈ picked.map (·.2.1), (p.tabStops w number).AreReached) →
        p.alone.Closes (picked.map (·.2.1)) w w') ∧
      w'.roster = (picked.map (·.1)).foldl Roster.drop w.roster ∧
      w'.seats = w.seats ∧ w'.isReaping = w.isReaping := by
  induction picked generalizing w with
  | nil => exact ⟨w, rfl, fun _ => .done w, rfl, rfl, rfl⟩
  | cons e rest ih =>
    obtain ⟨name, number, reason⟩ := e
    let notice : LogRecord := ⟨.info, .manager, s!"Reaping session {name} ({reason})"⟩
    let w₁ : World σ τ := { w with system := p.system.record notice w.system }
    obtain ⟨w₂, hclose⟩ :=
      p.alone.exists_closeQuietly_eq_ok number s!"reaped session {name}" w₁
    have hsame := p.closeQuietly_sameButSystem number s!"reaped session {name}" w₁
    rw [hclose] at hsame
    -- the rest starts from wherever closing the first session has led, less its name
    obtain ⟨w', hrun, hcloses, hroster, hseats, hreaping⟩ :=
      ih { w₂ with roster := w₂.roster.drop name }
    refine ⟨w', ?_, ?_, ?_, hseats.trans hsame.seats, hreaping.trans hsame.isReaping⟩
    · have hnote : (p.alone.note .info s!"Reaping session {name} ({reason})").runFrom w =
          (.ok (), w₁) := rfl
      simp only [reapAll, runFrom_bind, hnote, hclose, onRoster, runFrom_change, hrun]
    · intro hstops
      have hseats : w₁.seats = w.seats := rfl
      have hreached : (p.tabStops w₁ number).AreReached := by
        rw [p.tabStops_of_seats hseats]
        exact hstops number List.mem_cons_self
      have hends := p.withHost_close_ne_endless hreached
      have hdropped : p.alone.Closes (rest.map (·.2.1))
          ((p.alone.closeQuietly number s!"reaped session {name}").runFrom w₁).2 w' := by
        rw [hclose]
        refine .drop name (hcloses fun n hn => ?_)
        have hseats₂ : w₂.seats = w.seats := hsame.seats
        have hkept : p.tabStops { w₂ with roster := w₂.roster.drop name } n = p.tabStops w n :=
          p.tabStops_of_seats hseats₂ n
        rw [hkept]
        exact hstops n (List.mem_cons_of_mem number hn)
      exact .record notice (p.alone.closes_closeQuietly number _ hends hdropped)
    · rw [hroster, hsame.roster]
      rfl

end Pool

/-! ## The two parts of the roster -/

namespace Pool

variable [TimeScale τ] (p : Pool σ ρ τ)

/-- What is found ripe is closed, if all that is found can be explained. -/
theorem exists_reap {w w₁ : World σ τ} {found : List (Finding σ τ)}
    (hscan : (p.alone.scan w.roster.entries).runFrom w = (.ok found, w₁))
    (hexplained : ∀ f ∈ found, p.alone.IsExplained f)
    (hstops : ∀ e ∈ w.roster.entries, (p.tabStops w e.2).AreReached) :
    ∃ w', p.alone.reap.runFrom w = (.ok ((found.filter p.alone.isRipe).map (·.name)), w') ∧
      p.alone.Closes ((found.filter p.alone.isRipe).map (·.number)) w₁ w' ∧
      w'.roster = ((found.filter p.alone.isRipe).map (·.name)).foldl Roster.drop w.roster ∧
      w'.seats = w.seats ∧ w'.isReaping = w.isReaping := by
  obtain ⟨hentries, picked, hripe, hpicked, hnumbers⟩ := exists_ripe hscan hexplained
  obtain ⟨w', hreap, hcloses, hroster, hseats, hreaping⟩ := p.exists_reapAll picked w₁
  have hsame := p.scan_sameButSystem w.roster.entries w
  rw [hscan] at hsame
  have hreached : ∀ number ∈ picked.map (·.2.1), (p.tabStops w₁ number).AreReached := by
    intro number hnumber
    rw [hnumbers, List.mem_map] at hnumber
    obtain ⟨f, hf, rfl⟩ := hnumber
    have hentry : f.entry ∈ w.roster.entries :=
      hentries ▸ List.mem_map_of_mem (List.mem_filter.1 hf).1
    rw [p.tabStops_of_seats hsame.seats]
    exact hstops f.entry hentry
  refine ⟨w', ?_, hnumbers ▸ hcloses hreached, ?_, hseats.trans hsame.seats,
    hreaping.trans hsame.isReaping⟩
  · rw [← hpicked, reap]
    simp only [runFrom_bind, entries, runFrom_look, hripe, hreap, runFrom_pure]
  · rw [hroster, hpicked, hsame.roster]

/-- What keeps the roster from being gone over: a child that does not answer, or a limit that cannot
be written. -/
theorem faults_ripe (entries : List (String × Nat)) :
    (p.ripe entries).Faults fun f => (∃ g, f = .session g) ∨ p.options.Unwritable f := by
  induction entries with
  | nil => exact faults_pure _
  | cons e rest ih =>
    refine .bind (.bind ?_ fun lives => ?_) fun reason => ih.bind fun others => faults_pure _
    · exact fun w => faults_mapFault (fun g => .inl ⟨g, rfl⟩) _ w
    · refine (faults_look _).bind fun w => faults_ofExcept fun f hf => .inr ?_
      exact unwritable_of_reason (f := ⟨e.1, e.2, lives, w⟩) hf

theorem ripe_sameButSystem (entries : List (String × Nat)) :
    (p.alone.ripe entries).Within World.SameButSystem := by
  induction entries with
  | nil => exact within_pure _
  | cons e rest ih =>
    refine .bind ?_ fun reason => ih.bind fun others => within_pure _
    exact (p.isAlive_sameButSystem e.2).bind fun lives => (within_look _).bind fun w =>
      within_ofExcept _

/-- **When reaping fails**, it does so while it goes over the roster: a child does not answer, or a
session has passed a limit that cannot be written. Nothing has changed but the system. -/
theorem reap_eq_error {w w' : World σ τ} {f : PoolFault}
    (hrun : p.alone.reap.runFrom w = (.error f, w')) :
    (p.alone.ripe w.roster.entries).runFrom w = (.error f, w') ∧ w.SameButSystem w' ∧
      ((∃ g, f = .session g) ∨ p.options.Unwritable f) := by
  have hscan : (p.alone.ripe w.roster.entries).runFrom w = (.error f, w') := by
    cases hripe : (p.alone.ripe w.roster.entries).runFrom w with
    | mk result w₁ =>
      cases result with
      | error g =>
        simp only [reap, runFrom_bind, entries, runFrom_look, hripe] at hrun
        cases hrun
        rfl
      | ok picked =>
        obtain ⟨w₂, hreap, -⟩ := p.exists_reapAll picked w₁
        simp only [reap, runFrom_bind, entries, runFrom_look, hripe, hreap] at hrun
        cases hrun
  have hsame := p.ripe_sameButSystem w.roster.entries w
  rw [hscan] at hsame
  exact ⟨hscan, hsame, p.alone.faults_ripe _ _ _ _ hscan⟩

/-- **Reaping comes to its end exactly if all that it finds can be explained**, where each child
answers and tab stops are reached. -/
theorem exists_reap_eq_ok_iff {w w₁ : World σ τ} {found : List (Finding σ τ)}
    (hscan : (p.alone.scan w.roster.entries).runFrom w = (.ok found, w₁))
    (hstops : ∀ e ∈ w.roster.entries, (p.tabStops w e.2).AreReached) :
    (∃ names w', p.alone.reap.runFrom w = (.ok names, w') ∧
      p.alone.Closes ((found.filter p.alone.isRipe).map (·.number)) w₁ w') ↔
        ∀ f ∈ found, p.alone.IsExplained f := by
  constructor
  · rintro ⟨names, w', hrun, -⟩
    obtain ⟨entries, _, ⟨⟩, hrun⟩ := exists_of_runFrom_bind hrun
    obtain ⟨picked, w₂, hripe, -⟩ := exists_of_runFrom_bind hrun
    exact isExplained_of_ripe hscan hripe
  · intro hexplained
    obtain ⟨w', hreap, hcloses, -⟩ := p.exists_reap hscan hexplained hstops
    exact ⟨_, w', hreap, hcloses⟩

/-! ## A roster of all kinds -/

/-- A session that was started and last used at given times. -/
def seated (name : String) (created used : Int) (process : Nat) : Seat Int :=
  ⟨{ (attentive.opening name "sh" none none).session created with lastUsed := used }, process⟩

end Pool

end Teletype
