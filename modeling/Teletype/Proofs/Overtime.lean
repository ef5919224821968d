import Mathlib
import Teletype.Proofs.Cutting
import Teletype.Proofs.Delivery
import Teletype.Proofs.LineByLine
import Teletype.Proofs.Turns

/-!
# How long a capture takes

A capture has a deadline, and looks at the clock before each read of its child: it begins no read at
the deadline or later. It does not look at the clock while it waits. A read that began in time may
take as long as the child may be silent, and so a capture ends before its deadline, that time added
(`Host.capture_clock`). This holds for every child that is *punctual*: to wait for its output takes
no longer than the reader allows, and nothing else takes any time. Scripted children are punctual,
unless they make their reader wait twice in a row (`Pool.punctual`).

There is no better bound. A child that has little to say, and takes its time for it, can be read
until just before the deadline and be silent then. The longest wait of the settings is therefore no
ceiling of what a capture takes, but for captures that allow no silence at all
(`Settings.isCeiling_maxWait_iff`).
-/

namespace Teletype

open Teletype.Action

/-! ## Exact times -/

namespace TimeScale

/-- **A scale on which times are exact**: an ordered group, with its sums, differences and order. No
number is too large to be added to a time there. -/
class IsExact (τ : Type) [AddCommGroup τ] [LinearOrder τ] [TimeScale τ] : Prop where
  add_eq (a b : τ) : add a b = a + b
  sub_eq (a b : τ) : sub a b = a - b
  lt_iff {a b : τ} : lt a b = true ↔ a < b
  overflows_eq (t : τ) (n : Number) : overflows t n = false

instance : IsExact Int where
  add_eq _ _ := rfl
  sub_eq _ _ := rfl
  lt_iff := decide_eq_true_iff
  overflows_eq _ _ := rfl

/-- The scale of rational numbers of seconds. What stands nowhere among them counts as zero. -/
instance : TimeScale ℚ where
  add := (· + ·)
  sub := (· - ·)
  lt a b := decide (a < b)
  ofNumber n := match n.place? with
    | some ((x : ℚ) : WithTop ℚ) => x
    | _ => 0
  overflows _ _ := false
  exceeds x n := match n.place? with
    | some limit => decide (limit < ((x : WithTop ℚ) : NumberLine))
    | none => false
  roundTenth x :=
    let tenths : ℚ := Double.roundDiv (10 * x.num.natAbs) x.den / 10
    if x < 0 then -tenths else tenths

instance : IsExact ℚ where
  add_eq _ _ := rfl
  sub_eq _ _ := rfl
  lt_iff := decide_eq_true_iff
  overflows_eq _ _ := rfl

/-- A whole number of seconds. -/
theorem ofNumber_int (n : Int) : (ofNumber (.int n) : ℚ) = n := by
  simp only [ofNumber, Number.place?_int]

end TimeScale

/-- How long a capture waits for its child to say something: for a time that is asked for, or as the
settings have it. -/
def Settings.patience {τ : Type} [TimeScale τ] (c : Settings) (time : Option τ) : τ :=
  time.getD (TimeScale.ofNumber c.idleTimeout)

section Exact

variable {τ : Type} [AddCommGroup τ] [LinearOrder τ]

/-- A time in equal steps: some stay below it and one more does not. -/
theorem TimeScale.exists_nsmul_lt_le [Archimedean τ] {wait most : τ} (hwait : 0 < wait)
    (hmost : 0 < most) : ∃ count : Nat, count • wait < most ∧ most ≤ (count + 1) • wait := by
  have hreach : ∃ count : Nat, most ≤ count • wait := Archimedean.arch most hwait
  have hfound := Nat.find_spec hreach
  cases hcount : Nat.find hreach with
  | zero =>
    rw [hcount, zero_nsmul] at hfound
    exact absurd hfound (not_le.2 hmost)
  | succ count =>
    rw [hcount] at hfound
    have hbelow : count < Nat.find hreach := by omega
    exact ⟨count, not_le.1 (Nat.find_min hreach hbelow), hfound⟩

namespace Host

variable {κ : Type} {h : Host κ τ} {idle deadline : τ} {there : κ → Prop}

/-! ## Punctual children -/

/-- **A punctual child**, in the states that count: to wait for its output takes no longer than it
may, and neither sending nor logging takes any time. -/
structure Punctual (h : Host κ τ) (idle : τ) (there : κ → Prop) : Prop where
  read : ∀ {k k' : κ} {r : Except ChildFault Chunk}, there k → (h.read idle).runFrom k = (r, k') →
    there k' ∧ h.now k ≤ h.now k' ∧ h.now k' ≤ h.now k + idle
  send : ∀ {v : Value} {k k' : κ} {r : Except ChildFault Unit}, there k →
    (h.send v).runFrom k = (r, k') → there k' ∧ h.now k' = h.now k
  record : ∀ {r : LogRecord} {k : κ}, there k →
    there (h.record r k) ∧ h.now (h.record r k) = h.now k

variable [TimeScale τ] {c : Settings} {prompt : Option PromptPattern} {p q : Progress} {k k' : κ}
  {ds : List Dealing}

/-- A piece of output takes no longer to come than it may. -/
theorem Punctual.meets (hpunctual : h.Punctual idle there) (hthere : there k) {chunk : Chunk}
    (hmeets : h.Meets idle deadline k chunk k') : there k' ∧ h.now k' ≤ h.now k + idle := by
  obtain ⟨hstays, -, hle⟩ := hpunctual.read hthere hmeets.read
  exact ⟨hstays, hle⟩

/-- **A turn that goes on takes no longer than a wait.** -/
theorem GoesOn.clock_le (hgoes : h.GoesOn c prompt idle deadline p k ds q k')
    (hpunctual : h.Punctual idle there) (hthere : there k) :
    there k' ∧ h.now k' ≤ h.now k + idle := by
  cases hgoes with
  | empty hmeets _ => exact hpunctual.meets hthere hmeets
  | text hmeets _ _ => exact hpunctual.meets hthere hmeets.toMeets
  | dismissed hmeets _ _ hkey =>
    obtain ⟨hstays, hle⟩ := hpunctual.meets hthere hmeets.toMeets
    obtain ⟨hstays', hsame⟩ := hpunctual.send hstays hkey
    exact ⟨hstays', hsame.trans_le hle⟩

variable [IsOrderedAddMonoid τ]

/-- **Nor does a turn that ends a read.** -/
theorem Stops.clock_le {r : Except SessionFault (Progress × Bool)}
    (hstops : h.Stops c prompt idle deadline p k ds r k') (hpunctual : h.Punctual idle there)
    (hidle : 0 ≤ idle) (hthere : there k) : h.now k' ≤ h.now k + idle := by
  have hnoted : ∀ {k₁ : κ} {chunk : Chunk} {note : LogRecord},
      h.Meets idle deadline k chunk k₁ → h.now (h.record note k₁) ≤ h.now k + idle := by
    intro k₁ chunk note hmeets
    obtain ⟨hstays, hle⟩ := hpunctual.meets hthere hmeets
    exact (hpunctual.record hstays).2.trans_le hle
  cases hstops with
  | late _ => exact le_add_of_nonneg_right hidle
  | silent hread _ => exact (hpunctual.read hthere hread).2.2
  | broken hread _ => exact (hpunctual.read hthere hread).2.2
  | paused hmeets _ => exact hnoted hmeets.toMeets
  | full hmeets _ => exact hnoted hmeets.toMeets
  | refused hmeets hkey =>
    obtain ⟨hstays, hle⟩ := hpunctual.meets hthere hmeets.toMeets
    exact (hpunctual.send hstays hkey).2.trans_le hle
  | shown hmeets _ => exact (hpunctual.meets hthere hmeets.toMeets).2
  | unseen hmeets _ => exact (hpunctual.meets hthere hmeets.toMeets).2
  | unlimited hmeets _ _ => exact (hpunctual.meets hthere hmeets).2

variable [TimeScale.IsExact τ]

/-- **A read ends before its deadline, one wait added**, unless it takes no time at all. -/
theorem readOn_clock (hpunctual : h.Punctual idle there) (hidle : 0 ≤ idle) (hthere : there k)
    (reads : Nat) (p : Progress) (l : List Dealing) :
    let k' := ((h.recorded.readOn c prompt idle deadline reads p).runFrom (k, l)).2.1
    h.now k' ≤ h.now k ∨ h.now k' < deadline + idle := by
  induction reads generalizing k p l with
  | zero => exact .inl le_rfl
  | succ reads ih =>
    intro k'
    -- `Stops` does not say that the last read began in time, so the clock is looked at here
    cases htime : TimeScale.lt (h.now k) deadline with
    | false =>
      have hlate : TimeScale.lt (h.recorded.now (k, l)) deadline = false := htime
      have hend : (h.recorded.readOn c prompt idle deadline (reads + 1) p).runFrom (k, l) =
          (.ok (p, false), (k, l)) := readOn_late hlate (reads + 1) p
      simp only [k', hend]
      exact .inl le_rfl
    | true =>
      have hearly : h.now k < deadline := TimeScale.IsExact.lt_iff.1 htime
      have hover : ∀ {t : τ}, t ≤ h.now k + idle → t < deadline + idle := by
        intro t ht
        exact ht.trans_lt (add_lt_add_left hearly idle)
      rcases h.readOn_turn c prompt idle deadline p k with
        ⟨ds, q, k₁, hgoes, hturn⟩ | ⟨ds, r, k₁, hstops, hturn⟩
      · obtain ⟨hstays, hle⟩ := hgoes.clock_le hpunctual hthere
        simp only [k', hturn]
        rcases ih hstays q (l ++ ds) with hback | hrest
        · exact .inr (hover (hback.trans hle))
        · exact .inr hrest
      · simp only [k', hturn]
        exact .inr (hover (hstops.clock_le hpunctual hidle hthere))

/-- **When a capture ends**, whether it returns or fails: before the longest wait of the settings
and one more wait for its child have passed, unless it takes no time at all. -/
theorem capture_clock (time : Option τ) (prompt : Option PromptPattern)
    (hpunctual : h.Punctual ((h.session k).settings.patience time) there)
    (hidle : 0 ≤ (h.session k).settings.patience time) (hthere : there k) :
    let k' := ((h.capture time prompt).runFrom k).2
    h.now k' ≤ h.now k ∨
      h.now k' < h.now k + TimeScale.ofNumber (h.session k).settings.maxWait +
        (h.session k).settings.patience time := by
  intro k'
  let c := (h.session k).settings
  let deadline := h.now k + TimeScale.ofNumber c.maxWait
  let reads := h.readLimit (limitSize c.maxBuffer) k
  have hread : k' =
      ((h.readOn c prompt (c.patience time) deadline reads .start).runFrom k).2 := by
    have hfits := TimeScale.IsExact.overflows_eq (h.now k) c.maxWait
    simp only [k', runFrom_capture, reading_of_fits hfits, TimeScale.IsExact.add_eq]
    rfl
  obtain ⟨ds, hrecorded, -⟩ :=
    h.enters_readOn c prompt (c.patience time) deadline reads .start k
  have hclock : h.now ((h.recorded.readOn c prompt (c.patience time) deadline reads .start).runFrom
        (k, [])).2.1 ≤ h.now k ∨
      h.now ((h.recorded.readOn c prompt (c.patience time) deadline reads .start).runFrom
        (k, [])).2.1 < deadline + c.patience time :=
    readOn_clock hpunctual hidle hthere reads .start []
  rw [hrecorded, ← hread] at hclock
  exact hclock

end Host

/-! ## Scripted children -/

section Stages

variable {ρ ο : Type}

/-- Something to read that does not make its reader wait. -/
def Item.IsReady : Item ρ τ → Prop
  | .wait _ _ => False
  | _ => True

/-- Something to read that makes its reader wait once at most. -/
def Item.IsTimely : Item ρ τ → Prop
  | .wait time item => 0 ≤ time ∧ item.IsReady
  | _ => True

/-- **A timely child**: nothing that it has to say, and no answer, makes its reader wait twice. -/
structure Process.IsTimely (q : Process ρ τ) : Prop where
  queue : ∀ item ∈ q.queue, item.IsTimely
  responses : ∀ answer ∈ q.responses, ∀ item ∈ answer.2, item.IsTimely

/-- It answers a value with something timely. -/
theorem Process.IsTimely.answerTo {q : Process ρ τ} (h : q.IsTimely) (v : Value) :
    ∀ item ∈ q.answerTo v, item.IsTimely := by
  intro item hitem
  rcases q.answerTo_cases v with hnone | ⟨t, hmem⟩
  · rw [hnone] at hitem
    exact absurd hitem List.not_mem_nil
  · exact h.responses _ hmem item hitem

namespace Stage

/-- A timely child is on a stage. -/
structure HasTimely (n : Nat) (s : Stage ρ ο τ) : Prop where
  size : n < s.processes.size
  process : (s.process n).IsTimely

variable {n : Nat} {s : Stage ρ ο τ}

/-- A child stays timely when its answers stay as they are and what it has to say is timely. -/
theorem HasTimely.modify (h : s.HasTimely n) {f : Process ρ τ → Process ρ τ}
    (hqueue : ∀ item ∈ (f (s.process n)).queue, item.IsTimely)
    (hresponses : (f (s.process n)).responses = (s.process n).responses) :
    (s.modify n f).HasTimely n := by
  refine ⟨by rw [size_modify]; exact h.size, ?_⟩
  rw [process_modify h.size]
  exact ⟨hqueue, by rw [hresponses]; exact h.process.responses⟩

variable [TimeScale τ]

/-- What is ready is delivered at once. -/
theorem HasTimely.deliver_ready (h : s.HasTimely n) (timeout : τ) {item : Item ρ τ}
    {rest : List (Item ρ τ)} (hitem : item.IsReady) (hrest : ∀ item ∈ rest, item.IsTimely) :
    (deliver n timeout rest item s).2.HasTimely n ∧
      (deliver n timeout rest item s).2.clock = s.clock := by
  have htaken : (s.modify n fun p => { p with queue := rest }).HasTimely n := h.modify hrest rfl
  cases item with
  | wait time item => exact absurd hitem id
  | exit status =>
    exact ⟨htaken.modify (f := fun p => p.exit status) htaken.process.queue rfl, rfl⟩
  | signal signal =>
    exact ⟨htaken.modify (f := fun p => p.kill signal) htaken.process.queue rfl, rfl⟩
  | _ => exact ⟨htaken, rfl⟩

variable [IsOrderedAddMonoid τ] [TimeScale.IsExact τ]

/-- **A read of a timely child takes no longer than it may.** -/
theorem HasTimely.read (h : s.HasTimely n) {timeout : τ} (htimeout : 0 ≤ timeout) :
    let s' := ((read n timeout).runFrom s).2
    s'.HasTimely n ∧ s.clock ≤ s'.clock ∧ s'.clock ≤ s.clock + timeout := by
  have hlater : s.clock ≤ s.clock + timeout := le_add_of_nonneg_right htimeout
  have hpassed : (s.advance timeout).clock = s.clock + timeout := TimeScale.IsExact.add_eq _ _
  intro s'
  cases hqueue : (s.process n).queue with
  | nil =>
    simp only [s', Stage.read, runFrom_ofRun, hqueue]
    split
    · exact ⟨⟨h.size, h.process⟩, hpassed.symm ▸ hlater, hpassed.le⟩
    · exact ⟨h, le_rfl, hlater⟩
  | cons item rest =>
    simp only [s', Stage.read, runFrom_ofRun, hqueue]
    have htimely := h.process.queue
    rw [hqueue, List.forall_mem_cons] at htimely
    obtain ⟨hitem, hrest⟩ := htimely
    have hready : item.IsReady → (deliver n timeout rest item s).2.HasTimely n ∧
        s.clock ≤ (deliver n timeout rest item s).2.clock ∧
        (deliver n timeout rest item s).2.clock ≤ s.clock + timeout := by
      intro hready
      obtain ⟨hstays, hsame⟩ := h.deliver_ready timeout hready hrest
      exact ⟨hstays, hsame.ge, hsame.trans_le hlater⟩
    cases item with
    | wait time item =>
      obtain ⟨htime, hready⟩ := hitem
      rw [deliver]
      split
      · rename_i hlonger
        have hleft : 0 ≤ TimeScale.sub time timeout := by
          rw [TimeScale.IsExact.sub_eq, sub_nonneg]
          exact (TimeScale.IsExact.lt_iff.1 hlonger).le
        have hwaits : (s.modify n fun p =>
            { p with queue := .wait (TimeScale.sub time timeout) item :: rest }).HasTimely n :=
          h.modify (List.forall_mem_cons.2 ⟨⟨hleft, hready⟩, hrest⟩) rfl
        exact ⟨⟨hwaits.size, hwaits.process⟩, hpassed.symm ▸ hlater, hpassed.le⟩
      · rename_i hshorter
        have hle : time ≤ timeout := not_lt.1 fun hlt => hshorter (TimeScale.IsExact.lt_iff.2 hlt)
        have hwaited : (s.advance time).HasTimely n := ⟨h.size, h.process⟩
        obtain ⟨hstays, hsame⟩ := hwaited.deliver_ready timeout hready hrest
        have hclock : (s.advance time).clock = s.clock + time := TimeScale.IsExact.add_eq _ _
        rw [hclock] at hsame
        rw [hsame]
        exact ⟨hstays, le_add_of_nonneg_right htime, add_le_add_right hle s.clock⟩
    | _ => exact hready trivial

omit [IsOrderedAddMonoid τ] [TimeScale.IsExact τ] in
/-- What is sent to a timely child takes no time. -/
theorem HasTimely.send (h : s.HasTimely n) (weigh : ρ → Nat) (v : Value) :
    let s' := (((child weigh n).send v).runFrom s).2
    s'.HasTimely n ∧ s'.clock = s.clock := by
  simp only [child, act, runFrom_bind, runFrom_look, runFrom_change]
  cases (s.process n).script.hooks.onSend with
  | some f => exact ⟨⟨h.size, h.process⟩, rfl⟩
  | none =>
    have hentered : (s.enter (.event n (.send v))).HasTimely n := ⟨h.size, h.process⟩
    refine ⟨hentered.modify (f := fun p => p.enqueue (p.answerTo v)) ?_ rfl, rfl⟩
    intro item hitem
    rcases List.mem_append.1 hitem with hqueued | hanswered
    · exact h.process.queue item hqueued
    · exact h.process.answerTo v item hanswered

end Stage

namespace Pool

variable [TimeScale τ] [IsOrderedAddMonoid τ] [TimeScale.IsExact τ]

/-- **Timely children are punctual.** -/
theorem punctual (weigh : ρ → Nat) (options : PoolOptions)
    (serve : ρ → World (Stage ρ ο τ) τ → World (Stage ρ ο τ) τ) (number n : Nat) {idle : τ}
    (hidle : 0 ≤ idle) :
    ((onStage weigh options serve).alone.host number n).Punctual idle
      fun w => w.system.HasTimely n where
  read hthere hread := by
    have hrun := (runFrom_read_alone weigh options serve idle _).symm.trans hread
    obtain ⟨-, rfl⟩ := Prod.mk.inj hrun
    exact hthere.read hidle
  send hthere hsend := by
    obtain ⟨-, rfl⟩ := Prod.mk.inj hsend
    exact hthere.send weigh _
  record hthere := ⟨⟨hthere.size, hthere.process⟩, rfl⟩

end Pool

/-! ## A child that takes its time -/

/-- A child that brings nothing, some times in a row, and makes its reader wait for it each time. -/
structure Process.Dawdles (q : Process ρ τ) (wait : τ) (count : Nat) : Prop where
  queue : q.queue = List.replicate count (.wait wait (.text []))
  isAlive : q.isAlive = true

namespace Pool

variable [TimeScale τ] [IsOrderedAddMonoid τ] [TimeScale.IsExact τ] (weigh : ρ → Nat)
  (options : PoolOptions) (serve : ρ → World (Stage ρ ο τ) τ → World (Stage ρ ο τ) τ) (number : Nat)
  {n : Nat}

/-- **It is waited for in vain until it is silent**, if there is time for it, and then once more. -/
theorem readOn_dawdles {c : Settings} {prompt : Option PromptPattern} {idle deadline wait : τ}
    (hwait : 0 ≤ wait) (hle : wait ≤ idle) {count : Nat} {w : World (Stage ρ ο τ) τ}
    (hn : n < w.system.processes.size) (hdawdles : (w.system.process n).Dawdles wait count)
    (hearly : w.system.clock + count • wait < deadline) {reads : Nat} (hreads : count < reads)
    (p : Progress) :
    ∃ w', (((onStage weigh options serve).alone.host number n).readOn c prompt idle deadline reads
        p).runFrom w = (.ok (p, false), w') ∧
      w'.system.clock = w.system.clock + count • wait + idle := by
  induction count generalizing w reads with
  | zero =>
    obtain ⟨reads, rfl⟩ := Nat.exists_eq_succ_of_ne_zero (Nat.ne_of_gt hreads)
    rw [zero_nsmul, add_zero] at hearly ⊢
    have htime : TimeScale.lt (((onStage weigh options serve).alone.host number n).now w) deadline =
        true := TimeScale.IsExact.lt_iff.2 hearly
    have hsilent : (((onStage weigh options serve).alone.host number n).read idle).runFrom w =
        (.error Stage.silent, { w with system := w.system.advance idle }) := by
      refine (runFrom_read_alone weigh options serve idle w).trans ?_
      simp only [Stage.read, runFrom_ofRun, hdawdles.queue, List.replicate_zero, hdawdles.isAlive,
        if_true]
      rfl
    exact ⟨_, Host.readOn_none htime (Host.readPiece_of_silent hsilent rfl) reads p,
      TimeScale.IsExact.add_eq _ _⟩
  | succ count ih =>
    obtain ⟨reads, rfl⟩ := Nat.exists_eq_succ_of_ne_zero (Nat.ne_of_gt (Nat.zero_lt_of_lt hreads))
    have hsplit : w.system.clock + (count + 1) • wait = w.system.clock + wait + count • wait := by
      rw [succ_nsmul', add_assoc]
    have hpast : w.system.clock ≤ w.system.clock + (count + 1) • wait :=
      le_add_of_nonneg_right (nsmul_nonneg hwait _)
    have htime : TimeScale.lt (((onStage weigh options serve).alone.host number n).now w) deadline =
        true := TimeScale.IsExact.lt_iff.2 (hpast.trans_lt hearly)
    have hshort : ¬TimeScale.lt idle wait = true := fun hlt =>
      not_lt.2 hle (TimeScale.IsExact.lt_iff.1 hlt)
    let rest : List (Item ρ τ) := List.replicate count (.wait wait (.text []))
    let w₁ : World (Stage ρ ο τ) τ :=
      { w with system := (w.system.advance wait).modify n fun q => { q with queue := rest } }
    have hread : (((onStage weigh options serve).alone.host number n).read idle).runFrom w =
        (.ok (.text []), w₁) := by
      refine (runFrom_read_alone weigh options serve idle w).trans ?_
      simp only [Stage.read, runFrom_ofRun, hdawdles.queue, List.replicate_succ, Stage.deliver,
        if_neg hshort]
      rfl
    have hclock : w₁.system.clock = w.system.clock + wait := TimeScale.IsExact.add_eq _ _
    have hn₁ : n < w₁.system.processes.size := by
      rw [Stage.size_modify]
      exact hn
    have hdawdles₁ : (w₁.system.process n).Dawdles wait count := by
      have hprocess := Stage.process_modify (s := w.system.advance wait) hn
        fun q => { q with queue := rest }
      exact hprocess ▸ ⟨rfl, hdawdles.isAlive⟩
    rw [hsplit, ← hclock] at hearly ⊢
    obtain ⟨w', hrest, hend⟩ := ih hn₁ hdawdles₁ hearly (Nat.lt_of_succ_lt_succ hreads)
    have hpiece := Host.readPiece_of_ok hread
    exact ⟨w', (Host.readOn_empty htime hpiece rfl reads p).trans hrest, hend⟩

end Pool

end Stages

/-- A world with one child, which has some things to say. -/
def World.saying (items : List (Item Empty τ)) : World (Stage Empty Empty τ) τ where
  system :=
    { clock := 0
      processes := #[({ Script.plain "sh" with initial := items } : Script Empty τ).process]
      scripts := []
      journal := [] }
  seats := #[]
  roster := .empty
  isReaping := false

theorem World.hasTimely_saying {items : List (Item Empty τ)}
    (hitems : ∀ item ∈ items, item.IsTimely) : (World.saying items).system.HasTimely 0 where
  size := Nat.zero_lt_one
  process :=
    { queue := hitems
      responses := fun _ hanswer => absurd hanswer List.not_mem_nil }

variable [TimeScale τ]

namespace Pool

/-- A session under some settings, with the child of a world. -/
def sole (c : Settings) : Host (World (Stage Empty Empty τ) τ) τ :=
  (onStage Empty.elim { silent.options with settings := c } fun _ w => w).alone.host 0 0

variable [IsOrderedAddMonoid τ] [TimeScale.IsExact τ]

theorem punctual_sole (c : Settings) {idle : τ} (hidle : 0 ≤ idle) :
    (sole c).Punctual idle fun w => w.system.HasTimely 0 :=
  punctual Empty.elim { silent.options with settings := c } (fun _ w => w) 0 0 hidle

/-- **A capture that is kept waiting** until just before its deadline, and then by a child that is
silent. -/
theorem capture_dawdling (c : Settings) (time : Option τ) {wait : τ} (hwait : 0 ≤ wait)
    (hle : wait ≤ c.patience time) {count : Nat}
    (hearly : count • wait < TimeScale.ofNumber c.maxWait) :
    ∃ captured w', ((sole c).capture time none).runFrom
        (.saying (List.replicate count (.wait wait (.text [])))) = (.ok captured, w') ∧
      w'.system.clock = count • wait + c.patience time := by
  let w : World (Stage Empty Empty τ) τ := .saying (List.replicate count (.wait wait (.text [])))
  have hdawdles : (w.system.process 0).Dawdles wait count := ⟨rfl, rfl⟩
  have hdeadline : w.system.clock + count • wait <
      TimeScale.add ((sole c).now w) (TimeScale.ofNumber c.maxWait) := by
    rw [TimeScale.IsExact.add_eq]
    exact add_lt_add_right hearly 0
  have hreads : count < (sole c).readLimit (limitSize c.maxBuffer) w := by
    have hitems : count ≤ (w.system.process 0).weight Empty.elim := by
      have hlength := Item.length_le_weights Empty.elim (w.system.process 0).queue
      rw [hdawdles.queue, List.length_replicate] at hlength
      exact hlength.trans ((Nat.le_add_right _ _).trans (Nat.le_add_right _ _))
    have hweight := Stage.weight_process_le (s := w.system) Nat.zero_lt_one Empty.elim
    calc count < w.system.weight Empty.elim + 1 := Nat.lt_succ_of_le (hitems.trans hweight)
      _ ≤ (w.system.weight Empty.elim + 1) * (limitSize c.maxBuffer + 2) :=
        Nat.le_mul_of_pos_right _ (Nat.succ_pos _)
  obtain ⟨w', hread, hclock⟩ := readOn_dawdles Empty.elim { silent.options with settings := c }
    (fun _ w => w) 0 hwait hle Nat.zero_lt_one hdawdles hdeadline hreads .start
  have hrendered : Progress.start.rendered c = .ok [] := by
    rw [Progress.rendered]
    refine (Screen.render_of_not_mem List.not_mem_nil).trans ?_
    exact congrArg (Except.map Line.visible) (Line.replay_nil _ Line.empty)
  refine ⟨⟨[], [], 0, false⟩, w', ?_, ?_⟩
  · have hfits :
        TimeScale.overflows ((sole c).now w) ((sole c).session w).settings.maxWait = false :=
      TimeScale.IsExact.overflows_eq _ _
    have hreading : ((sole c).reading time none w).runFrom w = (.ok (.start, false), w') := by
      rw [Host.reading_of_fits hfits]
      exact hread
    rw [Host.runFrom_capture, hreading]
    refine Prod.ext ?_ rfl
    change (Progress.start.finish c false).mapError SessionFault.render = _
    rw [Progress.finish, hrendered]
    rfl
  · rw [hclock]
    exact congrArg (· + c.patience time) (zero_add _)

end Pool

/-! ## The ceiling -/

namespace Settings

/-- **A ceiling of what a capture takes** under settings: whatever its child and the prompt that it
waits for, as long as the child is punctual, no more time passes until it returns. -/
def IsCeiling (c : Settings) (time : Option τ) (bound : τ) : Prop :=
  ∀ (κ : Type) (h : Host κ τ) (there : κ → Prop) (prompt : Option PromptPattern) (k k' : κ)
    (captured : Captured), h.Punctual (c.patience time) there → there k →
    (h.session k).settings = c → (h.capture time prompt).runFrom k = (.ok captured, k') →
    h.now k' ≤ h.now k + bound

variable [IsOrderedAddMonoid τ] [TimeScale.IsExact τ] {c : Settings} {time : Option τ}

/-- The longest wait of the settings and one wait for the child are a ceiling together. -/
theorem isCeiling_add (hmax : 0 < (TimeScale.ofNumber c.maxWait : τ))
    (hidle : 0 ≤ c.patience time) :
    c.IsCeiling time (TimeScale.ofNumber c.maxWait + c.patience time) := by
  rintro κ h there prompt k k' captured hpunctual hthere rfl hrun
  have hclock := Host.capture_clock time prompt hpunctual hidle hthere
  rw [hrun] at hclock
  rcases hclock with hback | hlate
  · exact hback.trans (le_add_of_nonneg_right (add_nonneg hmax.le hidle))
  · rw [← add_assoc]
    exact hlate.le

/-- **No ceiling is lower**, where a child may be silent for some time. -/
theorem le_of_isCeiling [DenselyOrdered τ] [Archimedean τ]
    (hmax : 0 < (TimeScale.ofNumber c.maxWait : τ)) (hidle : 0 < c.patience time) {bound : τ}
    (hbound : c.IsCeiling time bound) :
    TimeScale.ofNumber c.maxWait + c.patience time ≤ bound := by
  by_contra hlower
  have hgap : 0 < TimeScale.ofNumber c.maxWait + c.patience time - bound :=
    sub_pos.2 (not_le.1 hlower)
  -- waits so short that one of them fits into the gap, and as many as there is time for
  obtain ⟨wait, hwait, hshort⟩ := exists_between (lt_min hidle hgap)
  obtain ⟨count, hearly, hlate⟩ := TimeScale.exists_nsmul_lt_le hwait hmax
  have hpatient : wait ≤ c.patience time := hshort.le.trans (min_le_left _ _)
  have hfits : bound < TimeScale.ofNumber c.maxWait + c.patience time - wait :=
    lt_sub_comm.1 (hshort.trans_le (min_le_right _ _))
  obtain ⟨captured, w', hrun, hclock⟩ := Pool.capture_dawdling c time hwait.le hpatient hearly
  have htimely : ∀ item ∈ List.replicate count (Item.wait wait (.text [] : Item Empty τ)),
      item.IsTimely := by
    intro item hitem
    obtain rfl := List.eq_of_mem_replicate hitem
    exact ⟨hwait.le, trivial⟩
  have htook := hbound _ _ _ none _ w' captured (Pool.punctual_sole c hidle.le)
    (World.hasTimely_saying htimely) rfl hrun
  have htook' : count • wait + c.patience time ≤ bound := by
    rw [← hclock, ← zero_add bound]
    exact htook
  have hnear : TimeScale.ofNumber c.maxWait + c.patience time - wait ≤
      count • wait + c.patience time := by
    rw [succ_nsmul] at hlate
    rw [sub_le_iff_le_add, add_right_comm]
    exact add_le_add_left hlate _
  exact absurd (hfits.trans_le (hnear.trans htook')) (lt_irrefl bound)

/-- **The ceiling of what a capture takes.** On an exact scale, under settings with a positive
longest wait, that wait is a ceiling exactly if the capture allows its child no silence. If it
allows some, then the least ceiling is the longest wait and that silence together. -/
theorem isCeiling_maxWait_iff [DenselyOrdered τ] [Archimedean τ]
    (hmax : 0 < (TimeScale.ofNumber c.maxWait : τ)) (hidle : 0 ≤ c.patience time) :
    (c.IsCeiling time (TimeScale.ofNumber c.maxWait) ↔ c.patience time = 0) ∧
      (0 < c.patience time →
        IsLeast {bound | c.IsCeiling time bound}
          (TimeScale.ofNumber c.maxWait + c.patience time)) := by
  refine ⟨⟨fun hceiling => ?_, fun hnone => ?_⟩, fun hsome =>
    ⟨isCeiling_add hmax hidle, fun bound hbound => le_of_isCeiling hmax hsome hbound⟩⟩
  · by_contra hsome
    have hpositive : 0 < c.patience time := lt_of_le_of_ne hidle (Ne.symm hsome)
    have hle := le_of_isCeiling hmax hpositive hceiling
    exact absurd hle (not_le.2 (lt_add_of_pos_right _ hpositive))
  · have hceiling := isCeiling_add hmax hidle
    rwa [hnone, add_zero] at hceiling

end Settings

end Exact

namespace Settings

/-- Settings with a longest wait of four seconds, under which a child may be silent for three. -/
def leisurely : Settings :=
  { Pool.silent.options.settings with maxWait := .int 4, idleTimeout := .int 3 }

theorem isCeiling_maxWait_iff_leisurely :
    (TimeScale.ofNumber leisurely.maxWait : ℚ) = 4 ∧ leisurely.patience (none : Option ℚ) = 3 ∧
      ¬leisurely.IsCeiling none (4 : ℚ) ∧ leisurely.IsCeiling (some 0) (4 : ℚ) ∧
      IsLeast {bound : ℚ | leisurely.IsCeiling none bound} 7 := by
  have hmost : (TimeScale.ofNumber leisurely.maxWait : ℚ) = 4 := TimeScale.ofNumber_int 4
  have hsilence : leisurely.patience (none : Option ℚ) = 3 := TimeScale.ofNumber_int 3
  have hmax : 0 < (TimeScale.ofNumber leisurely.maxWait : ℚ) := by rw [hmost]; norm_num
  have hpositive : 0 < leisurely.patience (none : Option ℚ) := by rw [hsilence]; norm_num
  obtain ⟨hceiling, hleast⟩ := isCeiling_maxWait_iff hmax hpositive.le
  have hrefused : 0 ≤ leisurely.patience (some (0 : ℚ)) := le_refl 0
  obtain ⟨hnone, -⟩ := isCeiling_maxWait_iff hmax hrefused
  have hseven : (4 : ℚ) + 3 = 7 := by norm_num
  rw [hmost] at hceiling hnone
  refine ⟨hmost, hsilence, fun h => ?_, hnone.2 rfl, ?_⟩
  · exact absurd (hceiling.1 h) hpositive.ne'
  · rw [← hseven, ← hmost, ← hsilence]
    exact hleast hpositive

/-- **The longest wait is no ceiling**: a child says something after three seconds, in time, and is
silent for three more. The capture returns after six seconds, and may take four. -/
theorem capture_overruns :
    (TimeScale.ofNumber leisurely.maxWait : Int) = 4 ∧
      (Pool.sole leisurely).Punctual (3 : Int) (fun w => w.system.HasTimely 0) ∧
      (World.saying [.wait (3 : Int) (.text ['a'])]).system.HasTimely 0 ∧
      (((Pool.sole leisurely).capture none none).runFrom
        (.saying [.wait (3 : Int) (.text ['a'])])).1 = .ok ⟨['a'], ['a'], 0, false⟩ ∧
      (World.saying [.wait (3 : Int) (.text ['a'])]).system.clock = 0 ∧
      (((Pool.sole leisurely).capture none none).runFrom
        (.saying [.wait (3 : Int) (.text ['a'])])).2.system.clock = 6 ∧
      ¬leisurely.IsCeiling none (4 : Int) := by
  have htimely : (World.saying [.wait (3 : Int) (.text ['a'])]).system.HasTimely 0 := by
    refine World.hasTimely_saying fun item hitem => ?_
    rw [List.mem_singleton.1 hitem]
    exact ⟨by decide, trivial⟩
  have hpunctual : (Pool.sole leisurely).Punctual (3 : Int) fun w => w.system.HasTimely 0 :=
    Pool.punctual_sole leisurely (by decide)
  have hreturns : (((Pool.sole leisurely).capture none none).runFrom
      (.saying [.wait (3 : Int) (.text ['a'])])).1 = .ok ⟨['a'], ['a'], 0, false⟩ := by cbv
  have hclock : (((Pool.sole leisurely).capture none none).runFrom
      (.saying [.wait (3 : Int) (.text ['a'])])).2.system.clock = 6 := by cbv
  refine ⟨by cbv, hpunctual, htimely, hreturns, rfl, hclock, fun hceiling => ?_⟩
  have htook := hceiling _ _ _ none _ _ _ hpunctual htimely rfl (Prod.ext hreturns rfl)
  have hlate : (6 : Int) ≤ 0 + 4 := hclock ▸ htook
  exact absurd hlate (by decide)

end Settings

end Teletype
