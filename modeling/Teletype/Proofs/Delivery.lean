import Mathlib
import Teletype.Proofs.Closing
import Teletype.Proofs.Ledger

/-!
# Everything that a child writes is delivered once

A scripted child has pieces of output to read from the start, and more after each text that it is
sent. Whatever a session does, what was delivered and what is still queued are together what there
was and what came, in order (`Pool.conserves_recorded`). A *conversation* is a row of calls of one
session that all return. Each of them returns as raw output what was delivered to it and to no other
(`Pool.conversation_delivers`).
-/

namespace Teletype

open Teletype.Action

variable {ρ ο τ : Type}

/-! ## What a script brings -/

/-- The piece of output that an item brings, now or later. A request brings an empty one. -/
def Item.chunk? : Item ρ τ → Option Chunk
  | text t => some (.text t)
  | bytes b => some (.bytes b)
  | wait _ item => item.chunk?
  | request _ => some (.text [])
  | _ => none

/-- The piece of output that comes of waiting for a child, when requests are not served. -/
def Delivery.piece : Delivery ρ → Chunk
  | chunk c => c
  | request _ => .text []

/-- The pieces of output that come of a read. -/
def Delivery.pieces : Except ChildFault (Delivery ρ) → List Chunk
  | .ok d => [d.piece]
  | .error _ => []

namespace Process

/-- A child answers nothing, or as it is set to answer something. -/
theorem answerTo_cases (p : Process ρ τ) (v : Value) :
    p.answerTo v = [] ∨ ∃ t, (t, p.answerTo v) ∈ p.responses := by
  cases v with
  | text t =>
    rw [answerTo]
    cases hitems : p.responses.lookup t with
    | none => exact .inl rfl
    | some items =>
      obtain ⟨front, back, hresponses, -⟩ := List.lookup_eq_some_iff.1 hitems
      have hmem : (t, items) ∈ p.responses := by simp [hresponses]
      exact .inr ⟨t, hmem⟩
  | _ => exact .inl rfl

/-- The pieces of output that are still to be read. -/
def queued (p : Process ρ τ) : List Chunk :=
  p.queue.filterMap Item.chunk?

/-- The pieces of output that a child writes because of a dealing. -/
def writes (p : Process ρ τ) : Dealing → List Chunk
  | .sent v (.ok _) => (p.answerTo v).filterMap Item.chunk?
  | .sentEnd (.ok _) => p.script.endOutput.filterMap Item.chunk?
  | _ => []

/-- **Between two states of a child nothing is lost**: the pieces `out` are taken off the front of
its queue and the pieces `new` come in at the end, and it goes on answering as it did. -/
structure Passes (p p' : Process ρ τ) (out new : List Chunk) : Prop where
  queued : out ++ p'.queued = p.queued ++ new
  responses : p'.responses = p.responses
  script : p'.script = p.script

namespace Passes

variable {p p' p'' : Process ρ τ} {out new out' new' : List Chunk}

theorem refl (p : Process ρ τ) : p.Passes p [] [] :=
  ⟨(List.append_nil _).symm, rfl, rfl⟩

theorem trans (h : p.Passes p' out new) (h' : p'.Passes p'' out' new') :
    p.Passes p'' (out ++ out') (new ++ new') where
  queued := by
    rw [List.append_assoc, h'.queued, ← List.append_assoc, h.queued, List.append_assoc]
  responses := h'.responses.trans h.responses
  script := h'.script.trans h.script

/-- The child answers to the same dealings with the same pieces. -/
theorem writes (h : p.Passes p' out new) : p'.writes = p.writes := by
  funext d
  unfold Process.writes answerTo
  rw [h.responses, h.script]

end Passes

end Process

namespace Stage

theorem process_modify {s : Stage ρ ο τ} {n : Nat} (hn : n < s.processes.size)
    (f : Process ρ τ → Process ρ τ) : (s.modify n f).process n = f (s.process n) := by
  simp [process, modify, hn, Array.getElem_modify_self]

theorem size_modify (s : Stage ρ ο τ) (n : Nat) (f : Process ρ τ → Process ρ τ) :
    (s.modify n f).processes.size = s.processes.size :=
  Array.size_modify

/-- A child of a stage is still there later, and nothing of what it writes is lost in between. -/
def Passes (n : Nat) (s s' : Stage ρ ο τ) (out new : List Chunk) : Prop :=
  n < s'.processes.size ∧ (s.process n).Passes (s'.process n) out new

variable {n : Nat} {s : Stage ρ ο τ}

theorem Passes.modify {s' : Stage ρ ο τ} {out new out' new' : List Chunk}
    (h : s.Passes n s' out new) {f : Process ρ τ → Process ρ τ}
    (hf : (s'.process n).Passes (f (s'.process n)) out' new') :
    s.Passes n (s'.modify n f) (out ++ out') (new ++ new') := by
  refine ⟨by rw [size_modify]; exact h.1, ?_⟩
  rw [process_modify h.1]
  exact h.2.trans hf

theorem passes_refl (hn : n < s.processes.size) : s.Passes n s [] [] :=
  ⟨hn, .refl _⟩

/-- What is done to a child is entered into the journal, and fails or changes the child. -/
theorem passes_act_modify (hn : n < s.processes.size) (e : Process ρ τ → Event)
    (fault : Hooks → Option ChildFault) {f : Process ρ τ → Process ρ τ}
    (new : Except ChildFault Unit → List Chunk) (hfails : ∀ g, new (.error g) = [])
    (hdone : (s.process n).Passes (f (s.process n)) [] (new (.ok ()))) :
    let x := (do act n e fault; Action.change (modify n f) :
      Action (Stage ρ ο τ) ChildFault Unit).runFrom s
    s.Passes n x.2 [] (new x.1) := by
  simp only [act, runFrom_bind, runFrom_look, runFrom_change]
  cases fault (s.process n).script.hooks with
  | some g =>
    simp only [guard, runFrom_throw, hfails]
    exact passes_refl hn
  | none => exact (passes_refl (s := s.enter _) hn).modify hdone

variable [TimeScale τ]

/-- What is read is taken off the front of the queue. -/
theorem passes_deliver (hn : n < s.processes.size) (timeout : τ) {item : Item ρ τ}
    {rest : List (Item ρ τ)} (hqueue : (s.process n).queued = (item :: rest).filterMap Item.chunk?) :
    s.Passes n (deliver n timeout rest item s).2
      (Delivery.pieces (deliver n timeout rest item s).1) [] := by
  have htaken : ∀ {p : Process ρ τ} (out : List Chunk),
      (item :: rest).filterMap Item.chunk? = out ++ p.queued →
      p.responses = (s.process n).responses → p.script = (s.process n).script →
      (s.process n).Passes p out [] := fun _ hout hresponses hscript =>
    ⟨by rw [List.append_nil, hqueue, hout], hresponses, hscript⟩
  -- waiting lets time pass and leaves the queue as it is, so the induction is on the item
  induction item generalizing s with
  | wait time item ih =>
    rw [deliver]
    split
    · exact (passes_refl hn).modify (htaken _ rfl rfl rfl)
    · exact ih (s := s.advance time) hn hqueue htaken
  | exit status =>
    have htakes := (passes_refl hn).modify (f := fun p => { p with queue := rest })
      (htaken [] rfl rfl rfl)
    exact htakes.modify ⟨(List.append_nil _).symm, rfl, rfl⟩
  | signal signal =>
    have htakes := (passes_refl hn).modify (f := fun p => { p with queue := rest })
      (htaken [] rfl rfl rfl)
    exact htakes.modify ⟨(List.append_nil _).symm, rfl, rfl⟩
  | _ => exact (passes_refl hn).modify (htaken _ rfl rfl rfl)

theorem passes_read (hn : n < s.processes.size) (timeout : τ) :
    s.Passes n ((read n timeout).runFrom s).2
      (Delivery.pieces ((read n timeout).runFrom s).1) [] := by
  rw [read, runFrom_ofRun]
  cases hqueue : (s.process n).queue with
  | nil =>
    simp only
    split
    · exact passes_refl hn
    · exact passes_refl hn
  | cons item rest =>
    refine passes_deliver hn timeout ?_
    rw [Process.queued, hqueue]

variable (weigh : ρ → Nat)

/-- A child writes its answer when it is sent a value, unless sending fails. -/
theorem passes_send (hn : n < s.processes.size) (v : Value) :
    let x := ((child weigh n).send v).runFrom s
    s.Passes n x.2 [] ((s.process n).writes (.sent v x.1)) :=
  passes_act_modify hn _ _ (fun r => (s.process n).writes (.sent v r)) (fun _ => rfl)
    ⟨List.filterMap_append, rfl, rfl⟩

theorem passes_sendEnd (hn : n < s.processes.size) :
    let x := (child weigh n).sendEnd.runFrom s
    s.Passes n x.2 [] ((s.process n).writes (.sentEnd x.1)) := by
  refine passes_act_modify hn _ _ (fun r => (s.process n).writes (.sentEnd r))
    (fun _ => rfl) ?_
  simp only
  split
  · exact ⟨List.filterMap_append, rfl, rfl⟩
  · exact ⟨List.filterMap_append, rfl, rfl⟩

/-- A child that is asked to end, or forced to, loses nothing of what it wrote. -/
theorem passes_terminate (hn : n < s.processes.size) (force : Bool) :
    s.Passes n (((child weigh n).terminate force).runFrom s).2 [] [] := by
  have hstop : (s.process n).Passes ((s.process n).stop force) [] [] := by
    cases force with
    | _ =>
      simp only [Process.stop, if_true, Bool.false_eq_true, if_false]
      split
      · exact .refl _
      · split
        · exact ⟨(List.append_nil _).symm, rfl, rfl⟩
        · exact ⟨(List.append_nil _).symm, rfl, rfl⟩
  exact passes_act_modify hn _ _ (fun _ => []) (fun _ => rfl) hstop

theorem passes_wait (hn : n < s.processes.size) (seconds : Nat) :
    s.Passes n (((child weigh n).wait seconds).runFrom s).2 [] [] :=
  passes_refl hn

theorem passes_isAlive (hn : n < s.processes.size) :
    s.Passes n ((child weigh n).isAlive.runFrom s).2 [] [] := by
  simp only [child, runFrom_bind, runFrom_look]
  cases (s.process n).script.hooks.onIsAlive with
  | some g => exact passes_refl hn
  | none => exact passes_refl hn

end Stage

/-! ## Conversations -/

/-- **Nothing is lost between two states with a ledger**: what was delivered is taken off the front
of the queue of a child, and what it wrote because of the dealings comes in at the end. -/
def Conserves (n : Nat) (s s' : World (Stage ρ ο τ) τ × List Dealing) : Prop :=
  n < s.1.system.processes.size → ∃ ds, s'.2 = s.2 ++ ds ∧
    s.1.system.Passes n s'.1.system (Dealing.delivered ds)
      (ds.flatMap (s.1.system.process n).writes)

instance (n : Nat) :
    IsPreorder (World (Stage ρ ο τ) τ × List Dealing) (Conserves n) where
  refl s hn := ⟨[], (List.append_nil _).symm, Stage.passes_refl hn⟩
  trans s s' s'' h h' hn := by
    obtain ⟨ds, hds, hsize, hpass⟩ := h hn
    obtain ⟨ds', hds', hsize', hpass'⟩ := h' hsize
    refine ⟨ds ++ ds', by rw [hds', hds, List.append_assoc], hsize', ?_⟩
    -- the child answers as it did at the start, so the second row may be told from there
    rw [hpass.writes] at hpass'
    rw [Dealing.delivered_append, List.flatMap_append]
    exact hpass.trans hpass'

namespace Pool

variable {n : Nat}

theorem conserves_entering {α : Type} {a : Action (World (Stage ρ ο τ) τ) ChildFault α}
    {entry : Except ChildFault α → Dealing}
    (h : ∀ w : World (Stage ρ ο τ) τ, n < w.system.processes.size →
      w.system.Passes n (a.runFrom w).2.system (Dealing.delivered [entry (a.runFrom w).1])
        ((w.system.process n).writes (entry (a.runFrom w).1))) :
    (a.entering entry).Within (Conserves n) := by
  rintro ⟨w, l⟩ hn
  refine ⟨[entry (a.runFrom w).1], rfl, ?_⟩
  rw [List.flatMap_singleton]
  exact h w hn

theorem conserves_beside {α : Type} {a : Action (World (Stage ρ ο τ) τ) ChildFault α}
    (h : ∀ w : World (Stage ρ ο τ) τ, n < w.system.processes.size →
      w.system.Passes n (a.runFrom w).2.system [] []) :
    a.beside.Within (Conserves n) := by
  rintro ⟨w, l⟩ hn
  exact ⟨[], (List.append_nil _).symm, h w hn⟩

variable [TimeScale τ] (weigh : ρ → Nat) (options : PoolOptions)
  (serve : ρ → World (Stage ρ ο τ) τ → World (Stage ρ ο τ) τ)

/-- A pool of scripted children. -/
abbrev onStage : Pool (Stage ρ ο τ) ρ τ :=
  ⟨Stage.system weigh, options, serve⟩

/-- A read of a pool that serves no requests is a read of the child. -/
theorem runFrom_read_alone (time : τ) (w : World (Stage ρ ο τ) τ) :
    ((onStage weigh options serve).alone.read n time).runFrom w =
      (((Stage.read n time).runFrom w.system).1.map Delivery.piece,
        { w with system := ((Stage.read n time).runFrom w.system).2 }) := by
  simp only [read, runFrom_bind, onSystem, runFrom_zoom, alone, Stage.system]
  cases ((Stage.read n time).runFrom w.system).1 with
  | error f => rfl
  | ok d =>
    cases d with
    | chunk c => rfl
    | request r => rfl

/-- **A scripted child loses nothing of what it writes**, whatever a session does with it. -/
theorem conserves_recorded (number : Nat) :
    ((onStage weigh options serve).alone.host number n).recorded.Within (Conserves n) where
  read time := by
    refine conserves_entering fun w hn => ?_
    have hread : (((onStage weigh options serve).alone.host number n).read time).runFrom w = _ :=
      runFrom_read_alone weigh options serve time w
    have hpass := Stage.passes_read hn time
    rw [hread]
    cases hr : (Stage.read n time).runFrom w.system with
    | mk r s =>
      rw [hr] at hpass
      cases r with
      | ok d => exact hpass
      | error f => exact hpass
  send v := conserves_entering fun w hn => Stage.passes_send weigh hn v
  isAlive := conserves_beside fun w hn => Stage.passes_isAlive weigh hn
  sendEnd := conserves_entering fun w hn => Stage.passes_sendEnd weigh hn
  terminate force := conserves_beside fun w hn => Stage.passes_terminate weigh hn force
  wait seconds := conserves_beside fun w hn => Stage.passes_wait weigh hn seconds
  update f s hn := ⟨[], (List.append_nil _).symm, Stage.passes_refl hn⟩
  record r s hn := ⟨[], (List.append_nil _).symm, Stage.passes_refl hn⟩

/-- **A conversation loses, doubles and reorders nothing.** When a row of calls of a session ends with
results, it does so with a ledger too; each call returned as raw output the text that was delivered
during that call, so all of them together returned what was delivered in all; and what was delivered,
followed by what is still queued, is what was queued at the start, followed by what the child wrote
because of what it was sent. -/
theorem conversation_delivers (number : Nat) {calls : List (SessionCall τ)}
    {answers : List Captured} {w w' : World (Stage ρ ο τ) τ} (hn : n < w.system.processes.size)
    (hrun : (((onStage weigh options serve).alone.host number n).converse calls).runFrom w =
      (.ok answers, w')) :
    let h := (onStage weigh options serve).alone.host number n
    let ledger := (h.ledgers calls w).flatten
    (h.recorded.converse calls).runFrom (w, []) = (.ok answers, (w', ledger)) ∧
      answers.map Captured.raw = (h.ledgers calls w).map Dealing.text ∧
      (answers.map Captured.raw).flatten = Dealing.text ledger ∧
      Dealing.delivered ledger ++ (w'.system.process n).queued =
        (w.system.process n).queued ++ ledger.flatMap (w.system.process n).writes := by
  intro h ledger
  obtain ⟨hrecorded, hraws⟩ := h.recorded_converse hrun []
  refine ⟨hrecorded, hraws, by rw [hraws, ← Dealing.text_flatten], ?_⟩
  obtain ⟨ds, hds, -, hpass⟩ :=
    (conserves_recorded weigh options serve number).converse calls (w, []) hn
  rw [hrecorded] at hds hpass
  simp only [List.nil_append] at hds
  rw [← hds] at hpass
  exact hpass.queued

end Pool

/-! ## A child that is slow to answer -/

/-- A scale of whole seconds. -/
instance : TimeScale Int where
  add := (· + ·)
  sub := (· - ·)
  lt a b := decide (a < b)
  ofNumber n := n.truncate?.getD 0
  overflows _ _ := false
  exceeds t n := n.lt (.int t)
  roundTenth := id

/-- A child that greets in two pieces, and answers to a line with one piece at once and another one
five seconds later. -/
def World.slow : World (Stage Empty Empty Int) Int where
  system :=
    { clock := 0
      processes :=
        #[({ Script.plain "sh" with
              initial := [.text "hi ".toList, .bytes [0x41, 0xff]]
              responses :=
                [("ls\n".toList, [.text "a\r\n".toList, .wait 5 (.text "$ ".toList)])] } :
            Script Empty Int).process]
      scripts := []
      journal := [] }
  seats := #[]
  roster := .empty
  isReaping := false

namespace Pool

/-- A session that waits for its child for a second. -/
def patient : Host (World (Stage Empty Empty Int) Int) Int :=
  (onStage Empty.elim
    { silent.options with
      settings :=
        { silent.options.settings with maxWait := .int 9, maxBuffer := .number (.int 20) } }
    fun _ w => w).alone.host 0 0

/-- A command is sent and its answer waited for, first a second and then two more. -/
def hasty : List (SessionCall Int) :=
  [.readInitial, .sendInput "ls\n".toList, .readOutput (some 2)]

/-- The second piece of the answer comes too late for both calls that wait for it. It stays in the
queue, and every other piece is returned once. -/
theorem conversation_delivers_slow :
    ∃ answers w', (patient.converse hasty).runFrom World.slow = (.ok answers, w') ∧
      (patient.ledgers hasty World.slow).map Dealing.text =
        ["hi A\ufffd".toList, "a\r\n".toList, []] ∧
      (w'.system.process 0).queued = [.text "$ ".toList] := by
  have hraws : ((patient.converse hasty).runFrom World.slow).1.map
      (fun answers => answers.map Captured.raw) =
        .ok ["hi A\ufffd".toList, "a\r\n".toList, []] := by cbv
  have hqueued : (((patient.converse hasty).runFrom World.slow).2.system.process 0).queued =
      [.text "$ ".toList] := by cbv
  cases hrun : (patient.converse hasty).runFrom World.slow with
  | mk r w' =>
    rw [hrun] at hraws hqueued
    cases r with
    | error f => cases hraws
    | ok answers =>
      obtain ⟨-, hledgers, -, -⟩ := conversation_delivers _ _ _ 0 (by decide) hrun
      exact ⟨answers, w', rfl, hledgers.symm.trans (Except.ok.inj hraws), hqueued⟩

end Pool

end Teletype
