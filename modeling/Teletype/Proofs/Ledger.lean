import Teletype.Proofs.Frame

/-!
# What passes between a session and its child

A session reads from its child and sends to it. `Host.recorded` is a host that does all that another
one does and enters each of these dealings into a ledger. A session cannot tell the two apart, and
its captures return as raw output exactly what the ledger says was delivered to them
(`Host.enters_answer`).
-/

namespace Teletype

/-! ## Ledgers -/

/-- Something between a session and its child, and how it ended. -/
inductive Dealing where
  | read (r : Except ChildFault Chunk)
  | sent (v : Value) (r : Except ChildFault Unit)
  /-- The child was told that nothing more would be sent. -/
  | sentEnd (r : Except ChildFault Unit)

namespace Dealing

/-- The piece of output that was delivered, if one was. -/
def chunk? : Dealing → Option Chunk
  | read (.ok c) => some c
  | _ => none

/-- The pieces of output that were delivered, in order. -/
def delivered (ds : List Dealing) : List Chunk :=
  ds.filterMap chunk?

/-- The text that was delivered. Each piece is decoded by itself. -/
def text (ds : List Dealing) : Text :=
  (delivered ds).flatMap Chunk.decoded

@[simp] theorem delivered_append (ds ds' : List Dealing) :
    delivered (ds ++ ds') = delivered ds ++ delivered ds' :=
  List.filterMap_append

@[simp] theorem text_append (ds ds' : List Dealing) : text (ds ++ ds') = text ds ++ text ds' := by
  rw [text, delivered_append, List.flatMap_append]
  rfl

theorem text_flatten (dss : List (List Dealing)) : text dss.flatten = (dss.map text).flatten := by
  induction dss with
  | nil => rfl
  | cons ds dss ih => rw [List.flatten_cons, text_append, ih, List.map_cons, List.flatten_cons]

end Dealing

/-- There is no text in a piece of output that is empty. -/
theorem Chunk.decoded_of_isEmpty {c : Chunk} (h : c.isEmpty = true) : c.decoded = [] := by
  cases c with
  | text t => exact List.isEmpty_iff.1 h
  | bytes b =>
    rw [Chunk.isEmpty, List.isEmpty_iff] at h
    rw [h, Chunk.decoded, Utf8.decodeLossy, Utf8.parts, List.map_nil]

/-! ## Actions that keep a ledger -/

namespace Action

variable {κ ε ε' α β : Type}

/-- An action that enters into a ledger how it ended. -/
def entering (entry : Except ε α → Dealing) (a : Action κ ε α) : Action (κ × List Dealing) ε α :=
  ofRun fun s => ((a.runFrom s.1).1, ((a.runFrom s.1).2, s.2 ++ [entry (a.runFrom s.1).1]))

/-- An action beside a ledger. -/
def beside (a : Action κ ε α) : Action (κ × List Dealing) ε α :=
  a.zoom Prod.fst fun k s => (k, s.2)

/-- The second action does what the first one does, and enters dealings into a ledger. Where they end
with a result, `Q` holds of it and of the text that was delivered. -/
def Enters (Q : α → Text → Prop) (a : Action κ ε α) (a' : Action (κ × List Dealing) ε α) : Prop :=
  ∀ k, ∃ ds, (∀ l, a'.runFrom (k, l) = ((a.runFrom k).1, ((a.runFrom k).2, l ++ ds))) ∧
    ∀ x, (a.runFrom k).1 = .ok x → Q x (Dealing.text ds)

variable {Q : α → Text → Prop}

theorem enters_pure {x : α} (h : Q x []) :
    Enters Q (pure x : Action κ ε α) (pure x : Action (κ × List Dealing) ε α) := by
  intro k
  refine ⟨[], fun l => by rw [runFrom_pure, runFrom_pure, List.append_nil], ?_⟩
  rintro y ⟨⟩
  exact h

theorem enters_throw (e : ε) :
    Enters Q (throw e : Action κ ε α) (throw e : Action (κ × List Dealing) ε α) := by
  intro k
  refine ⟨[], fun l => by rw [runFrom_throw, runFrom_throw, List.append_nil], ?_⟩
  rintro y ⟨⟩

theorem enters_ofExcept {r : Except ε α} (h : ∀ x, r = .ok x → Q x []) :
    Enters Q (ofExcept r : Action κ ε α) (ofExcept r : Action (κ × List Dealing) ε α) :=
  fun k => ⟨[], fun l => by rw [runFrom_ofExcept, runFrom_ofExcept, List.append_nil], h⟩

theorem enters_look {f : κ → α} (h : ∀ x, Q x []) :
    Enters Q (look f : Action κ ε α) (look fun s : κ × List Dealing => f s.1) :=
  fun k => ⟨[], fun l => by rw [runFrom_look, runFrom_look, List.append_nil], fun x _ => h x⟩

theorem enters_change {Q : Unit → Text → Prop} {f : κ → κ} (h : Q () []) :
    Enters Q (change f : Action κ ε Unit) (change fun s : κ × List Dealing => (f s.1, s.2)) :=
  fun k => ⟨[], fun l => by rw [runFrom_change, runFrom_change, List.append_nil], fun _ _ => h⟩

theorem enters_entering {entry : Except ε α → Dealing} {a : Action κ ε α}
    (h : ∀ x, Q x (Dealing.text [entry (.ok x)])) : Enters Q a (a.entering entry) := by
  intro k
  refine ⟨[entry (a.runFrom k).1], fun l => rfl, fun x hx => ?_⟩
  rw [hx]
  exact h x

theorem Enters.mapFault {a : Action κ ε α} {a' : Action (κ × List Dealing) ε α}
    (h : Enters Q a a') (f : ε → ε') : Enters Q (a.mapFault f) (a'.mapFault f) := by
  intro k
  obtain ⟨ds, hrun, hQ⟩ := h k
  refine ⟨ds, fun l => by rw [runFrom_mapFault, runFrom_mapFault, hrun], fun x hx => hQ x ?_⟩
  rw [runFrom_mapFault] at hx
  cases hr : (a.runFrom k).1 with
  | ok y =>
    simp only [hr] at hx
    cases hx
    rfl
  | error e =>
    simp only [hr] at hx
    cases hx

theorem Enters.ite {c : Prop} [Decidable c] {a b : Action κ ε α}
    {a' b' : Action (κ × List Dealing) ε α} (ha : c → Enters Q a a') (hb : ¬c → Enters Q b b') :
    Enters Q (if c then a else b) (if c then a' else b') := by
  split
  · exact ha ‹_›
  · exact hb ‹_›

/-- What is delivered to a row of actions is delivered to the first, and then to the others. -/
theorem Enters.bind {P : α → Text → Prop} {Q : β → Text → Prop} {a : Action κ ε α}
    {a' : Action (κ × List Dealing) ε α} (h : Enters P a a') {f : α → Action κ ε β}
    {f' : α → Action (κ × List Dealing) ε β}
    (hf : ∀ x t, P x t → Enters (fun y t' => Q y (t ++ t')) (f x) (f' x)) :
    Enters Q (a >>= f) (a' >>= f') := by
  intro k
  obtain ⟨ds, hrun, hP⟩ := h k
  cases hr : a.runFrom k with
  | mk r k₁ =>
    rw [hr] at hP
    cases r with
    | error e =>
      -- the second action is not begun, and what passed until then is in the ledger
      refine ⟨ds, fun l => ?_, ?_⟩
      · rw [runFrom_bind, runFrom_bind, hrun, hr]
      · rw [runFrom_bind, hr]
        rintro x ⟨⟩
    | ok x =>
      obtain ⟨ds', hrun', hQ⟩ := hf x _ (hP x rfl) k₁
      refine ⟨ds ++ ds', fun l => ?_, ?_⟩
      · rw [runFrom_bind, runFrom_bind, hrun, hr, ← List.append_assoc]
        exact hrun' (l ++ ds)
      · rw [runFrom_bind, hr, Dealing.text_append]
        exact hQ

/-- No text is delivered. -/
def Silent (_ : α) (t : Text) : Prop :=
  t = []

/-- What is delivered after a silent action is all that is delivered. -/
theorem Enters.after {Q : β → Text → Prop} {a : Action κ ε α} {a' : Action (κ × List Dealing) ε α}
    (h : Enters Silent a a') {f : α → Action κ ε β} {f' : α → Action (κ × List Dealing) ε β}
    (hf : ∀ x, Enters Q (f x) (f' x)) : Enters Q (a >>= f) (a' >>= f') := by
  refine h.bind ?_
  rintro x _ rfl
  exact hf x

end Action

open Teletype.Action

/-! ## A host that keeps a ledger -/

variable {κ τ : Type}

/-- The host with a ledger of what passes between the session and its child. -/
def Host.recorded (h : Host κ τ) : Host (κ × List Dealing) τ where
  now s := h.now s.1
  read time := (h.read time).entering .read
  send v := (h.send v).entering (.sent v)
  isAlive := h.isAlive.beside
  sendEnd := h.sendEnd.entering .sentEnd
  terminate force := (h.terminate force).beside
  wait seconds := (h.wait seconds).beside
  exitStatus s := h.exitStatus s.1
  signalStatus s := h.signalStatus s.1
  readLimit characters s := h.readLimit characters s.1
  session s := h.session s.1
  update f s := (h.update f s.1, s.2)
  record r s := (h.record r s.1, s.2)

/-- What a session is asked for. -/
inductive SessionCall (τ : Type) where
  | readInitial
  | sendInput (t : Text)
  | sendControl (name : Option Text)
  | readOutput (idle : Option τ)
  | runCommand (command : Text) (prompt : Option PromptPattern)

/-- The text of all pieces of output that were taken in. -/
def Progress.read (p : Progress) : Text :=
  p.raw.reverse.flatten

/-- What is taken in is added to what was read. -/
theorem Progress.read_absorb (c : Settings) (p : Progress) (piece : Text) :
    (p.absorb c piece).1.read = p.read ++ piece := by
  have hraw : (p.absorb c piece).1.raw = piece :: p.raw := rfl
  rw [read, hraw, List.reverse_cons, List.flatten_append, List.flatten_singleton]
  rfl

namespace Host

variable (h : Host κ τ)

theorem enters_note (level : Level) (text : Session τ → String) :
    Enters Silent (h.note level text) (h.recorded.note level text) :=
  enters_change rfl

theorem enters_isFull (c : Settings) (p : Progress) :
    Enters Silent (h.isFull c p) (h.recorded.isFull c p) := by
  refine .after (enters_ofExcept fun _ _ => rfl) fun fits =>
    .ite (fun _ => enters_pure rfl) fun _ => ?_
  exact (h.enters_note _ _).after fun _ => enters_pure rfl

theorem enters_isSpent (c : Settings) (p : Progress) :
    Enters Silent (h.isSpent c p) (h.recorded.isSpent c p) := by
  refine .after (enters_ofExcept fun _ _ => rfl) fun spent =>
    .ite (fun _ => ?_) fun _ => enters_pure rfl
  exact (h.enters_note _ _).after fun _ => enters_pure rfl

theorem enters_send (v : Value) : Enters Silent (ask (h.send v)) (ask (h.recorded.send v)) := by
  have hsend : Enters Silent (h.send v) (h.recorded.send v) := enters_entering fun _ => rfl
  exact hsend.mapFault _

theorem enters_remember (prompt : Option Text) :
    Enters Silent (h.remember prompt) (h.recorded.remember prompt) := by
  cases prompt with
  | none => exact enters_pure rfl
  | some text =>
    refine .ite (fun _ => enters_pure rfl) fun _ => ?_
    cases PromptPattern.ofPrompt (some text) with
    | ok pattern => exact enters_change rfl
    | error e => exact enters_throw _

/-- A piece that is read is delivered; silence and the end of the child deliver nothing. -/
theorem enters_readPiece (idle : τ) :
    Enters (fun piece t => t = (piece.elim [] Chunk.decoded)) (h.readPiece idle)
      (h.recorded.readPiece idle) := by
  intro k
  refine ⟨[.read ((h.read idle).runFrom k).1], fun l => ?_, ?_⟩
  · simp only [readPiece, recorded, runFrom_bind, runFrom_attempt, entering, runFrom_ofRun]
    cases (h.read idle).runFrom k with
    | mk r k₁ =>
      cases r with
      | ok c => rfl
      | error f =>
        simp only
        split <;> rfl
  · intro piece
    simp only [readPiece, runFrom_bind, runFrom_attempt]
    cases (h.read idle).runFrom k with
    | mk r k₁ =>
      cases r with
      | ok c =>
        rintro ⟨⟩
        exact List.append_nil _
      | error f =>
        simp only
        split
        · rintro ⟨⟩
          rfl
        · rintro ⟨⟩

variable [TimeScale τ]

/-- Reading takes in what is delivered. -/
theorem enters_readOn (c : Settings) (prompt : Option PromptPattern) (idle deadline : τ)
    (reads : Nat) (p : Progress) :
    Enters (fun r t => r.1.read = p.read ++ t) (h.readOn c prompt idle deadline reads p)
      (h.recorded.readOn c prompt idle deadline reads p) := by
  induction reads generalizing p with
  | zero => exact enters_pure (List.append_nil _).symm
  | succ reads ih =>
    refine .after (enters_look fun _ => rfl) fun now =>
      .ite (fun _ => enters_pure (List.append_nil _).symm) fun _ => ?_
    refine (h.enters_readPiece idle).bind ?_
    rintro piece _ rfl
    cases piece with
    | none => exact enters_pure (List.append_nil _).symm
    | some piece =>
      -- what is read goes on from any progress that has taken in the piece
      have hgoes : ∀ q : Progress, q.read = p.read ++ piece.decoded →
          Enters (fun r t => r.1.read = p.read ++ (piece.decoded ++ t))
            (h.readOn c prompt idle deadline reads q)
            (h.recorded.readOn c prompt idle deadline reads q) := by
        intro q hq
        have := ih q
        rw [hq] at this
        simpa only [List.append_assoc] using this
      have habsorbed := p.read_absorb c piece.decoded
      have hends : (p.absorb c piece.decoded).1.read = p.read ++ (piece.decoded ++ []) := by
        rw [habsorbed, List.append_nil]
      refine .ite (fun hempty => hgoes p ?_) fun _ => .ite (fun _ => ?paused) fun _ => ?running
      · rw [Chunk.decoded_of_isEmpty hempty, List.append_nil]
      case paused =>
        refine (h.enters_isSpent c _).after fun spent =>
          .ite (fun _ => enters_pure hends) fun _ => ?_
        refine (h.enters_isFull c _).after fun full =>
          .ite (fun _ => enters_pure hends) fun _ => ?_
        exact (h.enters_send _).after fun _ => hgoes _ habsorbed
      case running =>
        refine .after (enters_ofExcept fun _ _ => rfl) fun shown =>
          .ite (fun _ => enters_pure hends) fun _ => ?_
        exact (h.enters_isFull c _).after fun full =>
          .ite (fun _ => enters_pure hends) fun _ => hgoes _ habsorbed

/-- What a capture returns as raw output is what was delivered to it. -/
theorem enters_capture (idle : Option τ) (prompt : Option PromptPattern) :
    Enters (fun captured t => captured.raw = t) (h.capture idle prompt)
      (h.recorded.capture idle prompt) := by
  refine .after (enters_look fun _ => rfl) fun s => .after (enters_look fun _ => rfl) fun now =>
    .after (enters_ofExcept fun _ _ => rfl) fun deadline =>
      .after (enters_look fun _ => rfl) fun reads => ?_
  refine (h.enters_readOn _ prompt _ _ reads .start).bind fun r t ht =>
    enters_ofExcept fun captured hcaptured => ?_
  rw [Progress.finish] at hcaptured
  cases hr : r.1.rendered s.settings with
  | error f =>
    rw [hr] at hcaptured
    cases hcaptured
  | ok text =>
    rw [hr] at hcaptured
    cases hcaptured
    rw [List.append_nil]
    exact ht

theorem enters_sendInput (t : Text) :
    Enters (fun captured t => captured.raw = t) (h.sendInput t) (h.recorded.sendInput t) :=
  .after (enters_change rfl) fun _ => (h.enters_send _).after fun _ => h.enters_capture none none

theorem enters_runCommand (command : Text) (prompt : Option PromptPattern) :
    Enters (fun captured t => captured.raw = t) (h.runCommand command prompt)
      (h.recorded.runCommand command prompt) := by
  refine .after (enters_look fun _ => rfl) fun s => .after (enters_change rfl) fun _ =>
    (h.enters_send _).after fun _ => ?_
  refine (h.enters_capture none _).bind ?_
  rintro captured _ rfl
  -- nothing is read after the capture, only the prompt is remembered
  have hreturns : Enters (fun c t => c.raw = captured.raw ++ t) (pure captured)
      (pure captured : Action (κ × List Dealing) SessionFault Captured) :=
    enters_pure (List.append_nil _).symm
  cases Prompt.changed _ Prompt.usualLookback captured.text with
  | some text => exact (h.enters_remember _).after fun _ => hreturns
  | none =>
    refine .after (enters_look fun _ => rfl) fun s => .ite (fun _ => ?_) fun _ => hreturns
    exact (h.enters_remember _).after fun _ => hreturns

/-- What a session does when it is asked for something. -/
def answer : SessionCall τ → Action κ SessionFault Captured
  | .readInitial => h.readInitial
  | .sendInput t => h.sendInput t
  | .sendControl name => h.sendControl name
  | .readOutput idle => h.readOutput idle
  | .runCommand command prompt => h.runCommand command prompt

/-- **A session does the same with and without a ledger**, and returns as raw output what the ledger
says was delivered. -/
theorem enters_answer (call : SessionCall τ) :
    Enters (fun captured t => captured.raw = t) (h.answer call) (h.recorded.answer call) := by
  cases call with
  | readInitial =>
    refine (h.enters_capture none none).bind ?_
    rintro captured _ rfl
    exact (h.enters_remember _).after fun _ => enters_pure (List.append_nil _).symm
  | sendInput t => exact h.enters_sendInput t
  | sendControl name =>
    rw [answer, answer, sendControl, sendControl]
    cases ControlKey.ofName? name with
    | none => exact enters_throw _
    | some c => exact h.enters_sendInput [c]
  | readOutput idle => exact .after (enters_change rfl) fun _ => h.enters_capture idle none
  | runCommand command prompt => exact h.enters_runCommand command prompt

/-! ## Conversations -/

/-- A row of calls of one session. -/
def converse (calls : List (SessionCall τ)) : Action κ SessionFault (List Captured) :=
  calls.mapM h.answer

/-- What passes between the session and its child during each of a row of calls. -/
def ledgers : List (SessionCall τ) → κ → List (List Dealing)
  | [], _ => []
  | call :: calls, k =>
    let s := ((h.recorded.answer call).runFrom (k, [])).2
    s.2 :: ledgers calls s.1

theorem recorded_converse {calls : List (SessionCall τ)} {answers : List Captured} {k k' : κ}
    (hrun : (h.converse calls).runFrom k = (.ok answers, k')) (l : List Dealing) :
    (h.recorded.converse calls).runFrom (k, l) =
        (.ok answers, (k', l ++ (h.ledgers calls k).flatten)) ∧
      answers.map Captured.raw = (h.ledgers calls k).map Dealing.text := by
  induction calls generalizing k l answers with
  | nil =>
    cases hrun
    refine ⟨?_, rfl⟩
    rw [ledgers, List.flatten_nil, List.append_nil]
    rfl
  | cons call calls ih =>
    rw [converse, List.mapM_cons] at hrun
    obtain ⟨captured, k₁, hcall, hrest⟩ := exists_of_runFrom_bind hrun
    obtain ⟨others, k₂, hothers, hreturn⟩ := exists_of_runFrom_bind hrest
    cases hreturn
    obtain ⟨ds, hrecorded, hraw⟩ := h.enters_answer call k
    rw [hcall] at hrecorded hraw
    -- the first call begins a ledger of its own, and the others go on where it ended
    have hledger : h.ledgers (call :: calls) k = ds :: h.ledgers calls k₁ := by
      rw [ledgers, hrecorded, List.nil_append]
    obtain ⟨hrun', hraws⟩ := ih hothers (l ++ ds)
    rw [hledger]
    refine ⟨?_, by rw [List.map_cons, List.map_cons, hraw captured rfl, hraws]⟩
    rw [converse] at hrun'
    rw [converse, List.mapM_cons, runFrom_bind, hrecorded, List.flatten_cons, ← List.append_assoc]
    simp only [runFrom_bind, hrun', runFrom_pure]

end Host

namespace Host.Within

variable {R : κ → κ → Prop} {h : Host κ τ}

theorem touch (hh : h.Within R) : h.touch.Within R :=
  within_change fun k => hh.update _ k

variable [TimeScale τ] [IsPreorder κ R]

theorem sendInput (hh : h.Within R) (t : Text) : (h.sendInput t).Within R :=
  hh.touch.bind fun _ => (ask (hh.send _)).bind fun _ => hh.capture none none

theorem runCommand (hh : h.Within R) (command : Text) (prompt : Option PromptPattern) :
    (h.runCommand command prompt).Within R := by
  refine (within_look _).bind fun s => hh.touch.bind fun _ => (ask (hh.send _)).bind fun _ =>
    (hh.capture none _).bind fun captured => ?_
  cases Prompt.changed _ Prompt.usualLookback captured.text with
  | some text => exact (hh.remember _).bind fun _ => within_pure _
  | none =>
    refine (within_look _).bind fun s => .ite ?_ (within_pure _)
    exact (hh.remember _).bind fun _ => within_pure _

/-- Whatever a session is asked for keeps within what its host keeps within. -/
theorem answer (hh : h.Within R) (call : SessionCall τ) : (h.answer call).Within R := by
  cases call with
  | readInitial => exact hh.readInitial
  | sendInput t => exact hh.sendInput t
  | sendControl name =>
    rw [Host.answer, sendControl]
    cases ControlKey.ofName? name with
    | none => exact within_throw _
    | some c => exact hh.sendInput [c]
  | readOutput idle => exact hh.touch.bind fun _ => hh.capture idle none
  | runCommand command prompt => exact hh.runCommand command prompt

theorem converse (hh : h.Within R) (calls : List (SessionCall τ)) :
    (h.converse calls).Within R := by
  induction calls with
  | nil => exact within_pure _
  | cons call calls ih =>
    rw [Host.converse, List.mapM_cons]
    exact (hh.answer call).bind fun captured => ih.bind fun others => within_pure _

end Host.Within

end Teletype
