import Mathlib
import Teletype.Proofs.Delivery
import Teletype.Proofs.Grammar

/-!
# What a session says about the prompt

A session that ran a command says whether its output ended because the prompt came back. Whether
the output ends with the prompt can be seen from the output as well, and the two need not agree: a
piece of output that holds a prompt of a pager is never looked at for the prompt that is waited for.

`Host.Reads` tells how a read of output goes, with one case for each of the things that a piece of
output can lead to. It follows that the session says that the prompt came back exactly if the output
ends with it and the last piece held no pager that was to be dismissed (`Pool.runCommand_tells`).
-/

namespace Teletype

open Teletype.Action

/-! ## Pieces of output -/

/-- A piece of output without what settings say is unsafe. -/
def Settings.safe (c : Settings) (piece : Text) : Text :=
  if c.sanitize.isTrue then Teletype.sanitize piece else piece

/-- Whether a piece of output holds a prompt of a pager, as a capture under settings takes it in. -/
def Settings.seesPager (c : Settings) (piece : Text) : Bool :=
  Pager.isPaused (c.safe piece) || (Pager.strip (c.safe piece)).2

theorem Progress.raw_absorb (c : Settings) (p : Progress) (piece : Text) :
    (p.absorb c piece).1.raw = piece :: p.raw := rfl

/-- There is text in a piece of output that is not empty. -/
theorem Chunk.isEmpty_of_decoded {c : Chunk} (h : c.decoded = []) : c.isEmpty = true := by
  cases c with
  | text t => exact List.isEmpty_iff.2 h
  | bytes b =>
    cases b with
    | nil => rfl
    | cons b r =>
      rw [Chunk.decoded, Utf8.decodeLossy, Utf8.parts, List.map_cons] at h
      cases h

namespace Dealing

/-- The texts of the pieces of output that were delivered, without the empty ones. -/
def pieces (ds : List Dealing) : List Text :=
  ((delivered ds).filter fun c => !c.isEmpty).map Chunk.decoded

@[simp] theorem pieces_append (ds ds' : List Dealing) :
    pieces (ds ++ ds') = pieces ds ++ pieces ds' := by
  rw [pieces, delivered_append, List.filter_append, List.map_append]
  rfl

/-- The text that is delivered is that of the pieces. -/
theorem flatten_pieces (ds : List Dealing) : (pieces ds).flatten = text ds := by
  rw [pieces, text]
  induction delivered ds with
  | nil => rfl
  | cons c cs ih =>
    rw [List.flatMap_cons, ← ih]
    cases hc : c.isEmpty with
    | true =>
      rw [List.filter_cons_of_neg (by rw [hc]; exact Bool.false_ne_true),
        Chunk.decoded_of_isEmpty hc, List.nil_append]
    | false =>
      rw [List.filter_cons_of_pos (by rw [hc]; rfl), List.map_cons, List.flatten_cons]

/-- Where no text is delivered, all pieces are empty. -/
theorem pieces_eq_nil {ds : List Dealing} (h : text ds = []) : pieces ds = [] := by
  rw [pieces, List.map_eq_nil_iff, List.filter_eq_nil_iff]
  intro c hc
  rw [Chunk.isEmpty_of_decoded (List.flatMap_eq_nil_iff.1 h c hc)]
  exact Bool.false_ne_true

end Dealing

namespace Progress

variable (c : Settings) (pattern : PromptPattern) (p : Progress)

/-- Whether the output so far can be rendered and ends with a prompt. -/
def shows : Bool :=
  match p.rendered c with
  | .ok text => Prompt.ends pattern Prompt.usualLookback text
  | .error _ => false

/-- Whether the last piece of output held a pager that is to be dismissed. -/
def isHeld : Bool :=
  c.autoDismiss.isTrue && p.raw.head?.any c.seesPager

theorem isHeld_absorb (piece : Text) :
    (p.absorb c piece).1.isHeld c = (c.seesPager piece && c.autoDismiss.isTrue) :=
  Bool.and_comm _ _

variable {c pattern p}

theorem shows_of_showsPrompt {shown : Bool}
    (h : Host.showsPrompt c (some pattern) p = .ok shown) : p.shows c pattern = shown := by
  rw [Host.showsPrompt] at h
  rw [shows]
  cases hr : p.rendered c with
  | ok text => rw [hr] at h; exact Except.ok.inj h
  | error f => rw [hr] at h; cases h

/-- What a capture returns is what was read. -/
theorem finish_eq_ok {matched : Bool} {captured : Captured}
    (h : p.finish c matched = .ok captured) :
    p.shows c pattern = Prompt.ends pattern Prompt.usualLookback captured.text ∧
      captured.promptMatched = matched := by
  rw [finish] at h
  rw [shows]
  cases hr : p.rendered c with
  | ok text =>
    rw [hr] at h
    cases h
    exact ⟨rfl, rfl⟩
  | error f => rw [hr] at h; cases h

/-- Where nothing was read there is nothing to see, and no prompt. -/
theorem shows_start (c : Settings) (pattern : PromptPattern) : start.shows c pattern = false := by
  have hline : Screen.renderLine (TabStops.ofNumber c.tabSize) [] = .ok [] := by
    rw [Screen.renderLine, Line.replay, Token.scan_nil]
    rfl
  have hrendered : start.rendered c = .ok [] := by
    change ([[]].mapM (Screen.renderLine (TabStops.ofNumber c.tabSize))).map _ = _
    rw [List.mapM_cons, hline]
    rfl
  rw [shows, hrendered]
  rfl

end Progress

/-! ## How a read goes -/

namespace Host

variable {κ τ : Type} (h : Host κ τ)

/-- **How a read of output goes** that ends with a result: from some progress and a state to the
progress and the state at the end, and whether it ended with the prompt. -/
inductive Reads (c : Settings) (prompt : Option PromptPattern) (idle : τ) :
    Progress → κ → Progress → Bool → κ → Prop
  /-- There is no time left, or nothing more is to be read. -/
  | late {p : Progress} {k : κ} : Reads c prompt idle p k p false k
  /-- The child is silent, or has ended. -/
  | silent {p : Progress} {k k₁ : κ} :
    (h.readPiece idle).runFrom k = (.ok none, k₁) → Reads c prompt idle p k p false k₁
  /-- An empty piece of output counts for nothing. -/
  | empty {p q : Progress} {matched : Bool} {chunk : Chunk} {k k₁ k' : κ} :
    (h.readPiece idle).runFrom k = (.ok (some chunk), k₁) → chunk.isEmpty = true →
    Reads c prompt idle p k₁ q matched k' → Reads c prompt idle p k q matched k'
  /-- A pager is left paused, which is noted. -/
  | paused {p : Progress} {chunk : Chunk} {r : LogRecord} {k k₁ : κ} :
    (h.readPiece idle).runFrom k = (.ok (some chunk), k₁) → chunk.isEmpty = false →
    (c.seesPager chunk.decoded && c.autoDismiss.isTrue) = true →
    Reads c prompt idle p k (p.absorb c chunk.decoded).1 false (h.record r k₁)
  /-- A pager is dismissed. -/
  | dismissed {p q : Progress} {matched : Bool} {chunk : Chunk} {k k₁ k₂ k' : κ} :
    (h.readPiece idle).runFrom k = (.ok (some chunk), k₁) → chunk.isEmpty = false →
    (c.seesPager chunk.decoded && c.autoDismiss.isTrue) = true →
    (h.dismiss c).runFrom k₁ = (.ok (), k₂) →
    Reads c prompt idle
      { (p.absorb c chunk.decoded).1 with
        pages := (p.absorb c chunk.decoded).1.pages + 1, afterKey := true } k₂ q matched k' →
    Reads c prompt idle p k q matched k'
  /-- The prompt comes back. -/
  | shown {p : Progress} {chunk : Chunk} {k k₁ : κ} :
    (h.readPiece idle).runFrom k = (.ok (some chunk), k₁) → chunk.isEmpty = false →
    (c.seesPager chunk.decoded && c.autoDismiss.isTrue) = false →
    showsPrompt c prompt (p.absorb c chunk.decoded).1 = .ok true →
    Reads c prompt idle p k (p.absorb c chunk.decoded).1 true k₁
  /-- There is too much output, which is noted. -/
  | full {p : Progress} {chunk : Chunk} {r : LogRecord} {k k₁ : κ} :
    (h.readPiece idle).runFrom k = (.ok (some chunk), k₁) → chunk.isEmpty = false →
    (c.seesPager chunk.decoded && c.autoDismiss.isTrue) = false →
    showsPrompt c prompt (p.absorb c chunk.decoded).1 = .ok false →
    Reads c prompt idle p k (p.absorb c chunk.decoded).1 false (h.record r k₁)
  /-- The read goes on. -/
  | goesOn {p q : Progress} {matched : Bool} {chunk : Chunk} {k k₁ k' : κ} :
    (h.readPiece idle).runFrom k = (.ok (some chunk), k₁) → chunk.isEmpty = false →
    (c.seesPager chunk.decoded && c.autoDismiss.isTrue) = false →
    showsPrompt c prompt (p.absorb c chunk.decoded).1 = .ok false →
    Reads c prompt idle (p.absorb c chunk.decoded).1 k₁ q matched k' →
    Reads c prompt idle p k q matched k'

variable {h} {c : Settings} {prompt : Option PromptPattern} {idle : τ} {p q : Progress}
  {matched : Bool} {k k' : κ}

theorem isSpent_eq_ok {spent : Bool} (hrun : (h.isSpent c p).runFrom k = (.ok spent, k')) :
    if spent then ∃ r, k' = h.record r k else k' = k := by
  obtain ⟨reached, k₁, hreached, hrun⟩ := exists_of_runFrom_bind hrun
  obtain ⟨-, rfl⟩ := Prod.mk.inj hreached
  cases reached with
  | true => cases hrun; exact ⟨_, rfl⟩
  | false => cases hrun; rfl

theorem isFull_eq_ok {full : Bool} (hrun : (h.isFull c p).runFrom k = (.ok full, k')) :
    if full then ∃ r, k' = h.record r k else k' = k := by
  obtain ⟨fits, k₁, hfits, hrun⟩ := exists_of_runFrom_bind hrun
  obtain ⟨-, rfl⟩ := Prod.mk.inj hfits
  cases fits with
  | true => cases hrun; rfl
  | false => cases hrun; exact ⟨_, rfl⟩

namespace Reads

variable {pattern : PromptPattern}

/-- **A read tells the truth about the prompt, but for a pager in the last piece**, as long as it
starts with output that does not end with the prompt, or behind a pager. -/
theorem matched_eq (hreads : h.Reads c (some pattern) idle p k q matched k')
    (hp : (p.shows c pattern && !p.isHeld c) = false) :
    matched = (q.shows c pattern && !q.isHeld c) := by
  induction hreads with
  | late | silent _ => exact hp.symm
  | empty _ _ _ ih => exact ih hp
  | paused _ _ hpaused =>
    rw [Progress.isHeld_absorb, hpaused, Bool.not_true, Bool.and_false]
  | @dismissed p _ _ chunk _ _ _ _ _ _ hpaused _ _ ih =>
    -- the key that is sent changes nothing about what was read
    have hheld := Progress.isHeld_absorb c p chunk.decoded
    rw [hpaused] at hheld
    refine ih ?_
    rw [Progress.isHeld] at hheld ⊢
    rw [hheld, Bool.not_true, Bool.and_false]
  | shown _ _ hrunning hshown =>
    rw [Progress.shows_of_showsPrompt hshown, Progress.isHeld_absorb, hrunning]
    rfl
  | full _ _ _ hshown =>
    rw [Progress.shows_of_showsPrompt hshown, Bool.false_and]
  | goesOn _ _ _ hshown _ ih =>
    refine ih ?_
    rw [Progress.shows_of_showsPrompt hshown, Bool.false_and]

end Reads

/-! ## What a ledger says -/

section Ledgers

variable {s s' s'' : κ × List Dealing}

/-- What is entered into a ledger between two states delivers some pieces of output. -/
def Hears (s s' : κ × List Dealing) (ts : List Text) : Prop :=
  ∃ ds, s'.2 = s.2 ++ ds ∧ Dealing.pieces ds = ts

theorem Hears.trans {ts ts' : List Text} (hs : Hears s s' ts) (hs' : Hears s' s'' ts') :
    Hears s s'' (ts ++ ts') := by
  obtain ⟨ds, hds, rfl⟩ := hs
  obtain ⟨ds', hds', rfl⟩ := hs'
  exact ⟨ds ++ ds', by rw [hds', hds, List.append_assoc], Dealing.pieces_append ds ds'⟩

/-- What enters no text delivers no piece. -/
theorem hears_of_enters {α : Type} {a : Action κ SessionFault α}
    {a' : Action (κ × List Dealing) SessionFault α} (ha : Enters Silent a a') {x : α}
    (hrun : a'.runFrom s = (.ok x, s')) : Hears s s' [] := by
  obtain ⟨ds, hds, hsilent⟩ := ha s.1
  have hboth := (hds s.2).symm.trans hrun
  obtain ⟨hx, rfl⟩ := Prod.mk.inj hboth
  exact ⟨ds, rfl, Dealing.pieces_eq_nil (hsilent x hx)⟩

/-- A piece that is read is delivered. -/
theorem hears_readPiece {chunk? : Option Chunk}
    (hrun : (h.recorded.readPiece idle).runFrom s = (.ok chunk?, s')) :
    Hears s s' (chunk?.elim [] fun chunk => if chunk.isEmpty then [] else [chunk.decoded]) := by
  rw [readPiece, runFrom_bind, runFrom_attempt] at hrun
  simp only [recorded, entering, runFrom_ofRun] at hrun
  cases hr : ((h.read idle).runFrom s.1).1 with
  | ok chunk =>
    rw [hr] at hrun
    cases hrun
    refine ⟨[.read (.ok chunk)], rfl, ?_⟩
    cases hempty : chunk.isEmpty with
    | true => simp [Dealing.pieces, Dealing.delivered, Dealing.chunk?, hempty]
    | false => simp [Dealing.pieces, Dealing.delivered, Dealing.chunk?, hempty]
  | error f =>
    rw [hr] at hrun
    simp only at hrun
    split at hrun
    · cases hrun
      exact ⟨[.read (.error f)], rfl, rfl⟩
    · cases hrun

theorem hears_piece {chunk : Chunk}
    (hrun : (h.recorded.readPiece idle).runFrom s = (.ok (some chunk), s'))
    (hsome : chunk.isEmpty = false) : Hears s s' [chunk.decoded] := by
  have hheard := hears_readPiece hrun
  rwa [Option.elim_some, hsome, if_neg Bool.false_ne_true] at hheard

/-- What is taken in is what is delivered, piece by piece. -/
theorem Reads.hears (hreads : h.recorded.Reads c prompt idle p s q matched s') :
    ∃ ts, Hears s s' ts ∧ q.raw.reverse = p.raw.reverse ++ ts := by
  -- a piece that is taken in comes before those that follow it
  have htaken : ∀ {p q : Progress} {piece : Text} {ts : List Text},
      q.raw.reverse = (p.absorb c piece).1.raw.reverse ++ ts →
        q.raw.reverse = p.raw.reverse ++ ([piece] ++ ts) := by
    intro p q piece ts h
    rw [h, Progress.raw_absorb, List.reverse_cons, List.append_assoc]
  induction hreads with
  | late => exact ⟨[], ⟨[], (List.append_nil _).symm, rfl⟩, (List.append_nil _).symm⟩
  | silent hread => exact ⟨[], hears_readPiece hread, (List.append_nil _).symm⟩
  | empty hread hempty _ ih =>
    obtain ⟨ts, hts, hq⟩ := ih
    have hheard := hears_readPiece hread
    rw [Option.elim_some, if_pos hempty] at hheard
    exact ⟨ts, hheard.trans hts, hq⟩
  | paused hread hsome _ | shown hread hsome _ _ | full hread hsome _ _ =>
    have hheard := hears_piece hread hsome
    exact ⟨_, hheard, htaken (List.append_nil _).symm⟩
  | dismissed hread hsome _ hkey _ ih =>
    obtain ⟨ts, hts, hq⟩ := ih
    have hsent := hears_of_enters (h.enters_send _) hkey
    exact ⟨_, (hears_piece hread hsome).trans (hsent.trans hts), htaken hq⟩
  | goesOn hread hsome _ _ _ ih =>
    obtain ⟨ts, hts, hq⟩ := ih
    exact ⟨_, (hears_piece hread hsome).trans hts, htaken hq⟩

end Ledgers

/-! ## Every read goes like that -/

/-- What is done about a piece of output that holds a pager; `next` is the read that goes on. -/
def heedPager (h : Host κ τ) (c : Settings) (q : Progress)
    (next : Progress → Action κ SessionFault (Progress × Bool)) :
    Action κ SessionFault (Progress × Bool) := do
  if ← h.isSpent c q then return (q, false)
  else if ← h.isFull c q then return (q, false)
  else
    h.dismiss c
    next { q with pages := q.pages + 1, afterKey := true }

/-- What is done about any other piece of output. -/
def heedPrompt (h : Host κ τ) (c : Settings) (prompt : Option PromptPattern) (q : Progress)
    (next : Progress → Action κ SessionFault (Progress × Bool)) :
    Action κ SessionFault (Progress × Bool) := do
  if ← Action.ofExcept (showsPrompt c prompt q) then return (q, true)
  else if ← h.isFull c q then return (q, false)
  else next q

section Heeding

variable {next : Progress → Action κ SessionFault (Progress × Bool)} {result : Progress × Bool}

/-- A pager is left paused, or dismissed. -/
theorem heedPager_eq_ok (hrun : (h.heedPager c q next).runFrom k = (.ok result, k')) :
    (∃ r, result = (q, false) ∧ k' = h.record r k) ∨
      ∃ k₁, (h.dismiss c).runFrom k = (.ok (), k₁) ∧
        (next { q with pages := q.pages + 1, afterKey := true }).runFrom k₁ = (.ok result, k') := by
  obtain ⟨spent, k₁, hspent, hrun₁⟩ := exists_of_runFrom_bind hrun
  have hstate := isSpent_eq_ok hspent
  cases spent with
  | true =>
    obtain ⟨r, rfl⟩ := hstate
    cases hrun₁
    exact .inl ⟨r, rfl, rfl⟩
  | false =>
    obtain rfl : k₁ = k := hstate
    rw [if_neg Bool.false_ne_true] at hrun₁
    obtain ⟨full, k₂, hfull, hrun₂⟩ := exists_of_runFrom_bind hrun₁
    have hstate := isFull_eq_ok hfull
    cases full with
    | true =>
      obtain ⟨r, rfl⟩ := hstate
      cases hrun₂
      exact .inl ⟨r, rfl, rfl⟩
    | false =>
      obtain rfl : k₂ = k₁ := hstate
      rw [if_neg Bool.false_ne_true] at hrun₂
      obtain ⟨_, k₃, hkey, hrun₃⟩ := exists_of_runFrom_bind hrun₂
      exact .inr ⟨k₃, hkey, hrun₃⟩

/-- The prompt comes back, or there is too much output, or the read goes on. -/
theorem heedPrompt_eq_ok (hrun : (h.heedPrompt c prompt q next).runFrom k = (.ok result, k')) :
    (showsPrompt c prompt q = .ok true ∧ result = (q, true) ∧ k' = k) ∨
      showsPrompt c prompt q = .ok false ∧
        ((∃ r, result = (q, false) ∧ k' = h.record r k) ∨
          (next q).runFrom k = (.ok result, k')) := by
  obtain ⟨shown, k₁, hlook, hrun₁⟩ := exists_of_runFrom_bind hrun
  rw [runFrom_ofExcept] at hlook
  obtain ⟨hshown, rfl⟩ := Prod.mk.inj hlook
  cases shown with
  | true =>
    cases hrun₁
    exact .inl ⟨hshown, rfl, rfl⟩
  | false =>
    refine .inr ⟨hshown, ?_⟩
    rw [if_neg Bool.false_ne_true] at hrun₁
    obtain ⟨full, k₂, hfull, hrun₂⟩ := exists_of_runFrom_bind hrun₁
    have hstate := isFull_eq_ok hfull
    cases full with
    | true =>
      obtain ⟨r, rfl⟩ := hstate
      cases hrun₂
      exact .inl ⟨r, rfl, rfl⟩
    | false =>
      obtain rfl : k₂ = k := hstate
      exact .inr hrun₂

end Heeding

variable [TimeScale τ]

/-- A read waits for a piece of output and heeds what is in it. -/
theorem readOn_succ (deadline : τ) (reads : Nat) (p : Progress) :
    h.readOn c prompt idle deadline (reads + 1) p = (do
      if !TimeScale.lt (← h.clock) deadline then return (p, false)
      else match ← h.readPiece idle with
        | none => return (p, false)
        | some chunk =>
          if chunk.isEmpty then h.readOn c prompt idle deadline reads p
          else if c.seesPager chunk.decoded && c.autoDismiss.isTrue then
            h.heedPager c (p.absorb c chunk.decoded).1 (h.readOn c prompt idle deadline reads)
          else
            h.heedPrompt c prompt (p.absorb c chunk.decoded).1
              (h.readOn c prompt idle deadline reads)) := rfl

/-- **Every read that ends with a result goes like that.** -/
theorem reads_of_readOn {deadline : τ} {reads : Nat}
    (hrun : (h.readOn c prompt idle deadline reads p).runFrom k = (.ok (q, matched), k')) :
    h.Reads c prompt idle p k q matched k' := by
  induction reads generalizing p k with
  | zero =>
    cases hrun
    exact .late
  | succ reads ih =>
    rw [readOn_succ] at hrun
    obtain ⟨now, k₁, hnow, hrun₁⟩ := exists_of_runFrom_bind hrun
    cases hnow
    split at hrun₁
    · cases hrun₁
      exact .late
    obtain ⟨chunk?, k₁, hread, hrun₂⟩ := exists_of_runFrom_bind hrun₁
    cases chunk? with
    | none =>
      cases hrun₂
      exact .silent hread
    | some chunk =>
      simp only at hrun₂
      split at hrun₂
      · exact .empty hread ‹_› (ih hrun₂)
      have hsome : chunk.isEmpty = false := Bool.eq_false_iff.2 ‹_›
      split at hrun₂
      case isTrue hpaused =>
        rcases heedPager_eq_ok hrun₂ with ⟨r, ⟨⟩, rfl⟩ | ⟨k₂, hkey, hrun₃⟩
        · exact .paused hread hsome hpaused
        · exact .dismissed hread hsome hpaused hkey (ih hrun₃)
      case isFalse hrunning =>
        rw [Bool.not_eq_true] at hrunning
        rcases heedPrompt_eq_ok hrun₂ with
          ⟨hshown, ⟨⟩, rfl⟩ | ⟨hshown, ⟨r, ⟨⟩, rfl⟩ | hrun₃⟩
        · exact .shown hread hsome hrunning hshown
        · exact .full hread hsome hrunning hshown
        · exact .goesOn hread hsome hrunning hshown (ih hrun₃)

/-- What a capture says about the prompt comes of the read that it ends with. -/
theorem exists_reads_of_capture {time : Option τ} {pattern : PromptPattern} {captured : Captured}
    (hrun : (h.capture time (some pattern)).runFrom k = (.ok captured, k')) :
    ∃ idle q, h.Reads (h.session k).settings (some pattern) idle .start k q captured.promptMatched
        k' ∧
      q.shows (h.session k).settings pattern =
        Prompt.ends pattern Prompt.usualLookback captured.text := by
  obtain ⟨s, k₁, hknown, hrun₁⟩ := exists_of_runFrom_bind hrun
  cases hknown
  obtain ⟨now, k₂, hnow, hrun₂⟩ := exists_of_runFrom_bind hrun₁
  cases hnow
  obtain ⟨deadline, k₃, hdeadline, hrun₃⟩ := exists_of_runFrom_bind hrun₂
  rw [runFrom_ofExcept] at hdeadline
  obtain ⟨-, rfl⟩ := Prod.mk.inj hdeadline
  obtain ⟨reads, k₄, hlimit, hrun₄⟩ := exists_of_runFrom_bind hrun₃
  cases hlimit
  obtain ⟨⟨q, matched⟩, k₅, hread, hrun₅⟩ := exists_of_runFrom_bind hrun₄
  rw [runFrom_ofExcept] at hrun₅
  obtain ⟨hfinish, rfl⟩ := Prod.mk.inj hrun₅
  cases hf : q.finish (h.session k).settings matched with
  | error f => rw [hf] at hfinish; cases hfinish
  | ok captured' =>
    rw [hf] at hfinish
    cases hfinish
    obtain ⟨hshows, rfl⟩ : q.shows (h.session k).settings pattern = _ ∧ _ :=
      Progress.finish_eq_ok hf
    exact ⟨_, q, reads_of_readOn hread, hshows⟩

/-- **What a capture says about the prompt**: that it came back, if the output ends with it, unless
the last of the pieces that were delivered held a pager that was to be dismissed. -/
theorem capture_tells {time : Option τ} {pattern : PromptPattern} {captured : Captured}
    {s s' : κ × List Dealing}
    (hrun : (h.recorded.capture time (some pattern)).runFrom s = (.ok captured, s')) :
    ∃ ts, Hears s s' ts ∧
      captured.promptMatched = (Prompt.ends pattern Prompt.usualLookback captured.text &&
        !((h.session s.1).settings.autoDismiss.isTrue &&
          ts.getLast?.any (h.session s.1).settings.seesPager)) := by
  obtain ⟨idle, q, hreads, hshows⟩ := exists_reads_of_capture hrun
  obtain ⟨ts, hts, hraw⟩ := hreads.hears
  have hlast : q.raw.head? = ts.getLast? := by
    rw [← List.getLast?_reverse, hraw]
    rfl
  have hmatched := hreads.matched_eq (by rw [Progress.shows_start, Bool.false_and])
  rw [hshows, Progress.isHeld, hlast] at hmatched
  exact ⟨ts, hts, hmatched⟩

/-- **What a session says about the prompt** after a command, where neither a note of its use nor a
text that is sent changes its settings. -/
theorem runCommand_heard {command : Text} {prompt : Option PromptPattern} {captured : Captured}
    {s s' : κ × List Dealing}
    (hrun : (h.recorded.runCommand command prompt).runFrom s = (.ok captured, s'))
    (htouch : ∀ time k, (h.session (h.update (fun x => { x with lastUsed := time }) k)).settings =
      (h.session k).settings)
    (hsend : ∀ v k, (h.session ((h.send v).runFrom k).2).settings = (h.session k).settings) :
    ∃ ts, Hears s s' ts ∧
      captured.promptMatched =
        (Prompt.ends ((prompt.or ((h.session s.1).prompt.map (·.pattern))).getD .generic)
            Prompt.usualLookback captured.text &&
          !((h.session s.1).settings.autoDismiss.isTrue &&
            ts.getLast?.any (h.session s.1).settings.seesPager)) := by
  obtain ⟨session, s₁, hknown, hrun₁⟩ := exists_of_runFrom_bind hrun
  cases hknown
  obtain ⟨_, s₂, hused, hrun₂⟩ := exists_of_runFrom_bind hrun₁
  cases hused
  obtain ⟨_, s₃, hsent, hrun₃⟩ := exists_of_runFrom_bind hrun₂
  obtain ⟨captured', s₄, hcapture, hrun₄⟩ := exists_of_runFrom_bind hrun₃
  have hheard := hears_of_enters (h.enters_send _) hsent
  have hsettings : (h.session s₃.1).settings = (h.session s.1).settings := by
    have hstate := congrArg (fun x => (h.session x.2.1).settings) (ask_eq_ok_iff.1 hsent)
    exact hstate.symm.trans ((hsend _ _).trans (htouch _ _))
  obtain ⟨ts, hts, hmatched⟩ := capture_tells hcapture
  rw [hsettings] at hmatched
  -- nothing is read after the capture
  have hrest : captured' = captured ∧ Hears s₄ s' [] := by
    have hquiet : Hears s₄ s₄ [] := ⟨[], (List.append_nil _).symm, rfl⟩
    split at hrun₄
    · obtain ⟨_, s₅, hremember, hrun₅⟩ := exists_of_runFrom_bind hrun₄
      cases hrun₅
      exact ⟨rfl, hears_of_enters (h.enters_remember _) hremember⟩
    · obtain ⟨session, s₅, hknown, hrun₅⟩ := exists_of_runFrom_bind hrun₄
      cases hknown
      split at hrun₅
      · obtain ⟨_, s₆, hremember, hrun₆⟩ := exists_of_runFrom_bind hrun₅
        cases hrun₆
        exact ⟨rfl, hears_of_enters (h.enters_remember _) hremember⟩
      · cases hrun₅
        exact ⟨rfl, hquiet⟩
  obtain ⟨rfl, hquiet⟩ := hrest
  have hall := hheard.trans (hts.trans hquiet)
  rw [List.nil_append, List.append_nil] at hall
  exact ⟨ts, hall, hmatched⟩

end Host

namespace Pool

variable {σ ρ τ : Type} (p : Pool σ ρ τ) {number process : Nat}

/-- A session keeps its settings as long as nothing is done to the seats but noting its use. -/
theorem settings_host_update (time : τ) (w : World σ τ) :
    ((p.host number process).session
        ((p.host number process).update (fun x => { x with lastUsed := time }) w)).settings =
      ((p.host number process).session w).settings := by
  simp only [host, Array.getElem?_modify, if_true]
  cases w.seats[number]? with
  | none => rfl
  | some seat => rfl

/-- The settings of a session are kept with its seat. -/
theorem settings_host_of_seats {w w' : World σ τ} (h : w'.seats = w.seats) :
    ((p.host number process).session w').settings =
      ((p.host number process).session w).settings := by
  simp only [host, h]
  cases w.seats[number]? with
  | none => rfl
  | some seat => rfl

variable [TimeScale τ]

/-- **What a session says about the prompt is the truth, unless a pager hides it.** What a command
returns as raw output is made of the pieces that were delivered. It says that the prompt came back
exactly if its text ends with the prompt that was waited for, and not both: pagers are dismissed,
and the last piece held one. -/
theorem runCommand_tells {command : Text} {prompt : Option PromptPattern} {captured : Captured}
    {w w' : World σ τ}
    (hrun : ((p.host number process).runCommand command prompt).runFrom w = (.ok captured, w')) :
    let h := p.host number process
    let session := h.session w
    let pattern := (prompt.or (session.prompt.map (·.pattern))).getD .generic
    let ledger := ((h.recorded.runCommand command prompt).runFrom (w, [])).2.2
    captured.raw = (Dealing.pieces ledger).flatten ∧
      captured.promptMatched = (Prompt.ends pattern Prompt.usualLookback captured.text &&
        !(session.settings.autoDismiss.isTrue &&
          (Dealing.pieces ledger).getLast?.any session.settings.seesPager)) := by
  intro h session pattern ledger
  obtain ⟨ds, hrecorded, hraw⟩ := h.enters_runCommand command prompt w
  have hrun' := hrecorded []
  rw [hrun, List.nil_append] at hrun'
  obtain rfl : ledger = ds := by
    simp only [ledger, hrun']
  obtain ⟨ts, ⟨ds', hds', hts⟩, hmatched⟩ :=
    Host.runCommand_heard hrun' p.settings_host_update fun v w => p.settings_host_of_seats rfl
  obtain rfl : ledger = ds' := hds'
  subst hts
  exact ⟨by rw [Dealing.flatten_pieces]; exact hraw _ (by rw [hrun]), hmatched⟩

end Pool

/-! ## A pager that is left paused -/

/-- A world with one child, which answers to a command. -/
def World.answering (answer : Text) : World (Stage Empty Empty Int) Int where
  system :=
    { clock := 0
      processes :=
        #[({ Script.plain "sh" with
              initial := [], responses := [("show\n".toList, [.text answer])] } :
            Script Empty Int).process]
      scripts := []
      journal := [] }
  seats := #[]
  roster := .empty
  isReaping := false

namespace Pool

/-- A session that looks for pagers and leaves them paused. -/
def wary : Host (World (Stage Empty Empty Int) Int) Int :=
  (onStage Empty.elim
    { silent.options with
      settings :=
        { silent.options.settings with
          maxWait := .int 9, maxBuffer := .number (.int 20), maxPages := .number (.int 0)
          autoDismiss := .bool true } }
    fun _ w => w).host 0 0

/-- The prompt of a router. -/
def routerPrompt : PromptPattern :=
  .ofHost "router".toList

set_option maxRecDepth 4000 in
/-- The prompt comes back behind a line of output, and the session says so. -/
theorem runCommand_tells_plain :
    ∃ captured w, (wary.runCommand "show".toList (some routerPrompt)).runFrom
        (.answering "up\r\nrouter#".toList) = (.ok captured, w) ∧
      captured.promptMatched = true ∧
      Prompt.ends routerPrompt Prompt.usualLookback captured.text = true := by
  have hmatched : ((wary.runCommand "show".toList (some routerPrompt)).runFrom
      (.answering "up\r\nrouter#".toList)).1.map Captured.promptMatched = .ok true := by cbv
  cases hrun : (wary.runCommand "show".toList (some routerPrompt)).runFrom
      (.answering "up\r\nrouter#".toList) with
  | mk result w =>
    rw [hrun] at hmatched
    cases result with
    | error f => cases hmatched
    | ok captured =>
      obtain hmatched : captured.promptMatched = true := Except.ok.inj hmatched
      obtain ⟨-, htells⟩ := runCommand_tells _ hrun
      rw [hmatched] at htells
      exact ⟨captured, w, rfl, hmatched, (Bool.and_eq_true_iff.1 htells.symm).1⟩

set_option maxRecDepth 4000 in
/-- **A pager hides the prompt behind it.** The text ends with the prompt that was waited for, and
the session says that it did not come back. -/
theorem runCommand_hides :
    ∃ captured w, (wary.runCommand "show".toList (some routerPrompt)).runFrom
        (.answering "--More--\r\nrouter#".toList) = (.ok captured, w) ∧
      captured.promptMatched = false ∧
      Prompt.ends routerPrompt Prompt.usualLookback captured.text = true := by
  have hcaptured : ((wary.runCommand "show".toList (some routerPrompt)).runFrom
      (.answering "--More--\r\nrouter#".toList)).1.map (fun c => (c.promptMatched, c.text)) =
        .ok (false, "\r\nrouter#".toList) := by cbv
  cases hrun : (wary.runCommand "show".toList (some routerPrompt)).runFrom
      (.answering "--More--\r\nrouter#".toList) with
  | mk result w =>
    rw [hrun] at hcaptured
    cases result with
    | error f => cases hcaptured
    | ok captured =>
      obtain ⟨hmatched, htext⟩ := Prod.mk.inj (Except.ok.inj hcaptured)
      exact ⟨captured, w, rfl, hmatched, by rw [htext]; cbv⟩

end Pool

end Teletype
