import Mathlib
import Teletype.Proofs.Telling

/-!
# The turns of a read

A read of output goes in turns. In each of them it waits for a piece of output, looks at it, and
either goes on or ends. `Host.GoesOn` and `Host.Stops` say all that a turn can do: from what was read
so far and a state, what passes between the session and its child, and what comes of it. Every turn
does one of the two (`Host.readOn_turn`), so every read is a row of turns that go on and one that ends
it, unless it is cut short (`Host.readOn_cases`).

What a read knows is what passed between the session and its child: `Progress.follow` tells the one
from the other.
-/

namespace Teletype

open Teletype.Action

/-! ## What is known of what passed -/

/-- A piece of output that is not empty has characters. -/
theorem Chunk.length_decoded_pos {chunk : Chunk} (h : chunk.isEmpty = false) :
    0 < chunk.decoded.length := by
  rw [List.length_pos_iff]
  intro hnil
  rw [Chunk.isEmpty_of_decoded hnil] at h
  cases h

namespace Dealing

/-- Whether it is a read. -/
def isRead : Dealing → Bool
  | read _ => true
  | _ => false

/-- Whether it is something that was sent. -/
def isSent : Dealing → Bool
  | sent .. => true
  | _ => false

/-- How often it was read. -/
def reads (ds : List Dealing) : Nat :=
  ds.countP isRead

/-- How often something was sent. -/
def sends (ds : List Dealing) : Nat :=
  ds.countP isSent

@[simp] theorem reads_append (ds ds' : List Dealing) : reads (ds ++ ds') = reads ds + reads ds' :=
  List.countP_append

@[simp] theorem sends_append (ds ds' : List Dealing) : sends (ds ++ ds') = sends ds + sends ds' :=
  List.countP_append

/-- A piece of output that is not empty is a piece. -/
theorem pieces_read {chunk : Chunk} (h : chunk.isEmpty = false) :
    pieces [read (.ok chunk)] = [chunk.decoded] := by
  simp [pieces, delivered, chunk?, h]

end Dealing

namespace Progress

/-- Sends a key that dismisses a pager. -/
def keyed (p : Progress) : Progress :=
  { p with pages := p.pages + 1, afterKey := true }

/-- Takes in something that passed between a session and its child. -/
def note (c : Settings) (p : Progress) : Dealing → Progress
  | .read (.ok chunk) => if chunk.isEmpty then p else (p.absorb c chunk.decoded).1
  | .sent _ (.ok ()) => p.keyed
  | _ => p

/-- Takes in all that passed. -/
def follow (c : Settings) (p : Progress) (ds : List Dealing) : Progress :=
  ds.foldl (note c) p

theorem follow_append (c : Settings) (p : Progress) (ds ds' : List Dealing) :
    p.follow c (ds ++ ds') = (p.follow c ds).follow c ds' :=
  List.foldl_append

variable {c : Settings} {p : Progress} {chunk : Chunk}

theorem follow_empty (h : chunk.isEmpty = true) : p.follow c [.read (.ok chunk)] = p := by
  simp [follow, note, h]

theorem follow_piece (h : chunk.isEmpty = false) :
    p.follow c [.read (.ok chunk)] = (p.absorb c chunk.decoded).1 := by
  simp [follow, note, h]

end Progress

namespace Host

variable {κ τ : Type} {h : Host κ τ} {c : Settings} {prompt : Option PromptPattern}
  {idle deadline : τ} {p q : Progress} {k k' : κ}

/-! ## What a ledger keeps of a turn -/

theorem recorded_readPiece_of_ok {chunk : Chunk} (hread : (h.read idle).runFrom k = (.ok chunk, k'))
    (l : List Dealing) :
    (h.recorded.readPiece idle).runFrom (k, l) =
      (.ok (some chunk), (k', l ++ [.read (.ok chunk)])) := by
  simp only [readPiece, recorded, runFrom_bind, runFrom_attempt, entering, runFrom_ofRun, hread]
  rfl

theorem recorded_readPiece_of_error {f : ChildFault}
    (hread : (h.read idle).runFrom k = (.error f, k')) (l : List Dealing) :
    (h.recorded.readPiece idle).runFrom (k, l) =
      (if f.kind = .silent ∨ f.kind = .ended then .ok none else .error (.child f),
        (k', l ++ [.read (.error f)])) := by
  simp only [readPiece, recorded, runFrom_bind, runFrom_attempt, entering, runFrom_ofRun, hread]
  split <;> rfl

/-- The key that dismisses a pager is sent, and that is entered. -/
theorem recorded_dismiss (c : Settings) (k : κ) (l : List Dealing) :
    (h.recorded.dismiss c).runFrom (k, l) =
      (((h.send c.dismissKey).runFrom k).1.mapError .child,
        (((h.send c.dismissKey).runFrom k).2,
          l ++ [.sent c.dismissKey ((h.send c.dismissKey).runFrom k).1])) := by
  rw [dismiss, ask, runFrom_mapFault]
  rfl

/-- Whether as many pagers were dismissed as may be: only a note is made of it. -/
theorem recorded_isSpent (c : Settings) (q : Progress) (k : κ) :
    ∃ r, ∀ l, (h.recorded.isSpent c q).runFrom (k, l) =
      (hasReached q.pages c.maxPages,
        (match hasReached q.pages c.maxPages with
          | .ok true => h.record r k
          | _ => k, l)) := by
  refine ⟨⟨.warning, .session,
    s!"Session {(h.session k).id}: pager limit ({limitText c.maxPages}) reached, leaving it paused"⟩,
    fun l => ?_⟩
  simp only [isSpent, runFrom_bind, runFrom_ofExcept]
  cases hasReached q.pages c.maxPages with
  | error f => rfl
  | ok reached => cases reached <;> rfl

/-- Whether there is no room for more: only a note is made of it. -/
theorem recorded_isFull (c : Settings) (q : Progress) (k : κ) :
    ∃ r, ∀ l, (h.recorded.isFull c q).runFrom (k, l) =
      ((atMost q.total c.maxBuffer).map (!·),
        (match atMost q.total c.maxBuffer with
          | .ok false => h.record r k
          | _ => k, l)) := by
  refine ⟨⟨.warning, .session,
    s!"Session {(h.session k).id}: output exceeded {limitText c.maxBuffer} chars, returning early"⟩,
    fun l => ?_⟩
  simp only [isFull, runFrom_bind, runFrom_ofExcept]
  cases atMost q.total c.maxBuffer with
  | error f => rfl
  | ok fits => cases fits <;> rfl

/-! ## What a turn can do -/

variable [TimeScale τ]

/-- A piece of output comes in time. -/
structure Meets (h : Host κ τ) (idle deadline : τ) (k : κ) (chunk : Chunk) (k' : κ) : Prop where
  inTime : TimeScale.lt (h.now k) deadline = true
  read : (h.read idle).runFrom k = (.ok chunk, k')

/-- A piece of output holds a pager that is to be dismissed. -/
structure MeetsPager (h : Host κ τ) (c : Settings) (idle deadline : τ) (k : κ) (chunk : Chunk)
    (k' : κ) : Prop extends h.Meets idle deadline k chunk k' where
  isSome : chunk.isEmpty = false
  paused : (c.seesPager chunk.decoded && c.autoDismiss.isTrue) = true

/-- A piece of output holds none. -/
structure MeetsText (h : Host κ τ) (c : Settings) (idle deadline : τ) (k : κ) (chunk : Chunk)
    (k' : κ) : Prop extends h.Meets idle deadline k chunk k' where
  isSome : chunk.isEmpty = false
  running : (c.seesPager chunk.decoded && c.autoDismiss.isTrue) = false

/-- **How a turn goes on**: from what was read and a state, with what passes meanwhile, to what was
read and the state for the next one. -/
inductive GoesOn (h : Host κ τ) (c : Settings) (prompt : Option PromptPattern) (idle deadline : τ) :
    Progress → κ → List Dealing → Progress → κ → Prop
  /-- An empty piece of output counts for nothing. -/
  | empty {p : Progress} {k k' : κ} {chunk : Chunk} :
    h.Meets idle deadline k chunk k' → chunk.isEmpty = true →
    GoesOn h c prompt idle deadline p k [.read (.ok chunk)] p k'
  /-- A pager is dismissed, as the limits allow it. -/
  | dismissed {p : Progress} {k k₁ k' : κ} {chunk : Chunk} :
    h.MeetsPager c idle deadline k chunk k₁ →
    hasReached p.pages c.maxPages = .ok false →
    atMost (p.total + chunk.decoded.length) c.maxBuffer = .ok true →
    (h.send c.dismissKey).runFrom k₁ = (.ok (), k') →
    GoesOn h c prompt idle deadline p k [.read (.ok chunk), .sent c.dismissKey (.ok ())]
      (p.absorb c chunk.decoded).1.keyed k'
  /-- The prompt has not come back, and there is room for more. -/
  | text {p : Progress} {k k' : κ} {chunk : Chunk} :
    h.MeetsText c idle deadline k chunk k' →
    showsPrompt c prompt (p.absorb c chunk.decoded).1 = .ok false →
    atMost (p.total + chunk.decoded.length) c.maxBuffer = .ok true →
    GoesOn h c prompt idle deadline p k [.read (.ok chunk)] (p.absorb c chunk.decoded).1 k'

/-- **How a turn ends** a read: from what was read and a state, with what passes meanwhile, to what
the read ends with and its state. -/
inductive Stops (h : Host κ τ) (c : Settings) (prompt : Option PromptPattern) (idle deadline : τ) :
    Progress → κ → List Dealing → Except SessionFault (Progress × Bool) → κ → Prop
  /-- There is no time left. -/
  | late {p : Progress} {k : κ} :
    TimeScale.lt (h.now k) deadline = false →
    Stops h c prompt idle deadline p k [] (.ok (p, false)) k
  /-- The child is silent, or has ended. -/
  | silent {p : Progress} {k k' : κ} {f : ChildFault} :
    (h.read idle).runFrom k = (.error f, k') → (f.kind = .silent ∨ f.kind = .ended) →
    Stops h c prompt idle deadline p k [.read (.error f)] (.ok (p, false)) k'
  /-- The child cannot be read. -/
  | broken {p : Progress} {k k' : κ} {f : ChildFault} :
    (h.read idle).runFrom k = (.error f, k') → ¬(f.kind = .silent ∨ f.kind = .ended) →
    Stops h c prompt idle deadline p k [.read (.error f)] (.error (.child f)) k'
  /-- A pager is left paused, since as many were dismissed as may be or there is no room, which is
  noted. -/
  | paused {p : Progress} {k k₁ : κ} {chunk : Chunk} {r : LogRecord} :
    h.MeetsPager c idle deadline k chunk k₁ →
    hasReached p.pages c.maxPages = .ok true ∨
      atMost (p.total + chunk.decoded.length) c.maxBuffer = .ok false →
    Stops h c prompt idle deadline p k [.read (.ok chunk)]
      (.ok ((p.absorb c chunk.decoded).1, false)) (h.record r k₁)
  /-- The key that dismisses a pager cannot be sent. -/
  | refused {p : Progress} {k k₁ k' : κ} {chunk : Chunk} {f : ChildFault} :
    h.MeetsPager c idle deadline k chunk k₁ →
    (h.send c.dismissKey).runFrom k₁ = (.error f, k') →
    Stops h c prompt idle deadline p k [.read (.ok chunk), .sent c.dismissKey (.error f)]
      (.error (.child f)) k'
  /-- The prompt comes back. -/
  | shown {p : Progress} {k k₁ : κ} {chunk : Chunk} :
    h.MeetsText c idle deadline k chunk k₁ →
    showsPrompt c prompt (p.absorb c chunk.decoded).1 = .ok true →
    Stops h c prompt idle deadline p k [.read (.ok chunk)]
      (.ok ((p.absorb c chunk.decoded).1, true)) k₁
  /-- There is no room for more, which is noted. -/
  | full {p : Progress} {k k₁ : κ} {chunk : Chunk} {r : LogRecord} :
    h.MeetsText c idle deadline k chunk k₁ →
    atMost (p.total + chunk.decoded.length) c.maxBuffer = .ok false →
    Stops h c prompt idle deadline p k [.read (.ok chunk)]
      (.ok ((p.absorb c chunk.decoded).1, false)) (h.record r k₁)
  /-- It cannot be seen whether the prompt has come back. -/
  | unseen {p : Progress} {k k₁ : κ} {chunk : Chunk} {f : SessionFault} :
    h.MeetsText c idle deadline k chunk k₁ →
    showsPrompt c prompt (p.absorb c chunk.decoded).1 = .error f →
    Stops h c prompt idle deadline p k [.read (.ok chunk)] (.error f) k₁
  /-- A limit is no number. -/
  | unlimited {p : Progress} {k k₁ : κ} {chunk : Chunk} {f : SessionFault} :
    h.Meets idle deadline k chunk k₁ → chunk.isEmpty = false →
    hasReached p.pages c.maxPages = .error f ∨
      atMost (p.total + chunk.decoded.length) c.maxBuffer = .error f →
    Stops h c prompt idle deadline p k [.read (.ok chunk)] (.error f) k₁

/-! ## Every turn does one of the two -/

/-- What a turn does about a piece of output that holds a pager. -/
theorem heedPager_turn {chunk : Chunk} {k₁ : κ} (hmeets : h.MeetsPager c idle deadline k chunk k₁) :
    let heed := fun next (l : List Dealing) =>
      (h.recorded.heedPager c (p.absorb c chunk.decoded).1 next).runFrom (k₁, l)
    (∃ ds q k', h.GoesOn c prompt idle deadline p k (.read (.ok chunk) :: ds) q k' ∧
        ∀ next l, heed next l = (next q).runFrom (k', l ++ ds)) ∨
      ∃ ds r k', h.Stops c prompt idle deadline p k (.read (.ok chunk) :: ds) r k' ∧
        ∀ next l, heed next l = (r, (k', l ++ ds)) := by
  intro heed
  obtain ⟨note, hnote⟩ := h.recorded_isSpent c (p.absorb c chunk.decoded).1 k₁
  obtain ⟨note', hnote'⟩ := h.recorded_isFull c (p.absorb c chunk.decoded).1 k₁
  have hpages : (p.absorb c chunk.decoded).1.pages = p.pages := rfl
  have htotal : (p.absorb c chunk.decoded).1.total = p.total + chunk.decoded.length := rfl
  rw [hpages] at hnote
  rw [htotal] at hnote'
  cases hspent : hasReached p.pages c.maxPages with
  | error f =>
    refine .inr ⟨[], _, _, .unlimited hmeets.toMeets hmeets.isSome (.inl hspent), fun next l => ?_⟩
    simp only [heed, heedPager, runFrom_bind, hnote, hspent, List.append_nil]
  | ok spent =>
  cases spent with
  | true =>
    refine .inr ⟨[], _, _, .paused (r := note) hmeets (.inl hspent), fun next l => ?_⟩
    simp only [heed, heedPager, runFrom_bind, hnote, hspent, if_true, runFrom_pure,
      List.append_nil]
  | false =>
    have hheed : ∀ next l, heed next l =
        (do
          if ← h.recorded.isFull c (p.absorb c chunk.decoded).1 then
            return ((p.absorb c chunk.decoded).1, false)
          else
            h.recorded.dismiss c
            next (p.absorb c chunk.decoded).1.keyed).runFrom (k₁, l) := fun next l => by
      simp only [heed, heedPager, runFrom_bind, hnote, hspent, Bool.false_eq_true, if_false]
      rfl
    cases hfits : atMost (p.total + chunk.decoded.length) c.maxBuffer with
    | error f =>
      refine .inr ⟨[], _, _, .unlimited hmeets.toMeets hmeets.isSome (.inr hfits), fun next l => ?_⟩
      rw [hheed, runFrom_bind, hnote', hfits, List.append_nil]
      rfl
    | ok fits =>
    cases fits with
    | false =>
      refine .inr ⟨[], _, _, .paused (r := note') hmeets (.inr hfits), fun next l => ?_⟩
      rw [hheed, runFrom_bind, hnote', hfits, List.append_nil]
      rfl
    | true =>
      obtain ⟨sent, k', hsent⟩ : ∃ r k', (h.send c.dismissKey).runFrom k₁ = (r, k') := ⟨_, _, rfl⟩
      have hkey := h.recorded_dismiss c k₁
      rw [hsent] at hkey
      cases sent with
      | ok =>
        refine .inl ⟨_, _, k', .dismissed hmeets hspent hfits hsent, fun next l => ?_⟩
        rw [hheed, runFrom_bind, hnote', hfits]
        exact (runFrom_bind _ _ _).trans (by rw [hkey]; rfl)
      | error f =>
        refine .inr ⟨_, _, k', .refused hmeets hsent, fun next l => ?_⟩
        rw [hheed, runFrom_bind, hnote', hfits]
        exact (runFrom_bind _ _ _).trans (by rw [hkey]; rfl)

/-- What a turn does about a piece of output that holds no pager. -/
theorem heedPrompt_turn {chunk : Chunk} {k₁ : κ}
    (hmeets : h.MeetsText c idle deadline k chunk k₁) :
    let heed := fun next (l : List Dealing) =>
      (h.recorded.heedPrompt c prompt (p.absorb c chunk.decoded).1 next).runFrom (k₁, l)
    (∃ q, h.GoesOn c prompt idle deadline p k [.read (.ok chunk)] q k₁ ∧
        ∀ next l, heed next l = (next q).runFrom (k₁, l)) ∨
      ∃ r k', h.Stops c prompt idle deadline p k [.read (.ok chunk)] r k' ∧
        ∀ next l, heed next l = (r, (k', l)) := by
  intro heed
  obtain ⟨note, hnote⟩ := h.recorded_isFull c (p.absorb c chunk.decoded).1 k₁
  have htotal : (p.absorb c chunk.decoded).1.total = p.total + chunk.decoded.length := rfl
  rw [htotal] at hnote
  cases hshown : showsPrompt c prompt (p.absorb c chunk.decoded).1 with
  | error f =>
    refine .inr ⟨_, _, .unseen hmeets hshown, fun next l => ?_⟩
    simp only [heed, heedPrompt, runFrom_bind, runFrom_ofExcept, hshown]
  | ok shown =>
  cases shown with
  | true =>
    refine .inr ⟨_, _, .shown hmeets hshown, fun next l => ?_⟩
    simp only [heed, heedPrompt, runFrom_bind, runFrom_ofExcept, hshown, if_true, runFrom_pure]
  | false =>
    have hheed : ∀ next l, heed next l =
        (do
          if ← h.recorded.isFull c (p.absorb c chunk.decoded).1 then
            return ((p.absorb c chunk.decoded).1, false)
          else next (p.absorb c chunk.decoded).1).runFrom (k₁, l) := fun next l => by
      simp only [heed, heedPrompt, runFrom_bind, runFrom_ofExcept, hshown, Bool.false_eq_true,
        if_false]
    cases hfits : atMost (p.total + chunk.decoded.length) c.maxBuffer with
    | error f =>
      refine .inr ⟨_, _, .unlimited hmeets.toMeets hmeets.isSome (.inr hfits), fun next l => ?_⟩
      rw [hheed, runFrom_bind, hnote, hfits]
      rfl
    | ok fits =>
    cases fits with
    | false =>
      refine .inr ⟨_, _, .full (r := note) hmeets hfits, fun next l => ?_⟩
      rw [hheed, runFrom_bind, hnote, hfits]
      rfl
    | true =>
      refine .inl ⟨_, .text hmeets hshown hfits, fun next l => ?_⟩
      rw [hheed, runFrom_bind, hnote, hfits]
      rfl

/-- **Every turn goes on or ends the read**, whatever was read before it. -/
theorem readOn_turn (h : Host κ τ) (c : Settings) (prompt : Option PromptPattern)
    (idle deadline : τ) (p : Progress) (k : κ) :
    let read := h.recorded.readOn c prompt idle deadline
    (∃ ds q k', h.GoesOn c prompt idle deadline p k ds q k' ∧
        ∀ reads l, (read (reads + 1) p).runFrom (k, l) = (read reads q).runFrom (k', l ++ ds)) ∨
      ∃ ds r k', h.Stops c prompt idle deadline p k ds r k' ∧
        ∀ reads l, (read (reads + 1) p).runFrom (k, l) = (r, (k', l ++ ds)) := by
  intro read
  have hnow : ∀ l, h.recorded.now (k, l) = h.now k := fun _ => rfl
  cases htime : TimeScale.lt (h.now k) deadline with
  | false =>
    refine .inr ⟨[], _, _, .late htime, fun reads l => ?_⟩
    simp only [read, readOn_succ, clock, runFrom_bind, runFrom_look, hnow, htime, Bool.not_false,
      if_true, runFrom_pure, List.append_nil]
  | true =>
    obtain ⟨delivery, k₁, hread⟩ : ∃ r k₁, (h.read idle).runFrom k = (r, k₁) := ⟨_, _, rfl⟩
    cases delivery with
    | error f =>
      have hpiece := recorded_readPiece_of_error hread
      have hturn : ∀ reads l, (read (reads + 1) p).runFrom (k, l) = _ := fun reads l => by
        simp only [read, readOn_succ, clock, runFrom_bind, runFrom_look, hnow, htime, Bool.not_true,
          Bool.false_eq_true, if_false, hpiece]
        rfl
      by_cases hf : f.kind = .silent ∨ f.kind = .ended
      · refine .inr ⟨_, _, _, .silent hread hf, fun reads l => ?_⟩
        rw [hturn, if_pos hf]
        rfl
      · refine .inr ⟨_, _, _, .broken hread hf, fun reads l => ?_⟩
        rw [hturn, if_neg hf]
    | ok chunk =>
      have hmeets : h.Meets idle deadline k chunk k₁ := ⟨htime, hread⟩
      have hpiece := recorded_readPiece_of_ok hread
      have hturn : ∀ reads l, (read (reads + 1) p).runFrom (k, l) =
          (if chunk.isEmpty then read reads p
            else if c.seesPager chunk.decoded && c.autoDismiss.isTrue then
              h.recorded.heedPager c (p.absorb c chunk.decoded).1 (read reads)
            else h.recorded.heedPrompt c prompt (p.absorb c chunk.decoded).1 (read reads)).runFrom
              (k₁, l ++ [.read (.ok chunk)]) := fun reads l => by
        simp only [read, readOn_succ, clock, runFrom_bind, runFrom_look, hnow, htime, Bool.not_true,
          Bool.false_eq_true, if_false, hpiece]
      cases hempty : chunk.isEmpty with
      | true =>
        refine .inl ⟨_, _, _, .empty hmeets hempty, fun reads l => ?_⟩
        rw [hturn, if_pos hempty]
      | false =>
        have hsome : ¬chunk.isEmpty = true := Bool.eq_false_iff.1 hempty
        cases hpaused : c.seesPager chunk.decoded && c.autoDismiss.isTrue with
        | true =>
          rcases heedPager_turn ⟨hmeets, hempty, hpaused⟩ with
            ⟨ds, q, k', hgoes, hheed⟩ | ⟨ds, r, k', hstops, hheed⟩
          · refine .inl ⟨_, q, k', hgoes, fun reads l => ?_⟩
            rw [hturn, if_neg hsome, if_pos hpaused]
            exact (hheed _ _).trans (by rw [List.append_assoc]; rfl)
          · refine .inr ⟨_, r, k', hstops, fun reads l => ?_⟩
            rw [hturn, if_neg hsome, if_pos hpaused]
            exact (hheed _ _).trans (by rw [List.append_assoc]; rfl)
        | false =>
          have hrunning := Bool.eq_false_iff.1 hpaused
          rcases heedPrompt_turn ⟨hmeets, hempty, hpaused⟩ with
            ⟨q, hgoes, hheed⟩ | ⟨r, k', hstops, hheed⟩
          · refine .inl ⟨_, q, k₁, hgoes, fun reads l => ?_⟩
            rw [hturn, if_neg hsome, if_neg hrunning]
            exact hheed _ _
          · refine .inr ⟨_, r, k', hstops, fun reads l => ?_⟩
            rw [hturn, if_neg hsome, if_neg hrunning]
            exact hheed _ _

/-! ## Reads as rows of turns -/

/-- **Some turns that go on**, one after the other, and all that passes meanwhile. -/
inductive Arrives (h : Host κ τ) (c : Settings) (prompt : Option PromptPattern) (idle deadline : τ)
    (p : Progress) (k : κ) : List Dealing → Progress → κ → Prop
  | start : Arrives h c prompt idle deadline p k [] p k
  | turn {ds ds' : List Dealing} {q q' : Progress} {k₁ k' : κ} :
    Arrives h c prompt idle deadline p k ds q k₁ →
    h.GoesOn c prompt idle deadline q k₁ ds' q' k' →
    Arrives h c prompt idle deadline p k (ds ++ ds') q' k'

/-- A turn takes in what passes in it. -/
theorem GoesOn.eq_follow {ds : List Dealing} (hgoes : h.GoesOn c prompt idle deadline p k ds q k') :
    q = p.follow c ds := by
  cases hgoes with
  | empty _ hempty => exact (Progress.follow_empty hempty).symm
  | dismissed hmeets =>
    rw [← List.singleton_append, Progress.follow_append, Progress.follow_piece hmeets.isSome]
    rfl
  | text hmeets => exact (Progress.follow_piece hmeets.isSome).symm

/-- A read that ends with a result takes in what passes in its last turn. -/
theorem Stops.eq_follow {ds : List Dealing} {matched : Bool}
    (hstops : h.Stops c prompt idle deadline p k ds (.ok (q, matched)) k') :
    q = p.follow c ds := by
  cases hstops with
  | late | silent => rfl
  | paused hmeets | shown hmeets | full hmeets => exact (Progress.follow_piece hmeets.isSome).symm

theorem Arrives.eq_follow {ds : List Dealing}
    (harrives : h.Arrives c prompt idle deadline p k ds q k') : q = p.follow c ds := by
  induction harrives with
  | start => rfl
  | turn _ hgoes ih => rw [hgoes.eq_follow, ih, Progress.follow_append]

/-- There is one read in a turn that goes on. -/
theorem GoesOn.reads {ds : List Dealing} (hgoes : h.GoesOn c prompt idle deadline p k ds q k') :
    Dealing.reads ds = 1 := by
  cases hgoes <;> rfl

/-- There is no more than that in one that ends a read. -/
theorem Stops.reads_le {ds : List Dealing} {r : Except SessionFault (Progress × Bool)}
    (hstops : h.Stops c prompt idle deadline p k ds r k') : Dealing.reads ds ≤ 1 := by
  cases hstops with
  | late => exact Nat.zero_le 1
  | _ => exact Nat.le_refl 1

/-- **How every read goes** from where it is: some more turns go on, and then a turn ends it or it is
cut short. -/
theorem readOn_cases {p₀ : Progress} {k₀ : κ} {ds ds' : List Dealing}
    (harrives : h.Arrives c prompt idle deadline p₀ k₀ ds p k) {reads : Nat}
    {r : Except SessionFault (Progress × Bool)}
    (hrun : (h.recorded.readOn c prompt idle deadline reads p).runFrom (k, ds) = (r, (k', ds'))) :
    (∃ q, h.Arrives c prompt idle deadline p₀ k₀ ds' q k' ∧ r = .ok (q, false)) ∨
      ∃ ds₁ q k₁ ds₂, h.Arrives c prompt idle deadline p₀ k₀ ds₁ q k₁ ∧
        h.Stops c prompt idle deadline q k₁ ds₂ r k' ∧ ds' = ds₁ ++ ds₂ := by
  induction reads generalizing p k ds with
  | zero =>
    cases hrun
    exact .inl ⟨p, harrives, rfl⟩
  | succ reads ih =>
    rcases h.readOn_turn c prompt idle deadline p k with
      ⟨ds₁, q, k₁, hgoes, hturn⟩ | ⟨ds₂, r', k₁, hstops, hturn⟩
    · exact ih (harrives.turn hgoes) ((hturn reads ds).symm.trans hrun)
    · have hend := (hturn reads ds).symm.trans hrun
      cases hend
      exact .inr ⟨ds, p, k, ds₂, harrives, hstops, rfl⟩

/-! ## Captures as reads -/

/-- A read depends on no more of its host than the clock, the child and the log. -/
theorem readOn_congr {g : Host κ τ} (hnow : g.now = h.now) (hread : g.read = h.read)
    (hsend : g.send = h.send) (hsession : g.session = h.session) (hrecord : g.record = h.record)
    (reads : Nat) (p : Progress) :
    g.readOn c prompt idle deadline reads p = h.readOn c prompt idle deadline reads p := by
  induction reads generalizing p with
  | zero => rfl
  | succ reads ih =>
    have hrest : g.readOn c prompt idle deadline reads = h.readOn c prompt idle deadline reads :=
      funext ih
    have hpiece : g.readPiece idle = h.readPiece idle := by rw [readPiece, readPiece, hread]
    have hspent : g.isSpent c = h.isSpent c := by
      funext q
      rw [isSpent, isSpent, note, note, hsession, hrecord]
    have hfull : g.isFull c = h.isFull c := by
      funext q
      rw [isFull, isFull, note, note, hsession, hrecord]
    have hkey : g.dismiss c = h.dismiss c := by rw [dismiss, dismiss, hsend]
    rw [readOn_succ, readOn_succ, hrest, hpiece, clock, clock, hnow]
    simp only [heedPager, heedPrompt, hspent, hfull, hkey]

/-- The read that a capture makes, from the start and up to its deadline. -/
def reading (h : Host κ τ) (time : Option τ) (prompt : Option PromptPattern) (k : κ) :
    Action κ SessionFault (Progress × Bool) := do
  let c := (h.session k).settings
  let deadline ← Action.ofExcept (c.deadline (h.now k))
  h.readOn c prompt (time.getD (TimeScale.ofNumber c.idleTimeout)) deadline
    (h.readLimit (limitSize c.maxBuffer) k) .start

/-- Where the longest wait is no number that can be added to the time, nothing is read. -/
theorem runFrom_reading_of_overflows {time : Option τ} {k : κ}
    (hover : TimeScale.overflows (h.now k) (h.session k).settings.maxWait = true) :
    (h.reading time prompt k).runFrom k = (.error .overflow, k) := by
  simp only [reading, Settings.deadline_of_overflows hover, runFrom_bind, runFrom_ofExcept]

/-- Else it is read until the longest wait is over. -/
theorem reading_of_fits {time : Option τ} {k : κ}
    (hfits : TimeScale.overflows (h.now k) (h.session k).settings.maxWait = false) :
    h.reading time prompt k =
      h.readOn (h.session k).settings prompt
        (time.getD (TimeScale.ofNumber (h.session k).settings.idleTimeout))
        (TimeScale.add (h.now k) (TimeScale.ofNumber (h.session k).settings.maxWait))
        (h.readLimit (limitSize (h.session k).settings.maxBuffer) k) .start := by
  rw [reading, Settings.deadline_of_fits hfits]
  rfl

/-- What was read was read before some deadline. -/
theorem fits_of_reading {time : Option τ} {k k' : κ} {r : Progress × Bool}
    (hread : (h.reading time prompt k).runFrom k = (.ok r, k')) :
    TimeScale.overflows (h.now k) (h.session k).settings.maxWait = false := by
  cases hover : TimeScale.overflows (h.now k) (h.session k).settings.maxWait with
  | false => rfl
  | true => cases (runFrom_reading_of_overflows hover).symm.trans hread

/-- What a capture makes of what its read ends with. -/
def outcome (c : Settings) (r : Except SessionFault (Progress × Bool)) :
    Except SessionFault Captured :=
  r.bind fun x => (x.1.finish c x.2).mapError .render

theorem runFrom_capture (h : Host κ τ) (time : Option τ) (prompt : Option PromptPattern) (k : κ) :
    (h.capture time prompt).runFrom k =
      (outcome (h.session k).settings ((h.reading time prompt k).runFrom k).1,
        ((h.reading time prompt k).runFrom k).2) := by
  have hcapture : (h.capture time prompt).runFrom k = (h.reading time prompt k >>= fun x =>
      Action.ofExcept ((x.1.finish (h.session k).settings x.2).mapError .render)).runFrom k := by
    simp only [capture, reading, known, clock, runFrom_bind, runFrom_look, runFrom_ofExcept]
    cases (h.session k).settings.deadline (h.now k) with
    | ok deadline => rfl
    | error f => rfl
  rw [hcapture, runFrom_bind]
  obtain ⟨r, k', hreading⟩ : ∃ r k', (h.reading time prompt k).runFrom k = (r, k') := ⟨_, _, rfl⟩
  rw [hreading]
  cases r <;> rfl

/-- What is read is returned if it can be rendered, and the fault of that if not. -/
theorem outcome_ok (c : Settings) (p : Progress) (matched : Bool) :
    (∃ text, p.rendered c = .ok text ∧
        outcome c (.ok (p, matched)) = .ok ⟨text, p.raw.reverse.flatten, p.pages, matched⟩) ∨
      ∃ f, p.rendered c = .error f ∧ outcome c (.ok (p, matched)) = .error (.render f) := by
  have houtcome : outcome c (.ok (p, matched)) = (p.finish c matched).mapError .render := rfl
  rw [houtcome, Progress.finish]
  cases p.rendered c with
  | ok text => exact .inl ⟨text, rfl, rfl⟩
  | error f => exact .inr ⟨f, rfl, rfl⟩

omit [TimeScale τ] in
/-- What a capture returns was read. -/
theorem exists_of_outcome {r : Except SessionFault (Progress × Bool)} {captured : Captured}
    (hok : outcome c r = .ok captured) :
    ∃ q, r = .ok (q, captured.promptMatched) ∧ q.rendered c = .ok captured.text ∧
      q.pages = captured.pages := by
  cases r with
  | error f => cases hok
  | ok read =>
    obtain ⟨q, matched⟩ := read
    rcases outcome_ok c q matched with ⟨text, hrendered, houtcome⟩ | ⟨f, -, houtcome⟩
    · cases houtcome.symm.trans hok
      exact ⟨q, rfl, hrendered, rfl⟩
    · cases houtcome.symm.trans hok

end Host

end Teletype
