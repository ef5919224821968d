import Mathlib
import Teletype.Proofs.Caps
import Teletype.Proofs.Cutting
import Teletype.Proofs.Extent

/-!
# Every read ends

A child that is given a key can always answer with more output, so the output that is still to come
does not get less with every turn of a read. Nor does what is read get more: an empty piece counts
for nothing. But one of the two happens in every turn that goes on, and the limit to the characters
that are read bounds how often the second one does. So a read ends after finitely many turns,
whatever the clock does, if its child has at any time only so many pieces to deliver
(`Host.exists_stops`).

How it ends is what a reader would want, but for two cases (`Host.capture_ends`): output that cannot
be rendered makes the capture fail, and so does a longest wait that is too large to be added to the
time, although nothing is wrong with the child. Tab stops that are infinitely far apart are out of
this: the reads come to an end there as well, but a tab keeps what they brought from ever being
rendered.
-/

namespace Teletype

open Teletype.Action

/-- The last of some dealings was a read or a key that failed. -/
def Dealing.BreaksOff (ds : List Dealing) (f : ChildFault) : Prop :=
  ds.getLast? = some (.read (.error f)) ∨ ∃ v, ds.getLast? = some (.sent v (.error f))

theorem Dealing.BreaksOff.append {ds' : List Dealing} {f : ChildFault} (h : BreaksOff ds' f)
    (ds : List Dealing) : BreaksOff (ds ++ ds') f := by
  rw [BreaksOff, List.getLast?_append]
  rcases h with h | ⟨v, h⟩
  · exact .inl (by rw [h]; rfl)
  · exact .inr ⟨v, by rw [h]; rfl⟩

namespace Host

variable {κ τ : Type}

/-- **A child that speaks finitely**: in the states that count, only so many pieces of output can be
read until something is sent to it. What is sent may bring any number of new ones. -/
structure SpeaksFinitely (h : Host κ τ) (there : κ → Prop) (pending : κ → Nat) : Prop where
  read : ∀ {idle : τ} {k k' : κ} {chunk : Chunk}, there k →
    (h.read idle).runFrom k = (.ok chunk, k') → there k' ∧ pending k' < pending k
  send : ∀ {v : Value} {k k' : κ}, there k → (h.send v).runFrom k = (.ok (), k') → there k'

variable [TimeScale τ] {h : Host κ τ} {c : Settings} {prompt : Option PromptPattern}
  {idle deadline : τ} {p q : Progress} {k k' : κ} {ds ds' : List Dealing} {there : κ → Prop}
  {pending : κ → Nat} {most few : Int}

/-! ## What gets less in every turn -/

/-- **In every turn that goes on something gets less**: the room for more characters, or else the
pieces that can still be read. -/
theorem GoesOn.decreases (hgoes : h.GoesOn c prompt idle deadline p k ds q k')
    (hfinite : h.SpeaksFinitely there pending) (hbuffer : c.maxBuffer = .number (.int most))
    (hthere : there k) :
    there k' ∧ (most.toNat + 1 - q.total < most.toNat + 1 - p.total ∨
      q.total = p.total ∧ pending k' < pending k) := by
  have hroom : ∀ {chunk : Chunk}, chunk.isEmpty = false →
      atMost (p.total + chunk.decoded.length) c.maxBuffer = .ok true →
      most.toNat + 1 - (p.total + chunk.decoded.length) < most.toNat + 1 - p.total := by
    intro chunk hsome hfits
    rw [hbuffer, atMost_int] at hfits
    have hle := of_decide_eq_true (Except.ok.inj hfits)
    have hpos := Chunk.length_decoded_pos hsome
    omega
  cases hgoes with
  | empty hmeets =>
    obtain ⟨hstays, hless⟩ := hfinite.read hthere hmeets.read
    exact ⟨hstays, .inr ⟨rfl, hless⟩⟩
  | dismissed hmeets _ hfits hkey =>
    exact ⟨hfinite.send (hfinite.read hthere hmeets.read).1 hkey, .inl (hroom hmeets.isSome hfits)⟩
  | text hmeets _ hfits =>
    exact ⟨(hfinite.read hthere hmeets.read).1, .inl (hroom hmeets.isSome hfits)⟩

/-- **A read ends**, from wherever it is: after some turns there is one that ends it, and it is not
cut short if it may read more often than it does. -/
theorem exists_stops (hfinite : h.SpeaksFinitely there pending)
    (hbuffer : c.maxBuffer = .number (.int most)) {p₀ p : Progress} {k₀ k : κ} {ds : List Dealing}
    (harrives : h.Arrives c prompt idle deadline p₀ k₀ ds p k) (hthere : there k) :
    ∃ ds₁ q k₁ ds₂ r k', h.Arrives c prompt idle deadline p₀ k₀ (ds ++ ds₁) q k₁ ∧
      h.Stops c prompt idle deadline q k₁ ds₂ r k' ∧
      ∀ reads l, Dealing.reads (ds₁ ++ ds₂) < reads →
        (h.recorded.readOn c prompt idle deadline reads p).runFrom (k, l) =
          (r, (k', l ++ (ds₁ ++ ds₂))) := by
  rcases h.readOn_turn c prompt idle deadline p k with
    ⟨ds', q, k₁, hgoes, hturn⟩ | ⟨ds₂, r, k', hstops, hturn⟩
  · obtain ⟨hstays, hless⟩ := hgoes.decreases hfinite hbuffer hthere
    obtain ⟨ds₁, q', k₂, ds₂, r, k', harrives', hstops, hrun⟩ :=
      exists_stops hfinite hbuffer (harrives.turn hgoes) hstays
    refine ⟨ds' ++ ds₁, q', k₂, ds₂, r, k', by rw [← List.append_assoc]; exact harrives', hstops, ?_⟩
    intro reads l hreads
    rw [List.append_assoc, Dealing.reads_append, hgoes.reads] at hreads
    obtain ⟨reads, rfl⟩ := Nat.exists_eq_succ_of_ne_zero (Nat.ne_of_gt (Nat.zero_lt_of_lt hreads))
    rw [hturn, hrun reads (l ++ ds') (by omega), List.append_assoc, List.append_assoc]
  · refine ⟨[], p, k, ds₂, r, k', by rw [List.append_nil]; exact harrives, hstops, ?_⟩
    intro reads l hreads
    obtain ⟨reads, rfl⟩ := Nat.exists_eq_succ_of_ne_zero (Nat.ne_of_gt (Nat.zero_lt_of_lt hreads))
    exact hturn reads l
termination_by (most.toNat + 1 - p.total, pending k)
decreasing_by
  rcases hless with hroom | ⟨htotal, hpending⟩
  · exact Prod.Lex.left _ _ hroom
  · rw [htotal]
    exact Prod.Lex.right _ hpending

/-! ## How a capture ends -/

omit [TimeScale τ] in
/-- It cannot be seen whether the prompt has come back where the output cannot be rendered. -/
theorem exists_of_showsPrompt {f : SessionFault} (hshown : showsPrompt c prompt p = .error f) :
    ∃ g, f = .render g ∧ p.rendered c = .error g := by
  cases prompt with
  | none => cases hshown
  | some pattern =>
    rw [showsPrompt] at hshown
    cases hrendered : p.rendered c with
    | ok text => rw [hrendered] at hshown; cases hshown
    | error g => rw [hrendered] at hshown; cases hshown; exact ⟨g, rfl, rfl⟩

/-- **What comes of the turn that ends a read**, under limits that are whole numbers: a result, or
the fault of the child that broke it off, or the fault of rendering what passed. -/
theorem Stops.outcome {r : Except SessionFault (Progress × Bool)}
    (hstops : h.Stops c prompt idle deadline p k ds r k')
    (hbuffer : c.maxBuffer = .number (.int most)) (hpages : c.maxPages = .number (.int few)) :
    (∃ captured, Host.outcome c r = .ok captured ∧
        (p.follow c ds).rendered c = .ok captured.text) ∨
      (∃ f, Host.outcome c r = .error (.child f) ∧ Dealing.BreaksOff ds f) ∨
      ∃ f, Host.outcome c r = .error (.render f) ∧ (p.follow c ds).rendered c = .error f := by
  have hresult : ∀ {q : Progress} {matched : Bool}, r = .ok (q, matched) → q = p.follow c ds →
      (∃ captured, Host.outcome c r = .ok captured ∧
          (p.follow c ds).rendered c = .ok captured.text) ∨
        (∃ f, Host.outcome c r = .error (.child f) ∧ Dealing.BreaksOff ds f) ∨
        ∃ f, Host.outcome c r = .error (.render f) ∧ (p.follow c ds).rendered c = .error f := by
    rintro q matched rfl rfl
    rcases outcome_ok c (p.follow c ds) matched with ⟨text, hrendered, hok⟩ | ⟨f, hrendered, herror⟩
    · exact .inl ⟨_, hok, hrendered⟩
    · exact .inr (.inr ⟨f, herror, hrendered⟩)
  have hfollow : ∀ {q : Progress} {matched : Bool}, r = .ok (q, matched) → q = p.follow c ds := by
    rintro q matched rfl
    exact hstops.eq_follow
  cases hstops with
  | late | silent | paused | shown | full => exact hresult rfl (hfollow rfl)
  | broken => exact .inr (.inl ⟨_, rfl, .inl rfl⟩)
  | refused => exact .inr (.inl ⟨_, rfl, .inr ⟨_, rfl⟩⟩)
  | unseen hmeets hshown =>
    rw [Progress.follow_piece hmeets.isSome]
    obtain ⟨f, rfl, hrendered⟩ := exists_of_showsPrompt hshown
    exact .inr (.inr ⟨f, rfl, hrendered⟩)
  | unlimited _ _ hlimit =>
    rw [hbuffer, hpages, atMost_int, hasReached_int] at hlimit
    rcases hlimit with hlimit | hlimit <;> cases hlimit

/-- The host with another number of reads after which a capture is cut short. -/
def withLimit (h : Host κ τ) (limit : Nat → κ → Nat) : Host κ τ :=
  { h with readLimit := limit }

/-- A read does not ask how often it may be made. -/
theorem readOn_withLimit (limit : Nat → κ → Nat) (reads : Nat) (p : Progress) :
    (h.withLimit limit).recorded.readOn c prompt idle deadline reads p =
      h.recorded.readOn c prompt idle deadline reads p :=
  readOn_congr (h := h.recorded) (g := (h.withLimit limit).recorded) rfl rfl rfl rfl rfl reads p

/-- A capture that has a deadline is a row of turns that go on and one that ends it, whatever number
of reads above those that it makes it is cut short after. -/
theorem exists_turns_of_capture (hfinite : h.SpeaksFinitely there pending) (hthere : there k)
    (hwait : TimeScale.overflows (h.now k) (h.session k).settings.maxWait = false)
    (hbuffer : (h.session k).settings.maxBuffer = .number (.int most))
    (time : Option τ) (prompt : Option PromptPattern) :
    ∃ idle deadline ds₁ q k₁ ds₂ r k',
      h.Arrives (h.session k).settings prompt idle deadline .start k ds₁ q k₁ ∧
      h.Stops (h.session k).settings prompt idle deadline q k₁ ds₂ r k' ∧
      ∀ limit : Nat → κ → Nat, Dealing.reads (ds₁ ++ ds₂) < limit most.toNat k →
        ((h.withLimit limit).capture time prompt).runFrom k =
            (outcome (h.session k).settings r, k') ∧
          ((h.withLimit limit).recorded.capture time prompt).runFrom (k, []) =
            (outcome (h.session k).settings r, (k', ds₁ ++ ds₂)) := by
  have hstart : h.Arrives (h.session k).settings prompt
      (time.getD (TimeScale.ofNumber (h.session k).settings.idleTimeout))
      (TimeScale.add (h.now k) (TimeScale.ofNumber (h.session k).settings.maxWait)) .start k []
      .start k := .start
  obtain ⟨ds₁, q, k₁, ds₂, r, k', harrives, hstops, hread⟩ :=
    exists_stops hfinite hbuffer hstart hthere
  refine ⟨_, _, ds₁, q, k₁, ds₂, r, k', harrives, hstops, fun limit hlimit => ?_⟩
  have hrecorded : ((h.withLimit limit).recorded.capture time prompt).runFrom (k, []) =
      (outcome (h.session k).settings r, (k', ds₁ ++ ds₂)) := by
    have hreads : (h.withLimit limit).recorded.readLimit
        (limitSize (h.session k).settings.maxBuffer) (k, []) = limit most.toNat k := by
      rw [hbuffer, limitSize_int]
      rfl
    rw [← hreads] at hlimit
    have hfits : TimeScale.overflows ((h.withLimit limit).recorded.now (k, []))
        ((h.withLimit limit).recorded.session (k, [])).settings.maxWait = false := hwait
    have hreading : ((h.withLimit limit).recorded.reading time prompt (k, [])).runFrom (k, []) =
        (r, (k', ds₁ ++ ds₂)) := by
      rw [reading_of_fits hfits, readOn_withLimit]
      exact hread _ [] hlimit
    rw [runFrom_capture, hreading]
    rfl
  obtain ⟨ds, hsame, -⟩ := (h.withLimit limit).enters_capture time prompt k
  obtain ⟨hr, hk⟩ := Prod.mk.inj ((hsame []).symm.trans hrecorded)
  exact ⟨Prod.ext hr (Prod.mk.inj hk).1, hrecorded⟩

/-- **Every capture ends.** Let the limits of a session be whole numbers and let its child have, in
each of the states that count, only so many pieces of output to deliver until something is sent to
it. Then a capture passes only so much with the child: whatever number of reads above that it is cut
short after, it does the same. It fails with the fault of the child if that broke it off. Otherwise
it returns what is rendered of what was read, and fails if that cannot be rendered; this is endless
at most where tab stops are not reached. Where the longest wait is too large to be added to the
time, it fails before it reads anything. -/
theorem capture_ends (hfinite : h.SpeaksFinitely there pending) (hthere : there k)
    (hbuffer : (h.session k).settings.maxBuffer = .number (.int most))
    (hpages : (h.session k).settings.maxPages = .number (.int few))
    (time : Option τ) (prompt : Option PromptPattern) :
    ∃ ds r k', (∀ limit : Nat → κ → Nat, Dealing.reads ds < limit most.toNat k →
        ((h.withLimit limit).capture time prompt).runFrom k = (r, k') ∧
          ((h.withLimit limit).recorded.capture time prompt).runFrom (k, []) = (r, (k', ds))) ∧
      let c := (h.session k).settings
      let read := Progress.start.follow c ds
      (∃ captured, r = .ok captured ∧ read.rendered c = .ok captured.text) ∨
        (∃ f, r = .error (.child f) ∧ Dealing.BreaksOff ds f) ∨
        (∃ f, r = .error (.render f) ∧ read.rendered c = .error f ∧
          ((TabStops.ofNumber c.tabSize).AreReached → f ≠ .endless)) ∨
        r = .error .overflow ∧ ds = [] ∧ TimeScale.overflows (h.now k) c.maxWait = true := by
  cases hwait : TimeScale.overflows (h.now k) (h.session k).settings.maxWait with
  | true =>
    refine ⟨[], .error .overflow, k, fun limit _ => ⟨?_, ?_⟩, .inr (.inr (.inr ⟨rfl, rfl, hwait⟩))⟩
    · exact capture_of_overflows (h := h.withLimit limit) hwait time prompt
    · exact capture_of_overflows (h := (h.withLimit limit).recorded) (k := (k, [])) hwait time
        prompt
  | false =>
    obtain ⟨idle, deadline, ds₁, q, k₁, ds₂, r, k', harrives, hstops, hcapture⟩ :=
      exists_turns_of_capture hfinite hthere hwait hbuffer time prompt
    refine ⟨ds₁ ++ ds₂, _, k', hcapture, ?_⟩
    intro c read
    have hread : read = q.follow c ds₂ := by
      rw [harrives.eq_follow]
      exact Progress.follow_append c .start ds₁ ds₂
    rw [hread]
    rcases hstops.outcome hbuffer hpages with hok | ⟨f, hf, hbreaks⟩ | ⟨f, hf, hfails⟩
    · exact .inl hok
    · exact .inr (.inl ⟨f, hf, hbreaks.append ds₁⟩)
    · refine .inr (.inr (.inl ⟨f, hf, hfails, fun hreached => ?_⟩))
      rintro rfl
      exact Screen.render_ne_endless hreached hfails

/-! ## How often a child is read -/

/-- A child is read as often as it has pieces to deliver, and as those of its answers. -/
theorem Arrives.reads_le {most : Nat}
    (harrives : h.Arrives c prompt idle deadline p k ds q k')
    (hfinite : h.SpeaksFinitely there pending) (hthere : there k)
    (hanswer : ∀ {v k k'}, there k → (h.send v).runFrom k = (.ok (), k') →
      pending k' ≤ pending k + most) :
    there k' ∧ Dealing.reads ds + pending k' ≤ pending k + most * Dealing.sends ds := by
  induction harrives with
  | start => exact ⟨hthere, by simp [Dealing.reads, Dealing.sends]⟩
  | turn _ hgoes ih =>
    obtain ⟨hstays, hle⟩ := ih
    rw [Dealing.reads_append, Dealing.sends_append, hgoes.reads, Nat.mul_add]
    cases hgoes with
    | empty hmeets =>
      obtain ⟨hstays', hless⟩ := hfinite.read hstays hmeets.read
      exact ⟨hstays', by omega⟩
    | text hmeets =>
      obtain ⟨hstays', hless⟩ := hfinite.read hstays hmeets.read
      exact ⟨hstays', by omega⟩
    | dismissed hmeets _ _ hkey =>
      obtain ⟨hstays', hless⟩ := hfinite.read hstays hmeets.read
      have hmore := hanswer hstays' hkey
      have hone : ∀ chunk : Chunk,
          most * Dealing.sends [.read (.ok chunk), .sent c.dismissKey (.ok ())] = most :=
        fun _ => Nat.mul_one most
      rw [hone]
      exact ⟨hfinite.send hstays' hkey, by omega⟩

/-- No more keys are sent than characters are read. -/
theorem Arrives.sends_le (harrives : h.Arrives c prompt idle deadline p k ds q k') :
    Dealing.sends ds + p.total ≤ q.total := by
  induction harrives with
  | start => exact Nat.le_of_eq (Nat.zero_add _)
  | turn _ hgoes ih =>
    rw [Dealing.sends_append]
    cases hgoes with
    | empty => exact ih
    | text => exact ih.trans (Nat.le_add_right _ _)
    | @dismissed _ _ chunk hmeets =>
      have hpos := Chunk.length_decoded_pos hmeets.isSome
      have htotal : ∀ q : Progress, (q.absorb c chunk.decoded).1.keyed.total =
          q.total + chunk.decoded.length := fun _ => rfl
      have hone : Dealing.sends [.read (.ok chunk), .sent c.dismissKey (.ok ())] = 1 := rfl
      rw [htotal, hone]
      omega

end Host

/-! ## Scripted children -/

section Stages

variable {ρ ο τ : Type} (weigh : ρ → Nat)

namespace Process

variable (q : Process ρ τ)

theorem length_queued_le_weight : q.queued.length ≤ q.weight weigh := by
  have hitems := Item.length_le_weights weigh q.queue
  have hqueued : q.queued.length ≤ q.queue.length := List.length_filterMap_le _ _
  rw [weight]
  omega

/-- A child answers with no more pieces than it can take reads. -/
theorem length_writes_sent_le_weight (v : Value) (r : Except ChildFault Unit) :
    (q.writes (.sent v r)).length ≤ q.weight weigh := by
  cases r with
  | error f => exact Nat.zero_le _
  | ok _ =>
    have hwrites : (q.writes (.sent v (.ok ()))).length ≤ (q.answerTo v).length :=
      List.length_filterMap_le _ _
    refine hwrites.trans ((Item.length_le_weights weigh _).trans ?_)
    rcases q.answerTo_cases v with hnone | ⟨t, hmem⟩
    · rw [hnone]
      exact Nat.zero_le _
    · rw [weight]
      exact (le_total_of_mem (fun entry => Item.weights weigh entry.2) hmem).trans
        ((Nat.le_add_left _ _).trans (Nat.le_add_right _ _))

end Process

variable [TimeScale τ]

namespace Pool

variable (options : PoolOptions) (serve : ρ → World (Stage ρ ο τ) τ → World (Stage ρ ο τ) τ)
  (number : Nat) {n : Nat}

/-- A child is on a stage, and answers as it did. -/
def AnswersAs (n : Nat) (w w' : World (Stage ρ ο τ) τ) : Prop :=
  n < w'.system.processes.size ∧
    (w'.system.process n).responses = (w.system.process n).responses

/-- How many pieces of output of a child can still be read. -/
def queueLength (n : Nat) (w : World (Stage ρ ο τ) τ) : Nat :=
  (w.system.process n).queued.length

section Speaking

variable {w k k' : World (Stage ρ ο τ) τ}

/-- A piece of output that is read leaves the queue of a child. -/
theorem queueLength_read {idle : τ} {chunk : Chunk} (hn : AnswersAs n w k)
    (hread : (((onStage weigh options serve).alone.host number n).read idle).runFrom k =
      (.ok chunk, k')) :
    AnswersAs n w k' ∧ queueLength n k = queueLength n k' + 1 := by
  obtain ⟨ds, hds, hsize, hpass⟩ :=
    (conserves_recorded weigh options serve number).read idle (k, []) hn.1
  simp only [Host.recorded, entering, runFrom_ofRun, hread, List.nil_append] at hds hsize hpass
  subst hds
  have hqueued := congrArg List.length hpass.queued
  simp only [Dealing.delivered, Dealing.chunk?, Process.writes, List.filterMap_cons,
    List.filterMap_nil, List.flatMap_cons, List.flatMap_nil, List.length_append, List.length_cons,
    List.length_nil] at hqueued
  exact ⟨⟨hsize, hpass.responses.trans hn.2⟩, by rw [queueLength, queueLength]; omega⟩

/-- What is sent to a child brings its answer, which takes no more reads than the child can. -/
theorem queueLength_send {v : Value} {r : Except ChildFault Unit} (hn : AnswersAs n w k)
    (hsend : (((onStage weigh options serve).alone.host number n).send v).runFrom k = (r, k')) :
    AnswersAs n w k' ∧
      queueLength n k' ≤ queueLength n k + (w.system.process n).weight weigh := by
  obtain ⟨ds, hds, hsize, hpass⟩ :=
    (conserves_recorded weigh options serve number).send v (k, []) hn.1
  simp only [Host.recorded, entering, runFrom_ofRun, hsend, List.nil_append] at hds hsize hpass
  subst hds
  have hqueued := congrArg List.length hpass.queued
  have hanswer : (k.system.process n).answerTo = (w.system.process n).answerTo := by
    funext v
    cases v <;> simp only [Process.answerTo, hn.2]
  have hwrites : ((k.system.process n).writes (.sent v r)).length ≤
      (w.system.process n).weight weigh := by
    have hsame : (k.system.process n).writes (.sent v r) =
        (w.system.process n).writes (.sent v r) := by
      cases r <;> simp only [Process.writes, hanswer]
    rw [hsame]
    exact Process.length_writes_sent_le_weight weigh _ v r
  simp only [Dealing.delivered, Dealing.chunk?, List.filterMap_cons, List.filterMap_nil,
    List.flatMap_cons, List.flatMap_nil, List.append_nil, List.length_append, List.length_nil]
    at hqueued
  exact ⟨⟨hsize, hpass.responses.trans hn.2⟩, by rw [queueLength, queueLength]; omega⟩

end Speaking

/-- **A scripted child speaks finitely**, and only what is sent to it brings new output. -/
theorem speaksFinitely (w : World (Stage ρ ο τ) τ) :
    ((onStage weigh options serve).alone.host number n).SpeaksFinitely (AnswersAs n w)
      (queueLength n) where
  read hn hread := by
    obtain ⟨hn', hlength⟩ := queueLength_read weigh options serve number hn hread
    exact ⟨hn', by omega⟩
  send hn hsend := (queueLength_send weigh options serve number hn hsend).1

/-- **A capture of a scripted child is never cut short**: where its limits are whole numbers, it does
the same whatever number of reads above its own it would be cut short after. -/
theorem capture_withLimit {w : World (Stage ρ ο τ) τ} (hn : n < w.system.processes.size)
    {most few : Int} (time : Option τ) (prompt : Option PromptPattern) :
    let h := (onStage weigh options serve).alone.host number n
    (h.session w).settings.maxBuffer = .number (.int most) →
    (h.session w).settings.maxPages = .number (.int few) →
    ∀ limit, h.readLimit most.toNat w ≤ limit most.toNat w →
      ((h.withLimit limit).capture time prompt).runFrom w = (h.capture time prompt).runFrom w := by
  intro h hbuffer hpages limit hlimit
  cases hwait : TimeScale.overflows (h.now w) (h.session w).settings.maxWait with
  | true =>
    have hfails := Host.capture_of_overflows (h := h.withLimit limit) hwait time prompt
    exact hfails.trans (Host.capture_of_overflows hwait time prompt).symm
  | false => ?_
  obtain ⟨idle, deadline, ds₁, q, k₁, ds₂, r, k', harrives, hstops, hcapture⟩ :=
    Host.exists_turns_of_capture (speaksFinitely weigh options serve number w) ⟨hn, rfl⟩ hwait
      hbuffer time prompt
  have hreads : Dealing.reads (ds₁ ++ ds₂) < h.readLimit most.toNat w := by
    have hfirst := (harrives.reads_le (speaksFinitely weigh options serve number w) ⟨hn, rfl⟩
      fun hthere hsend => (queueLength_send weigh options serve number hthere hsend).2).2
    have hkeys : Dealing.sends ds₁ ≤ most.toNat := by
      have hroom := (harrives.capped hbuffer hpages).total_le
      have hsends := harrives.sends_le
      omega
    have hweight := Stage.weight_process_le hn weigh
    have hqueue : queueLength n w ≤ w.system.weight weigh :=
      (Process.length_queued_le_weight weigh _).trans hweight
    calc Dealing.reads (ds₁ ++ ds₂)
        ≤ w.system.weight weigh + w.system.weight weigh * most.toNat + 1 := by
          rw [Dealing.reads_append]
          have hanswers := Nat.mul_le_mul hweight hkeys
          have hlast := hstops.reads_le
          omega
      _ < (w.system.weight weigh + 1) * (most.toNat + 2) := by
          rw [Nat.succ_mul, Nat.mul_add]
          omega
      _ = h.readLimit most.toNat w := rfl
  exact (hcapture limit (hreads.trans_le hlimit)).1.trans (hcapture h.readLimit hreads).1.symm

end Pool

end Stages

/-! ## Output that cannot be rendered -/

/-- Characters beside which a text may be cut stay where they are. -/
theorem Pager.strip_append_of_parted {t : Text} (ht : ∀ c ∈ t, morePrompt.partedBy c = true)
    (b : Text) : (strip (t ++ b)).1 = t ++ (strip b).1 := by
  induction t with
  | nil => rfl
  | cons c t ih =>
    have hcut := strip_append_cons (ht c List.mem_cons_self) [] (t ++ b)
    rw [List.nil_append, strip_nil, List.nil_append] at hcut
    rw [List.cons_append, hcut, ih fun d hd => ht d (List.mem_cons_of_mem c hd)]
    rfl

namespace Screen

/-- Neither noise nor a pager is in a rendition with one digit too many. -/
theorem cleaned_longRendition (c : Settings) : c.cleaned longRendition = longRendition := by
  have hsafe : c.safe longRendition = longRendition := by
    rw [Settings.safe]
    split
    · refine List.filter_eq_self.2 fun d hd => ?_
      rcases mem_longRendition hd with rfl | rfl | rfl | rfl <;> rfl
    · rfl
  have hfront : ∀ d ∈ Control.escape :: '[' :: List.replicate (Numeral.maxDigits + 1) '1',
      Pager.morePrompt.partedBy d = true := by
    intro d hd
    rw [List.mem_cons, List.mem_cons, List.mem_replicate] at hd
    rcases hd with rfl | rfl | ⟨-, rfl⟩ <;> decide
  have hlast : (Pager.strip ['m']).1 = ['m'] := by cbv
  rw [Settings.cleaned, hsafe]
  exact (Pager.strip_append_of_parted hfront ['m']).trans (by rw [hlast, longRendition]; rfl)

/-- It cannot be rendered. -/
theorem render_longRendition {stops : TabStops}
    (hstops : ∀ column, ∃ stop, stops column = .ok stop) :
    render stops longRendition = .error (.overlong ⟨4301⟩) :=
  (render_eq_error_iff hstops).2 ⟨_, rfl, [], longRendition, [], lines_longRendition,
    fun _ hm => absurd hm List.not_mem_nil, illegible_longRendition⟩

end Screen

namespace Pool

/-- What a pool is set up with that leaves pagers alone and reads some thousands of characters. -/
def roomy : PoolOptions :=
  { silent.options with
    settings :=
      { silent.options.settings with
        maxWait := .int 9, maxBuffer := .number (.int 5000) } }

/-- **Output that cannot be rendered makes a capture fail** that nothing else keeps from its end. The
child writes a rendition with one digit too many, which would not be seen. -/
theorem capture_fails_longRendition :
    let h : Host (World (Stage Empty Empty Int) Int) Int :=
      (onStage Empty.elim roomy fun _ w => w).host 0 0
    let w := World.offering 0 [Screen.longRendition] (.answering [])
    h.SpeaksFinitely (AnswersAs 0 w) (queueLength 0) ∧ AnswersAs 0 w w ∧
      (h.session w).settings.maxBuffer = .number (.int 5000) ∧
      (h.session w).settings.maxPages = .number (.int 1) ∧
      ((h.capture none none).runFrom w).1 = .error (.render (.overlong ⟨4301⟩)) := by
  intro h w
  have hthere : AnswersAs 0 w w := ⟨by decide, rfl⟩
  refine ⟨speaksFinitely Empty.elim roomy (fun _ w => w) 0 w, hthere, rfl, rfl, ?_⟩
  have hoffers : (w.system.process 0).Offers [Screen.longRendition] := ⟨rfl, rfl⟩
  have hsome : ∀ t ∈ [Screen.longRendition], t ≠ [] := by
    intro t ht
    rw [List.mem_singleton.1 ht, Screen.longRendition]
    exact List.cons_ne_nil _ _
  obtain ⟨w', hdelivers⟩ := exists_delivers Empty.elim roomy (fun _ w => w) 0
    ((none : Option Int).getD (TimeScale.ofNumber roomy.settings.idleTimeout)) hsome hthere.1 hoffers
  have hlength : Screen.longRendition.length = 4304 := by
    simp only [Screen.longRendition, List.length_cons, List.length_append, List.length_replicate,
      List.length_nil, Numeral.maxDigits]
  have hfits : atMost [Screen.longRendition].flatten.length roomy.settings.maxBuffer =
      .ok true := by
    rw [List.flatten_singleton, hlength]
    exact atMost_int 4304 5000
  have hreads : [Screen.longRendition].length <
      h.readLimit (limitSize roomy.settings.maxBuffer) w :=
    calc [Screen.longRendition].length
        < w.system.weight Empty.elim + 1 :=
          Nat.lt_succ_of_le (Stage.length_le_weight hthere.1 hoffers Empty.elim)
      _ ≤ (w.system.weight Empty.elim + 1) * (limitSize roomy.settings.maxBuffer + 2) :=
        Nat.le_mul_of_pos_right _ (Nat.succ_pos _)
  have hsettings : (h.session w).settings = roomy.settings := rfl
  have hcapture := Host.capture_delivers hsettings rfl rfl hdelivers hfits hreads
  have htaken : Host.inTime (h.now w) (TimeScale.add (h.now w)
      (TimeScale.ofNumber roomy.settings.maxWait)) [Screen.longRendition] =
        [Screen.longRendition] := if_pos (by decide)
  have hstops : ∀ column, ∃ stop, TabStops.ofNumber roomy.settings.tabSize column = .ok stop :=
    fun column => ⟨_, TabStops.every_eq_nextStop ⟨8, by decide⟩ column⟩
  rw [htaken] at hcapture
  refine hcapture.trans ?_
  rw [List.flatMap_singleton, Screen.cleaned_longRendition, Screen.render_longRendition hstops]
  rfl

set_option maxRecDepth 4000 in
/-- A pager without end is dismissed until there is no more room, and no thousand times. -/
theorem capture_ends_endless :
    (paging 1000).SpeaksFinitely (AnswersAs 0 .endless) (queueLength 0) ∧
      AnswersAs 0 .endless .endless ∧
      ((paging 1000).session .endless).settings.maxBuffer = .number (.int 20) ∧
      ((paging 1000).session .endless).settings.maxPages = .number (.int 1000) ∧
      ∃ ds captured w, captured.pages = 2 ∧ ∀ limit, Dealing.reads ds < limit 20 .endless →
        (((paging 1000).withLimit limit).capture none none).runFrom .endless =
          (.ok captured, w) := by
  have hfinite : (paging 1000).SpeaksFinitely (AnswersAs 0 .endless) (queueLength 0) :=
    speaksFinitely Empty.elim (eager 1000) (fun _ w => w) 0 .endless
  have hthere : AnswersAs (ρ := Empty) (ο := Empty) 0 .endless .endless := ⟨by decide, rfl⟩
  refine ⟨hfinite, hthere, rfl, rfl, ?_⟩
  obtain ⟨ds, r, w, hruns, -⟩ := Host.capture_ends hfinite hthere rfl rfl none none
  -- the pager's own number of reads is enough, so what it does is known
  have hown : ∀ limit, (paging 1000).readLimit 20 .endless ≤ limit 20 .endless →
      (((paging 1000).withLimit limit).capture none none).runFrom .endless =
        ((paging 1000).capture none none).runFrom .endless :=
    capture_withLimit Empty.elim (eager 1000) (fun _ w => w) 0 hthere.1 none none rfl rfl
  have hr : r = (((paging 1000).capture none none).runFrom .endless).1 := by
    have hlimit := hown (fun _ _ => Dealing.reads ds + 1 + (paging 1000).readLimit 20 .endless)
      (Nat.le_add_left _ _)
    rw [← hlimit, (hruns _ (by omega)).1]
  have hpages : (((paging 1000).capture none none).runFrom .endless).1.map Captured.pages =
      .ok 2 := by cbv
  rw [← hr] at hpages
  cases r with
  | error f => cases hpages
  | ok captured =>
    exact ⟨ds, captured, w, Except.ok.inj hpages, fun limit hlimit => (hruns limit hlimit).1⟩

end Pool

end Teletype
