import Mathlib
import Teletype.Proofs.Caps
import Teletype.Proofs.LastLine

/-!
# What a session remembers

A session remembers a prompt and the pattern made of it. It learns one from the output that it
captured, in two ways: it finds a prompt in the first output, or at the end of the output of a command
there is one of another kind than the one that was waited for. In both ways the output is looked at
again, after the capture looked at it. They agree (`Prompt.changed_eq_none`): output that ends with
the prompt that was waited for does not end with another one.

`Host.Learns` says all that one use of a session can do to its prompt (`Host.Keeps.use_learns`). So
after any row of uses it remembers no prompt or a proper one (`Host.Keeps.after_isProper`), and what it
remembers changes only where it is meant to (`Pool.remembers`).
-/

namespace Teletype

open Teletype.Action

/-! ## Prompts that were seen -/

namespace Prompt

/-- A prompt that was seen in a text: there is no end of a line in it, and at its end a terminator. -/
def SeenIn (p t : Text) : Prop :=
  (∀ c ∈ p, c ∈ t ∧ c ≠ '\n' ∧ c ≠ '\r') ∧ ∃ q c, p = q ++ [c] ∧ isTerminator c = true

theorem seenIn_of_changed {pattern : PromptPattern} {lookback : Int} {t p : Text}
    (h : changed pattern lookback t = some p) : SeenIn p t := by
  obtain ⟨hfind, hlikely⟩ := Option.filter_eq_some_iff.1 h
  obtain ⟨l, hl, rfl⟩ := List.mem_map.1 (List.mem_of_find?_eq_some hfind)
  exact exists_of_isLikely hl (Bool.and_eq_true_iff.1 hlikely).1

end Prompt

/-! ## Proper prompts -/

/-- **A proper prompt**: there is something in it, no blanks are at its end but a terminator is, and
the pattern is the one that is made of it. -/
structure KnownPrompt.IsProper (known : KnownPrompt) : Prop where
  nonempty : known.text ≠ []
  trimmed : Text.trimEnd known.text = known.text
  ends : known.text.getLast?.any Prompt.isTerminator = true
  pattern : PromptPattern.ofPrompt (some known.text) = .ok known.pattern

/-- **A prompt that was found in rendered output is a proper one.** There are no escape sequences in
it, so nothing keeps a pattern from being made. -/
theorem KnownPrompt.exists_isProper {stops : TabStops} {t r p : Text}
    (hr : Screen.render stops t = .ok r) (hp : Prompt.SeenIn p r) :
    ∃ known : KnownPrompt, known.IsProper ∧ known.text = p := by
  obtain ⟨hline, q, c, rfl, hc⟩ := hp
  have hescape : Control.escape ∉ q ++ [c] := by
    intro hmem
    obtain ⟨hmem, hfeed, hreturn⟩ := hline _ hmem
    rcases Screen.isControl_of_render hr _ hmem with hcontrol | h | h
    · exact absurd hcontrol (by decide)
    · exact hreturn h
    · exact hfeed h
  refine ⟨⟨q ++ [c], _⟩, ⟨?_, ?_, ?_, PromptPattern.ofPrompt_append_singleton hc hescape⟩, rfl⟩
  · exact List.append_ne_nil_of_right_ne_nil q (List.cons_ne_nil c [])
  · exact Text.trimEnd_append_singleton q (Prompt.isBlank_of_isTerminator hc)
  · rw [List.getLast?_concat, Option.any_some, hc]

/-- What can be done with a session. -/
inductive SessionUse (τ : Type) where
  | call (c : SessionCall τ)
  | close
  | isAlive

/-- The calls that look for a prompt in what they captured. -/
def SessionUse.Looks {τ : Type} : SessionUse τ → Prop
  | call .readInitial => True
  | call (.runCommand ..) => True
  | _ => False

namespace Host

variable {κ τ : Type}

/-- What a capture returns was rendered. -/
theorem exists_render_of_capture [TimeScale τ] {h : Host κ τ} {time : Option τ}
    {prompt : Option PromptPattern} {captured : Captured} {k k' : κ}
    (hrun : (h.capture time prompt).runFrom k = (.ok captured, k')) :
    ∃ stops t, Screen.render stops t = .ok captured.text := by
  rw [runFrom_capture] at hrun
  obtain ⟨q, -, hrendered, -⟩ := exists_of_outcome (Prod.mk.inj hrun).1
  exact ⟨_, _, hrendered⟩

/-! ## What leaves the prompt alone -/

/-- The host that never learns a prompt. -/
def mindless (h : Host κ τ) : Host κ τ :=
  { h with update := fun f => h.update fun s => { f s with prompt := s.prompt } }

variable [TimeScale τ] (h : Host κ τ)

theorem capture_mindless (time : Option τ) (prompt : Option PromptPattern) :
    h.mindless.capture time prompt = h.capture time prompt := by
  have hread : ∀ (c : Settings) (idle deadline : τ),
      h.mindless.readOn c prompt idle deadline = h.readOn c prompt idle deadline := by
    intro c idle deadline
    funext reads p
    exact readOn_congr (h := h) (g := h.mindless) rfl rfl rfl rfl rfl reads p
  rw [capture, capture]
  simp only [hread]
  rfl

theorem sendInput_mindless (t : Text) : h.mindless.sendInput t = h.sendInput t := by
  rw [sendInput, sendInput, capture_mindless]
  rfl

theorem sendControl_mindless (name : Option Text) :
    h.mindless.sendControl name = h.sendControl name := by
  rw [sendControl, sendControl]
  cases ControlKey.ofName? name with
  | none => rfl
  | some c => exact h.sendInput_mindless [c]

theorem readOutput_mindless (time : Option τ) : h.mindless.readOutput time = h.readOutput time := by
  rw [readOutput, readOutput, capture_mindless]
  rfl

theorem close_mindless : h.mindless.close = h.close := by
  have hdrain : h.mindless.drain = h.drain := by
    rw [drain, drain, capture_mindless]
    rfl
  rw [close, close, hdrain]
  rfl

/-- Between two states the prompt stays as it is, and the session stays where it is kept. -/
def SamePrompt (h : Host κ τ) (there : κ → Prop) (k k' : κ) : Prop :=
  there k → there k' ∧ (h.session k').prompt = (h.session k).prompt

omit [TimeScale τ] in
instance (there : κ → Prop) : IsPreorder κ (h.SamePrompt there) where
  refl k hk := ⟨hk, rfl⟩
  trans k k' k'' hkk' hk'k'' hk := by
    obtain ⟨hk', hprompt⟩ := hkk' hk
    obtain ⟨hk'', hprompt'⟩ := hk'k'' hk'
    exact ⟨hk'', hprompt'.trans hprompt⟩

/-- **A host keeps a session** in the states where it is there: what is put in its place is what is
known of it then, and nothing else that happens to the child and the log touches its prompt. -/
structure Keeps (h : Host κ τ) (there : κ → Prop) : Prop where
  within : h.mindless.Within (h.SamePrompt there)
  update : ∀ f k, there k → there (h.update f k) ∧ h.session (h.update f k) = f (h.session k)

/-! ## What learns a prompt -/

/-- The session remembers a proper prompt. -/
def KnowsProper (k : κ) : Prop :=
  ∃ known : KnownPrompt, known.IsProper ∧ (h.session k).prompt = some known

/-- Does something with a session; only calls return output. -/
def use : SessionUse τ → Action κ SessionFault (Option Captured)
  | .call c => do return some (← h.answer c)
  | .close => do
    let _ ← h.close
    return none
  | .isAlive => do
    let _ ← ask h.isAlive
    return none

/-- The state after a row of uses, whether they return or fail. -/
def after (uses : List (SessionUse τ)) (k : κ) : κ :=
  uses.foldl (fun k u => ((h.use u).runFrom k).2) k

/-- **What a use does to the prompt of a session**, when it ends with some result: nothing, or it is a
call that looks for a prompt, returns, and a proper one is remembered then. A command that ended with
the prompt it waited for learns a prompt only where there was none. -/
inductive Learns (u : SessionUse τ) (r : Except SessionFault (Option Captured)) :
    (old new : Option KnownPrompt) → Prop
  | same (old : Option KnownPrompt) : Learns u r old old
  | learnt {old : Option KnownPrompt} {known : KnownPrompt} {captured : Captured} :
    u.Looks → r = .ok (some captured) → known.IsProper →
    ((∃ command prompt, u = .call (.runCommand command prompt)) → captured.promptMatched = true →
      old = none) →
    Learns u r old (some known)

variable {h} {there : κ → Prop} {k k' : κ}

theorem Keeps.capture (hkeeps : h.Keeps there) (time : Option τ) (prompt : Option PromptPattern) :
    (h.capture time prompt).Within (h.SamePrompt there) := by
  rw [← capture_mindless]
  exact hkeeps.within.capture time prompt

/-- A use that looks for no prompt leaves it alone. -/
theorem Keeps.use_of_not_looks (hkeeps : h.Keeps there) {u : SessionUse τ} (hu : ¬u.Looks) :
    (h.use u).Within (h.SamePrompt there) := by
  have hanswer : ∀ c, ¬(SessionUse.call c).Looks → (h.answer c).Within (h.SamePrompt there) := by
    intro c hc
    cases c with
    | readInitial | runCommand => exact absurd trivial hc
    | sendInput t =>
      rw [answer, ← sendInput_mindless]
      exact hkeeps.within.sendInput t
    | sendControl name =>
      rw [answer, ← sendControl_mindless]
      exact hkeeps.within.answer (.sendControl name)
    | readOutput time =>
      rw [answer, ← readOutput_mindless]
      exact hkeeps.within.answer (.readOutput time)
  cases u with
  | call c => exact (hanswer c hu).bind fun _ => within_pure _
  | close =>
    rw [use, ← close_mindless]
    exact hkeeps.within.close.bind fun _ => within_pure _
  | isAlive => exact (Within.ask hkeeps.within.isAlive).bind fun _ => within_pure _

omit [TimeScale τ] in
/-- **What is found in rendered output is remembered**, if anything is, and that does not fail. -/
theorem Keeps.exists_remember (hkeeps : h.Keeps there) (hk : there k) {stops : TabStops}
    {t r : Text} (hr : Screen.render stops t = .ok r) {found : Option Text}
    (hfound : ∀ p, found = some p → Prompt.SeenIn p r) :
    ∃ k', (h.remember found).runFrom k = (.ok (), k') ∧ there k' ∧
      ((h.session k').prompt = (h.session k).prompt ∨ h.KnowsProper k') := by
  cases found with
  | none => exact ⟨k, rfl, hk, .inl rfl⟩
  | some p =>
    obtain ⟨known, hproper, rfl⟩ := KnownPrompt.exists_isProper hr (hfound p rfl)
    obtain ⟨hk', hsession⟩ := hkeeps.update (fun s => { s with prompt := some known }) k hk
    refine ⟨_, ?_, hk', .inr ⟨known, hproper, by rw [hsession]⟩⟩
    rw [remember, List.isEmpty_eq_false_iff.2 hproper.nonempty, if_neg Bool.false_ne_true,
      hproper.pattern]
    rfl

omit [TimeScale τ] in
/-- **A capture that is looked at.** A prompt is learnt from what an action returns, if it returns, and
by a look that does not fail; the action itself leaves the prompt alone. -/
theorem learnt_of_look {a : Action κ SessionFault Captured}
    {learn : Captured → Action κ SessionFault Unit} {Q : Captured → Prop}
    (ha : a.Within (h.SamePrompt there)) (hk : there k)
    (hlearn : ∀ captured k₁, a.runFrom k = (.ok captured, k₁) → there k₁ →
      ∃ k₂, (learn captured).runFrom k₁ = (.ok (), k₂) ∧ there k₂ ∧
        ((h.session k₂).prompt = (h.session k₁).prompt ∨ Q captured ∧ h.KnowsProper k₂))
    {r : Except SessionFault Captured}
    (hrun : (a >>= fun captured => learn captured >>= fun _ => pure captured).runFrom k = (r, k')) :
    there k' ∧ ((h.session k').prompt = (h.session k).prompt ∨
      ∃ captured, r = .ok captured ∧ Q captured ∧ h.KnowsProper k') := by
  obtain ⟨hk₁, hsame⟩ := ha k hk
  obtain ⟨first, k₁, hcaptured⟩ : ∃ r k₁, a.runFrom k = (r, k₁) := ⟨_, _, rfl⟩
  rw [hcaptured] at hk₁ hsame
  rw [runFrom_bind, hcaptured] at hrun
  cases first with
  | error f =>
    cases hrun
    exact ⟨hk₁, .inl hsame⟩
  | ok captured =>
    obtain ⟨k₂, hlook, hk₂, hlearnt⟩ := hlearn captured k₁ hcaptured hk₁
    have hreturn : (learn captured >>= fun _ => pure captured).runFrom k₁ =
        (.ok captured, k₂) := by
      rw [runFrom_bind, hlook]
      rfl
    cases hreturn.symm.trans hrun
    refine ⟨hk₂, ?_⟩
    rcases hlearnt with hsame₂ | ⟨hQ, hknown⟩
    · exact .inl (hsame₂.trans hsame)
    · exact .inr ⟨captured, rfl, hQ, hknown⟩

/-- The first output teaches a prompt, if there is one in it. -/
theorem Keeps.readInitial (hkeeps : h.Keeps there) (hk : there k)
    {r : Except SessionFault Captured} (hrun : h.readInitial.runFrom k = (r, k')) :
    there k' ∧ ((h.session k').prompt = (h.session k).prompt ∨
      ∃ captured, r = .ok captured ∧ True ∧ h.KnowsProper k') := by
  refine learnt_of_look (hkeeps.capture none none) hk (fun captured k₁ hcapture hk₁ => ?_) hrun
  obtain ⟨stops, t, hrendered⟩ := exists_render_of_capture hcapture
  obtain ⟨k₂, hremember, hk₂, hlearnt⟩ :=
    hkeeps.exists_remember hk₁ hrendered fun p hp => Prompt.exists_of_detect hp
  exact ⟨k₂, hremember, hk₂, hlearnt.imp_right fun hknown => ⟨trivial, hknown⟩⟩

/-- Sends a command and captures its output until a prompt comes back. -/
def obey (h : Host κ τ) (command : Text) (pattern : PromptPattern) :
    Action κ SessionFault Captured := do
  h.touch
  ask (h.send (.text (command ++ ['\n'])))
  h.capture none (some pattern)

/-- Looks at what was found in the output of a command: a prompt of another kind, or else any, which
matters where none is known yet. -/
def learn (h : Host κ τ) (changed found : Option Text) : Action κ SessionFault Unit :=
  match changed with
  | some text => h.remember (some text)
  | none => do
    if (← h.known).prompt.isNone then h.remember found

/-- The pattern of the prompt that a command waits for. -/
def awaited (s : Session τ) (prompt : Option PromptPattern) : PromptPattern :=
  (prompt.or (s.prompt.map (·.pattern))).getD .generic

/-- A command is sent, and then its output is looked at. -/
theorem runCommand_eq (h : Host κ τ) (command : Text) (prompt : Option PromptPattern) :
    h.runCommand command prompt = h.known >>= fun s => h.obey command (awaited s prompt) >>=
      fun captured =>
        h.learn (Prompt.changed (awaited s prompt) Prompt.usualLookback captured.text)
          (Prompt.detect Prompt.usualLookback captured.text) >>= fun _ => pure captured := by
  rw [runCommand]
  refine bind_congr fun s => ?_
  rw [awaited]
  generalize (prompt.or (s.prompt.map (·.pattern))).getD .generic = pattern
  rw [obey, bind_assoc]
  refine bind_congr fun _ => ?_
  rw [bind_assoc]
  refine bind_congr fun _ => bind_congr fun captured => ?_
  generalize Prompt.changed pattern Prompt.usualLookback captured.text = changed
  generalize Prompt.detect Prompt.usualLookback captured.text = found
  cases changed with
  | some text => rfl
  | none =>
    rw [learn, bind_assoc]
    refine bind_congr fun s => ?_
    cases s.prompt.isNone with
    | true => rw [if_pos rfl, if_pos rfl]
    | false => rw [if_neg Bool.false_ne_true, if_neg Bool.false_ne_true, pure_bind]

/-- A capture that ended with the prompt that was waited for holds no prompt of another kind. -/
theorem changed_of_promptMatched {time : Option τ} {pattern : PromptPattern} {captured : Captured}
    (hrun : (h.capture time (some pattern)).runFrom k = (.ok captured, k'))
    (hmatched : captured.promptMatched = true) :
    Prompt.changed pattern Prompt.usualLookback captured.text = none := by
  obtain ⟨idle, q, hreads, hshows⟩ := exists_reads_of_capture hrun
  have htells := hreads.matched_eq (by rw [Progress.shows_start, Bool.false_and])
  rw [hmatched, hshows] at htells
  exact Prompt.changed_eq_none (Bool.and_eq_true_iff.1 htells.symm).1

theorem Keeps.obey (hkeeps : h.Keeps there) (command : Text) (pattern : PromptPattern) :
    (h.obey command pattern).Within (h.SamePrompt there) := by
  have htouch : h.touch.Within (h.SamePrompt there) :=
    within_change fun k => hkeeps.within.update (fun s => { s with lastUsed := h.now k }) k
  exact htouch.bind fun _ =>
    (Within.ask (hkeeps.within.send _)).bind fun _ => hkeeps.capture none (some pattern)

omit [TimeScale τ] in
/-- A look at rendered output does not fail, and teaches a prompt only if there was none or one of
another kind was found. -/
theorem Keeps.exists_learn (hkeeps : h.Keeps there) (hk : there k) {stops : TabStops} {t r : Text}
    (hr : Screen.render stops t = .ok r) {changed found : Option Text}
    (hchanged : ∀ p, changed = some p → Prompt.SeenIn p r)
    (hfound : ∀ p, found = some p → Prompt.SeenIn p r) :
    ∃ k', (h.learn changed found).runFrom k = (.ok (), k') ∧ there k' ∧
      ((h.session k').prompt = (h.session k).prompt ∨
        (changed = none → (h.session k).prompt = none) ∧ h.KnowsProper k') := by
  cases changed with
  | some text =>
    obtain ⟨k', hrun, hk', hlearnt⟩ := hkeeps.exists_remember hk hr hchanged
    exact ⟨k', hrun, hk', hlearnt.imp_right fun hknown => ⟨nofun, hknown⟩⟩
  | none =>
    have hlearn : (h.learn none found).runFrom k =
        (if (h.session k).prompt.isNone then h.remember found else pure ()).runFrom k := by
      rw [learn, known, runFrom_bind, runFrom_look]
    rw [hlearn]
    cases hprompt : (h.session k).prompt with
    | some known => exact ⟨k, rfl, hk, .inl hprompt⟩
    | none =>
      obtain ⟨k', hrun, hk', hlearnt⟩ := hkeeps.exists_remember hk hr hfound
      rw [hprompt] at hlearnt
      exact ⟨k', hrun, hk', hlearnt.imp_right fun hknown => ⟨fun _ => rfl, hknown⟩⟩

/-- A command teaches a prompt if another one came than it waited for, or if none was known. -/
theorem Keeps.runCommand (hkeeps : h.Keeps there) (hk : there k) {command : Text}
    {prompt : Option PromptPattern} {r : Except SessionFault Captured}
    (hrun : (h.runCommand command prompt).runFrom k = (r, k')) :
    there k' ∧ ((h.session k').prompt = (h.session k).prompt ∨
      ∃ captured, r = .ok captured ∧
        (captured.promptMatched = true → (h.session k).prompt = none) ∧ h.KnowsProper k') := by
  rw [runCommand_eq, known, runFrom_bind, runFrom_look] at hrun
  refine learnt_of_look (hkeeps.obey command _) hk (fun captured k₁ hobey hk₁ => ?_) hrun
  -- the prompt is still the one that was known before the command was sent
  have hsame : (h.session k₁).prompt = (h.session k).prompt := by
    have hwithin := (hkeeps.obey command (awaited (h.session k) prompt) k hk).2
    rwa [hobey] at hwithin
  obtain ⟨_, _, -, hsent⟩ := exists_of_runFrom_bind hobey
  obtain ⟨_, _, -, hcapture⟩ := exists_of_runFrom_bind hsent
  obtain ⟨stops, t, hrendered⟩ := exists_render_of_capture hcapture
  obtain ⟨k₂, hlearn, hk₂, hlearnt⟩ := hkeeps.exists_learn hk₁ hrendered
    (fun p hp => Prompt.seenIn_of_changed hp) (fun p hp => Prompt.exists_of_detect hp)
  refine ⟨k₂, hlearn, hk₂, hlearnt.imp_right (And.imp_left fun hnone hmatched => ?_)⟩
  exact hsame.symm.trans (hnone (changed_of_promptMatched hcapture hmatched))

/-! ## Rows of uses -/

namespace Learns

variable {u : SessionUse τ} {c : SessionCall τ} {r : Except SessionFault (Option Captured)}
  {old new : Option KnownPrompt}

omit [TimeScale τ]

theorem isProper (hlearns : Learns u r old new) (hold : ∀ known ∈ old, known.IsProper) :
    ∀ known ∈ new, known.IsProper := by
  cases hlearns with
  | same => exact hold
  | learnt _ _ hproper _ =>
    rintro _ ⟨⟩
    exact hproper

theorem isSome (hlearns : Learns u r old new) (hold : old.isSome = true) : new.isSome = true := by
  cases hlearns with
  | same => exact hold
  | learnt => rfl

theorem looks (hlearns : Learns u r old new) (hne : new ≠ old) : u.Looks := by
  cases hlearns with
  | same => exact absurd rfl hne
  | learnt hlooks => exact hlooks

theorem eq_of_error {f : SessionFault} (hlearns : Learns u r old new) (hr : r = .error f) :
    new = old := by
  cases hlearns with
  | same => rfl
  | learnt _ hok => cases hr.symm.trans hok

theorem eq_of_promptMatched {command : Text} {prompt : Option PromptPattern} {captured : Captured}
    (hlearns : Learns u r old new) (hu : u = .call (.runCommand command prompt))
    (hr : r = .ok (some captured)) (hmatched : captured.promptMatched = true)
    (hold : old.isSome = true) : new = old := by
  cases hlearns with
  | same => rfl
  | learnt _ hok _ hnone =>
    cases hr.symm.trans hok
    rw [hnone ⟨command, prompt, hu⟩ hmatched] at hold
    cases hold

/-- What is learnt from the answer to a call. -/
theorem of_answer {r : Except SessionFault Captured} {Q : Captured → Prop}
    (hc : (SessionUse.call c).Looks)
    (hQ : ∀ captured, Q captured → (∃ command prompt, c = .runCommand command prompt) →
      captured.promptMatched = true → old = none)
    (hanswer : new = old ∨ ∃ captured, r = .ok captured ∧ Q captured ∧
      ∃ known : KnownPrompt, known.IsProper ∧ new = some known) :
    Learns (.call c) (r.map some) old new := by
  rcases hanswer with rfl | ⟨captured, rfl, hcaptured, known, hproper, rfl⟩
  · exact .same _
  · refine .learnt hc rfl hproper ?_
    rintro ⟨command, prompt, hcall⟩
    exact hQ captured hcaptured ⟨command, prompt, SessionUse.call.inj hcall⟩

end Learns

/-- A use that is a call ends as the call does. -/
theorem exists_of_use_call {c : SessionCall τ} {r : Except SessionFault (Option Captured)}
    (hrun : (h.use (.call c)).runFrom k = (r, k')) :
    ∃ r₀, (h.answer c).runFrom k = (r₀, k') ∧ r = r₀.map some := by
  obtain ⟨r₀, k₁, hanswer⟩ : ∃ r₀ k₁, (h.answer c).runFrom k = (r₀, k₁) := ⟨_, _, rfl⟩
  rw [use, runFrom_bind, hanswer] at hrun
  refine ⟨r₀, ?_⟩
  cases r₀ <;> cases hrun <;> exact ⟨hanswer, rfl⟩

/-- **One use of a session**: the session stays where it is kept, and its prompt is left alone or
learnt. -/
theorem Keeps.use_learns (hkeeps : h.Keeps there) (hk : there k) {u : SessionUse τ}
    {r : Except SessionFault (Option Captured)} (hrun : (h.use u).runFrom k = (r, k')) :
    there k' ∧ Learns u r (h.session k).prompt (h.session k').prompt := by
  have hquiet : ¬u.Looks → there k' ∧ Learns u r (h.session k).prompt (h.session k').prompt := by
    intro hu
    have hwithin := hkeeps.use_of_not_looks hu k hk
    rw [hrun] at hwithin
    rw [hwithin.2]
    exact ⟨hwithin.1, .same _⟩
  cases u with
  | close | isAlive => exact hquiet id
  | call c =>
    obtain ⟨r₀, hanswer, rfl⟩ := exists_of_use_call hrun
    cases c with
    | sendInput | sendControl | readOutput => exact hquiet id
    | readInitial =>
      rw [answer] at hanswer
      obtain ⟨hk', hlearnt⟩ := hkeeps.readInitial hk hanswer
      refine ⟨hk', .of_answer trivial ?_ hlearnt⟩
      rintro _ - ⟨_, _, ⟨⟩⟩
    | runCommand command prompt =>
      rw [answer] at hanswer
      obtain ⟨hk', hlearnt⟩ := hkeeps.runCommand hk hanswer
      exact ⟨hk', .of_answer trivial (fun _ hnone _ => hnone) hlearnt⟩

/-- **A row of uses**: the session stays where it is kept, and knows no prompt or a proper one. -/
theorem Keeps.after_isProper (hkeeps : h.Keeps there) (hk : there k)
    (hproper : ∀ known ∈ (h.session k).prompt, known.IsProper) (uses : List (SessionUse τ)) :
    there (h.after uses k) ∧ ∀ known ∈ (h.session (h.after uses k)).prompt, known.IsProper := by
  induction uses generalizing k with
  | nil => exact ⟨hk, hproper⟩
  | cons u uses ih =>
    obtain ⟨hk', hlearns⟩ := hkeeps.use_learns hk (u := u) Prod.mk.eta.symm
    exact ih hk' (hlearns.isProper hproper)

end Host

/-! ## Sessions of a pool -/

namespace Pool

variable {σ ρ τ : Type} (p : Pool σ ρ τ) {number process : Nat}

theorem prompt_host (w : World σ τ) :
    ((p.host number process).session w).prompt =
      w.seats[number]?.bind fun seat => seat.session.prompt := by
  simp only [host]
  cases w.seats[number]? <;> rfl

/-- The seat of a session is there. -/
def HasSeat (number : Nat) (w : World σ τ) : Prop :=
  w.seats[number]?.isSome = true

variable {p}

/-- As long as the seat of a session is left alone, its prompt stays as it is. -/
theorem samePrompt_of_seats {w w' : World σ τ} (h : w'.seats[number]? = w.seats[number]?) :
    (p.host number process).SamePrompt (HasSeat number) w w' := by
  intro hw
  rw [prompt_host, prompt_host, HasSeat, h]
  exact ⟨hw, rfl⟩

/-- What is put in the place of what is known of a session is known of it then. -/
theorem session_host_update (f : Session τ → Session τ) {w : World σ τ} (hw : HasSeat number w) :
    HasSeat number ((p.host number process).update f w) ∧
      (p.host number process).session ((p.host number process).update f w) =
        f ((p.host number process).session w) := by
  obtain ⟨seat, hseat⟩ := Option.isSome_iff_exists.1 hw
  simp only [HasSeat, host, Array.getElem?_modify, if_true, hseat, Option.map_some,
    Option.isSome_some, and_self]

/-- **A pool keeps a session** at its seat, as long as the requests that it serves meanwhile leave the
seat alone. -/
theorem keeps (hserve : ∀ r w, (p.serve r w).seats[number]? = w.seats[number]?) :
    (p.host number process).Keeps (HasSeat number) where
  within :=
    { read := fun t => by
        have hsystem : (onSystem (p.system.read process t)).Within
            ((p.host number process).SamePrompt (HasSeat number)) :=
          fun w => samePrompt_of_seats rfl
        refine hsystem.bind fun delivery => ?_
        cases delivery with
        | chunk c => exact within_pure _
        | request r =>
          exact (within_change fun w => samePrompt_of_seats (hserve r w)).bind fun _ =>
            within_pure _
      send := fun _ _ => samePrompt_of_seats rfl
      isAlive := fun _ => samePrompt_of_seats rfl
      sendEnd := fun _ => samePrompt_of_seats rfl
      terminate := fun _ _ => samePrompt_of_seats rfl
      wait := fun _ _ => samePrompt_of_seats rfl
      update := fun f w hw => by
        obtain ⟨hw', hsession⟩ : HasSeat number ((p.host number process).update _ w) ∧ _ :=
          session_host_update (fun s => { f s with prompt := s.prompt }) hw
        exact ⟨hw', (congrArg Session.prompt hsession).trans rfl⟩
      record := fun _ _ => samePrompt_of_seats rfl }
  update := fun f _ hw => session_host_update f hw

variable [TimeScale τ]

/-- **What a session remembers.** A session that starts without a prompt knows, after any row of
uses, none or a proper one. Whatever is done with it next, returning or failing: once there is a
prompt, there is one; it changes only with the first output or a command, and only if that returns; and
a command that ended because the prompt came back leaves alone a prompt that was known. -/
theorem remembers (hserve : ∀ r w, (p.serve r w).seats[number]? = w.seats[number]?)
    {w : World σ τ} (hseat : number < w.seats.size)
    (hnew : ((p.host number process).session w).prompt = none) (before : List (SessionUse τ))
    (u : SessionUse τ) :
    let h := p.host number process
    let w₁ := h.after before w
    let r := ((h.use u).runFrom w₁).1
    let old := (h.session w₁).prompt
    let new := (h.session ((h.use u).runFrom w₁).2).prompt
    (∀ known ∈ old, known.IsProper) ∧
      (∀ known ∈ new, known.IsProper) ∧
      (old.isSome = true → new.isSome = true) ∧
      (new ≠ old → u.Looks) ∧
      (∀ f, r = .error f → new = old) ∧
      ∀ command prompt captured, u = .call (.runCommand command prompt) →
        r = .ok (some captured) → captured.promptMatched = true → old.isSome = true →
        new = old := by
  intro h w₁ r old new
  have hkeeps : h.Keeps (HasSeat number) := keeps hserve
  have hthere : HasSeat number w := by
    rw [HasSeat, Array.getElem?_eq_getElem hseat]
    rfl
  obtain ⟨hthere₁, hproper⟩ := hkeeps.after_isProper hthere (by rw [hnew]; nofun) before
  obtain ⟨-, hlearns⟩ := hkeeps.use_learns hthere₁ (u := u) Prod.mk.eta.symm
  exact ⟨hproper, hlearns.isProper hproper, hlearns.isSome, hlearns.looks,
    fun f hr => hlearns.eq_of_error hr,
    fun command prompt captured hu hr => hlearns.eq_of_promptMatched hu hr⟩

end Pool

/-- A world with one session of one child, which answers to a command with a line and its prompt. -/
def World.seated : World (Stage Empty Empty Int) Int :=
  let w := World.answering "up\r\nrouter# ".toList
  { w with seats := #[⟨(Pool.paging 0).session w, 0⟩] }

namespace Pool

/-- Runs the command that the child answers to. -/
def showing : SessionUse Int :=
  .call (.runCommand "show".toList none)

set_option maxRecDepth 4000 in
/-- The first command teaches the prompt, and the second one leaves it alone. -/
theorem remembers_seated :
    ((paging 0).session .seated).prompt = none ∧
      ((paging 0).session ((paging 0).after [showing] .seated)).prompt =
        some ⟨"router#".toList, routerPrompt⟩ ∧
      ∃ captured w, ((paging 0).use showing).runFrom ((paging 0).after [showing] .seated) =
          (.ok (some captured), w) ∧
        captured.promptMatched = true ∧
        ((paging 0).session w).prompt = some ⟨"router#".toList, routerPrompt⟩ := by
  have hknown : ((paging 0).session ((paging 0).after [showing] .seated)).prompt =
      some ⟨"router#".toList, routerPrompt⟩ := by cbv
  have hmatched : (((paging 0).use showing).runFrom ((paging 0).after [showing] .seated)).1.map
      (fun c => c.map Captured.promptMatched) = .ok (some true) := by cbv
  have hnew : ((paging 0).session .seated).prompt = none := rfl
  obtain ⟨-, -, -, -, -, hsame⟩ :=
    remembers (fun _ _ => rfl) Nat.zero_lt_one hnew [showing] showing
  refine ⟨hnew, hknown, ?_⟩
  cases hrun : ((paging 0).use showing).runFrom ((paging 0).after [showing] .seated) with
  | mk r w =>
    rw [hrun] at hmatched
    rcases r with f | (_ | captured)
    case error | ok.none => cases hmatched
    case ok.some =>
      have hcaptured : captured.promptMatched = true := Option.some.inj (Except.ok.inj hmatched)
      refine ⟨captured, w, rfl, hcaptured, ?_⟩
      have hkept := hsame _ _ captured rfl (congrArg Prod.fst hrun) hcaptured
        (congrArg Option.isSome hknown)
      have hend : (((paging 0).use showing).runFrom ((paging 0).after [showing] .seated)).2 = w :=
        congrArg Prod.snd hrun
      rw [← hend]
      exact hkept.trans hknown

end Pool

end Teletype
