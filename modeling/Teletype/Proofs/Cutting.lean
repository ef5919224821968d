import Teletype.Proofs.NumberLine
import Teletype.Proofs.Seams
import Teletype.Proofs.Telling

/-!
# Output in pieces

A child writes a text, and a session reads it in pieces. How the text is cut into pieces is not up
to either of them, so it should not matter. Where pagers are not dismissed, what a reader sees is
what is rendered of the pieces, when each has lost its unsafe characters and its pager prompts by
itself (`Host.capture_delivers`). The first depends on no more than a character, so it does not
matter where the text is cut. The second depends on what stands around a character: a prompt that a
cut goes through is removed from neither side.

So two ways to cut a text give the same, exactly if what is left of the pieces is rendered as the
same; and they do where all cuts are seams (`Pool.readOutput_cut`).
-/

namespace Teletype

open Teletype.Action

/-! ## Limits -/

/-- What is not less than a number is not less than a smaller one. -/
theorem Double.le_of_natCast_le {m n : Nat} (h : m ≤ n) {y : Double}
    (hle : (ofInt n).le y = true) : (ofInt m).le y = true := by
  obtain ⟨a, b, ha, hb, hab⟩ := le_iff.1 hle
  rw [place?_ofInt] at ha
  cases ha
  exact le_iff.2 ⟨_, b, place?_ofInt m, hb, le_trans (by exact_mod_cast h) hab⟩

/-- A smaller count is at most the same limit. -/
theorem atMost_of_le {m n : Nat} (h : m ≤ n) {limit : Value} (hfits : atMost n limit = .ok true) :
    atMost m limit = .ok true := by
  cases limit with
  | number x =>
    rw [atMost] at hfits ⊢
    exact congrArg Except.ok (Double.le_of_natCast_le h (Except.ok.inj hfits))
  | _ => cases hfits

/-! ## What is left of a piece -/

namespace Settings

/-- What a capture under settings leaves of a piece of output that follows no key. -/
def cleaned (c : Settings) (piece : Text) : Text :=
  (Pager.strip (c.safe piece)).1

theorem safe_append (c : Settings) (a b : Text) : c.safe (a ++ b) = c.safe a ++ c.safe b := by
  rw [safe, safe, safe]
  split
  · exact List.filter_append ..
  · rfl

theorem safe_flatten (c : Settings) (ts : List Text) :
    c.safe ts.flatten = (ts.map c.safe).flatten := by
  induction ts with
  | nil => rw [safe]; split <;> rfl
  | cons t ts ih => rw [List.flatten_cons, safe_append, ih, List.map_cons, List.flatten_cons]

/-- What is left of pieces is what is left of the whole, where all cuts are seams. -/
theorem flatMap_cleaned {c : Settings} {ts : List Text} (h : Pager.spares (ts.map c.safe) = true) :
    ts.flatMap c.cleaned = c.cleaned ts.flatten := by
  rw [cleaned, safe_flatten, Pager.strip_flatten h, List.flatMap_map]
  rfl

end Settings

namespace Progress

variable {c : Settings} {p : Progress}

/-- Takes in pieces of output one after the other. -/
def absorbAll (c : Settings) (p : Progress) (ts : List Text) : Progress :=
  ts.foldl (fun p t => (p.absorb c t).1) p

theorem cleaned_absorbAll (hkey : p.afterKey = false) (ts : List Text) :
    (p.absorbAll c ts).cleaned.reverse.flatten =
      p.cleaned.reverse.flatten ++ ts.flatMap c.cleaned := by
  induction ts generalizing p with
  | nil => exact (List.append_nil _).symm
  | cons t ts ih =>
    have hcleaned : (p.absorb c t).1.cleaned = c.cleaned t :: p.cleaned := by
      simp only [absorb, hkey, Bool.false_eq_true, if_false]
      rfl
    have hrest : ((p.absorb c t).1.absorbAll c ts).cleaned.reverse.flatten = _ := ih rfl
    rw [hcleaned, List.reverse_cons, List.flatten_append, List.flatten_singleton,
      List.append_assoc] at hrest
    exact hrest

theorem read_absorbAll (ts : List Text) : (p.absorbAll c ts).read = p.read ++ ts.flatten := by
  induction ts generalizing p with
  | nil => exact (List.append_nil _).symm
  | cons t ts ih =>
    have hrest : ((p.absorb c t).1.absorbAll c ts).read = _ := ih
    rw [read_absorb, List.append_assoc] at hrest
    exact hrest

theorem pages_absorbAll (ts : List Text) : (p.absorbAll c ts).pages = p.pages := by
  induction ts generalizing p with
  | nil => rfl
  | cons t ts ih => exact ih (p := (p.absorb c t).1)

end Progress

namespace Host

variable {κ τ : Type} (h : Host κ τ)

/-- **A child delivers pieces of output**, each at once and none empty, and is silent then. -/
inductive Delivers (idle : τ) : List Text → κ → κ → Prop
  | silent {k k' : κ} : (h.readPiece idle).runFrom k = (.ok none, k') → Delivers idle [] k k'
  | piece {chunk : Chunk} {ts : List Text} {k k₁ k' : κ} :
    (h.readPiece idle).runFrom k = (.ok (some chunk), k₁) → chunk.isEmpty = false →
    h.now k₁ = h.now k → Delivers idle ts k₁ k' → Delivers idle (chunk.decoded :: ts) k k'

variable {h} {idle deadline : τ} {ts : List Text} {k k' : κ}

theorem readPiece_of_ok {chunk : Chunk} (hread : (h.read idle).runFrom k = (.ok chunk, k')) :
    (h.readPiece idle).runFrom k = (.ok (some chunk), k') := by
  simp only [readPiece, runFrom_bind, runFrom_attempt, hread]
  rfl

theorem readPiece_of_silent {f : ChildFault} (hread : (h.read idle).runFrom k = (.error f, k'))
    (hf : f.kind = .silent) : (h.readPiece idle).runFrom k = (.ok none, k') := by
  simp only [readPiece, runFrom_bind, runFrom_attempt, hread, hf, true_or, if_true]
  rfl

variable [TimeScale τ] {c : Settings} {prompt : Option PromptPattern}

/-- Where no time is left nothing is read. -/
theorem readOn_late (hlate : TimeScale.lt (h.now k) deadline = false) (reads : Nat) (p : Progress) :
    (h.readOn c prompt idle deadline reads p).runFrom k = (.ok (p, false), k) := by
  cases reads with
  | zero => rfl
  | succ reads =>
    simp only [readOn, clock, runFrom_bind, runFrom_look, hlate, Bool.not_false, if_true]
    rfl

/-- Where nothing comes the read ends. -/
theorem readOn_none (htime : TimeScale.lt (h.now k) deadline = true)
    (hread : (h.readPiece idle).runFrom k = (.ok none, k')) (reads : Nat) (p : Progress) :
    (h.readOn c prompt idle deadline (reads + 1) p).runFrom k = (.ok (p, false), k') := by
  simp only [readOn, clock, runFrom_bind, runFrom_look, htime, Bool.not_true, Bool.false_eq_true,
    if_false, hread]
  rfl

/-- What is empty counts for nothing. -/
theorem readOn_empty {chunk : Chunk} (htime : TimeScale.lt (h.now k) deadline = true)
    (hread : (h.readPiece idle).runFrom k = (.ok (some chunk), k')) (hempty : chunk.isEmpty = true)
    (reads : Nat) (p : Progress) :
    (h.readOn c prompt idle deadline (reads + 1) p).runFrom k =
      (h.readOn c prompt idle deadline reads p).runFrom k' := by
  simp only [readOn, clock, runFrom_bind, runFrom_look, htime, Bool.not_true, Bool.false_eq_true,
    if_false, hread, hempty, if_true]

/-- What is delivered is taken in, as long as there is time for it and room. -/
theorem readOn_delivers (hauto : c.autoDismiss.isTrue = false) (hdelivers : h.Delivers idle ts k k')
    (htime : TimeScale.lt (h.now k) deadline = true) {p : Progress}
    (hfits : atMost (p.total + ts.flatten.length) c.maxBuffer = .ok true) {reads : Nat}
    (hreads : ts.length < reads) :
    (h.readOn c none idle deadline reads p).runFrom k = (.ok (p.absorbAll c ts, false), k') := by
  induction hdelivers generalizing p reads with
  | silent hread =>
    obtain ⟨reads, rfl⟩ := Nat.exists_eq_succ_of_ne_zero (Nat.ne_of_gt hreads)
    exact readOn_none htime hread reads p
  | @piece chunk ts k k₁ k' hread hsome hnow _ ih =>
    obtain ⟨reads, rfl⟩ := Nat.exists_eq_succ_of_ne_zero (Nat.ne_of_gt (Nat.zero_lt_of_lt hreads))
    have htotal : p.total + (chunk.decoded :: ts).flatten.length =
        (p.absorb c chunk.decoded).1.total + ts.flatten.length := by
      rw [List.flatten_cons, List.length_append, ← Nat.add_assoc]
      rfl
    rw [htotal] at hfits
    have hroom : atMost (p.absorb c chunk.decoded).1.total c.maxBuffer = .ok true :=
      atMost_of_le (Nat.le_add_right _ _) hfits
    have hstep : (h.readOn c none idle deadline (reads + 1) p).runFrom k =
        (h.readOn c none idle deadline reads (p.absorb c chunk.decoded).1).runFrom k₁ := by
      simp only [readOn, clock, runFrom_bind, runFrom_look, htime, Bool.not_true,
        Bool.false_eq_true, if_false, hread, hsome, hauto, Bool.and_false, showsPrompt,
        runFrom_ofExcept, isFull, hroom, if_true, runFrom_pure]
    rw [hstep]
    exact ih (by rw [hnow]; exact htime) hfits (Nat.lt_of_succ_lt_succ hreads)

/-- What a read takes in of pieces that are delivered: all of them, unless no time is left. -/
def inTime (now deadline : τ) (ts : List Text) : List Text :=
  if TimeScale.lt now deadline then ts else []

/-- **What a capture returns that does not dismiss pagers**, when its child delivers pieces that
there is room for: what is rendered of what is left of each of them. -/
theorem capture_delivers {time : Option τ} (hsettings : (h.session k).settings = c)
    (hauto : c.autoDismiss.isTrue = false)
    (hwait : TimeScale.overflows (h.now k) c.maxWait = false)
    (hdelivers : h.Delivers (time.getD (TimeScale.ofNumber c.idleTimeout)) ts k k')
    (hfits : atMost ts.flatten.length c.maxBuffer = .ok true)
    (hreads : ts.length < h.readLimit (limitSize c.maxBuffer) k) :
    let taken := inTime (h.now k) (TimeScale.add (h.now k) (TimeScale.ofNumber c.maxWait)) ts
    ((h.capture time none).runFrom k).1 =
      ((Screen.render (TabStops.ofNumber c.tabSize) (taken.flatMap c.cleaned)).map fun text =>
        ⟨text, taken.flatten, 0, false⟩).mapError .render := by
  intro taken
  have hread : ∃ k₁, (h.readOn c none (time.getD (TimeScale.ofNumber c.idleTimeout))
      (TimeScale.add (h.now k) (TimeScale.ofNumber c.maxWait))
      (h.readLimit (limitSize c.maxBuffer) k) .start).runFrom k =
        (.ok (Progress.start.absorbAll c taken, false), k₁) := by
    cases htime : TimeScale.lt (h.now k)
        (TimeScale.add (h.now k) (TimeScale.ofNumber c.maxWait)) with
    | true =>
      have htaken : taken = ts := by simp only [taken, inTime, htime, if_true]
      rw [htaken]
      refine ⟨k', readOn_delivers hauto hdelivers htime ?_ hreads⟩
      rwa [Progress.start, Nat.zero_add]
    | false =>
      have htaken : taken = [] := by
        simp only [taken, inTime, htime, Bool.false_eq_true, if_false]
      rw [htaken]
      exact ⟨k, readOn_late htime _ _⟩
  obtain ⟨k₁, hread⟩ := hread
  have hcleaned : (Progress.start.absorbAll c taken).cleaned.reverse.flatten =
      taken.flatMap c.cleaned := Progress.cleaned_absorbAll rfl taken
  have hraw : (Progress.start.absorbAll c taken).raw.reverse.flatten = taken.flatten :=
    Progress.read_absorbAll taken
  have hpages : (Progress.start.absorbAll c taken).pages = 0 := Progress.pages_absorbAll taken
  simp only [capture, known, clock, runFrom_bind, runFrom_look, hsettings,
    Settings.deadline_of_fits hwait, hread, runFrom_ofExcept, Progress.finish, Progress.rendered,
    hcleaned, hraw, hpages]

/-- Where the longest wait cannot be added to the time, a capture fails before it reads anything. -/
theorem capture_of_overflows
    (hwait : TimeScale.overflows (h.now k) (h.session k).settings.maxWait = true)
    (time : Option τ) (prompt : Option PromptPattern) :
    (h.capture time prompt).runFrom k = (.error .overflow, k) := by
  simp only [capture, known, clock, runFrom_bind, runFrom_look,
    Settings.deadline_of_overflows hwait, runFrom_ofExcept]

end Host

/-- A fault of rendering is reported as it is. -/
theorem mapError_render_inj {r r' : Except RenderFault Text} :
    r.mapError SessionFault.render = r'.mapError SessionFault.render ↔ r = r' := by
  refine ⟨fun h => ?_, congrArg _⟩
  cases r with
  | ok t =>
    cases r' with
    | ok t' => cases h; rfl
    | error f' => cases h
  | error f =>
    cases r' with
    | ok t' => cases h
    | error f' => cases h; rfl

/-! ## Scripted children -/

section Stages

variable {ρ ο τ : Type}

theorem le_total_of_mem {α : Type} (measure : α → Nat) {a : α} {as : List α} (h : a ∈ as) :
    measure a ≤ total measure as := by
  induction as with
  | nil => exact absurd h List.not_mem_nil
  | cons b as ih =>
    rw [total]
    rcases List.mem_cons.1 h with rfl | h
    · exact Nat.le_add_right _ _
    · exact (ih h).trans (Nat.le_add_left _ _)

/-- Every item takes a read. -/
theorem Item.length_le_weights (weigh : ρ → Nat) (items : List (Item ρ τ)) :
    items.length ≤ Item.weights weigh items := by
  have hone : ∀ item : Item ρ τ, 1 ≤ item.weight weigh := by
    intro item
    cases item <;> simp [Item.weight]
  induction items with
  | nil => exact Nat.zero_le _
  | cons item items ih =>
    have hitem := hone item
    rw [Item.weights] at ih ⊢
    rw [total, List.length_cons]
    omega

/-- A stage takes as many reads as one of its children. -/
theorem Stage.weight_process_le {s : Stage ρ ο τ} {n : Nat} (hn : n < s.processes.size)
    (weigh : ρ → Nat) : (s.process n).weight weigh ≤ s.weight weigh := by
  have hprocess : s.process n = s.processes[n] := by
    rw [Stage.process, Array.getElem?_eq_getElem hn]
    rfl
  have hmem : s.process n ∈ s.processes.toList := by
    rw [hprocess]
    exact Array.getElem_mem_toList hn
  exact (le_total_of_mem _ hmem).trans (Nat.le_add_right _ _)

/-- A child that lives and has pieces of output to read. -/
structure Process.Offers (q : Process ρ τ) (ts : List Text) : Prop where
  queue : q.queue = ts.map .text
  isAlive : q.isAlive = true

/-- A stage takes at least as many reads as there are pieces to read from one of its children. -/
theorem Stage.length_le_weight {s : Stage ρ ο τ} {n : Nat} (hn : n < s.processes.size)
    {ts : List Text} (h : (s.process n).Offers ts) (weigh : ρ → Nat) :
    ts.length ≤ s.weight weigh := by
  have hqueue : (s.process n).queue.length = ts.length := by rw [h.queue, List.length_map]
  calc ts.length = (s.process n).queue.length := hqueue.symm
    _ ≤ Item.weights weigh (s.process n).queue := Item.length_le_weights weigh _
    _ ≤ (s.process n).weight weigh := (Nat.le_add_right _ _).trans (Nat.le_add_right _ _)
    _ ≤ s.weight weigh := Stage.weight_process_le hn weigh

/-- The world in which a child lives and has pieces of output to read, and no others. -/
def World.offering (n : Nat) (ts : List Text) (w : World (Stage ρ ο τ) τ) :
    World (Stage ρ ο τ) τ :=
  { w with system := w.system.modify n fun q =>
      { q with queue := ts.map .text, isAlive := true } }

variable [TimeScale τ]

namespace Pool

variable (weigh : ρ → Nat) (options : PoolOptions)
  (serve : ρ → World (Stage ρ ο τ) τ → World (Stage ρ ο τ) τ) (number : Nat) {n : Nat}

/-- A scripted child delivers the pieces that it offers. -/
theorem exists_delivers (idle : τ) {ts : List Text} (hts : ∀ t ∈ ts, t ≠ [])
    {w : World (Stage ρ ο τ) τ} (hn : n < w.system.processes.size)
    (h : (w.system.process n).Offers ts) :
    ∃ w', ((onStage weigh options serve).host number n).Delivers idle ts w w' := by
  induction ts generalizing w with
  | nil =>
    have hsilent : (Stage.read n idle).runFrom w.system =
        (.error Stage.silent, w.system.advance idle) := by
      rw [Stage.read, runFrom_ofRun, h.queue]
      simp only [List.map_nil, h.isAlive, if_true]
    refine ⟨{ w with system := w.system.advance idle }, .silent ?_⟩
    simp only [Host.readPiece, runFrom_bind, runFrom_attempt, host, read, onSystem, runFrom_zoom,
      Stage.system, hsilent]
    rfl
  | cons t ts ih =>
    have htext : (Stage.read n idle).runFrom w.system = (.ok (.chunk (.text t)),
        w.system.modify n fun q => { q with queue := ts.map .text }) := by
      rw [Stage.read, runFrom_ofRun, h.queue]
      rfl
    have hoffers : ((w.system.modify n fun q => { q with queue := ts.map .text }).process
        n).Offers ts := by
      rw [Stage.process_modify hn]
      exact ⟨rfl, h.isAlive⟩
    have hread : (((onStage weigh options serve).host number n).readPiece idle).runFrom w =
        (.ok (some (.text t)),
          { w with system := w.system.modify n fun q => { q with queue := ts.map .text } }) := by
      simp only [Host.readPiece, runFrom_bind, runFrom_attempt, host, read, onSystem,
        runFrom_zoom, Stage.system, htext]
      rfl
    have hsome : (Chunk.text t).isEmpty = false :=
      List.isEmpty_eq_false_iff.2 (hts t List.mem_cons_self)
    obtain ⟨w', hrest⟩ := ih (fun u hu => hts u (List.mem_cons_of_mem t hu))
      (w := { w with system := w.system.modify n fun q => { q with queue := ts.map .text } })
      (by rw [Stage.size_modify]; exact hn) hoffers
    exact ⟨w', .piece hread hsome rfl hrest⟩

/-- What a session sees of the output that it reads next, when its child offers pieces. -/
def seen (h : Host (World (Stage ρ ο τ) τ) τ) (n : Nat) (time : Option τ)
    (w : World (Stage ρ ο τ) τ) (ts : List Text) : Except SessionFault Text :=
  ((h.readOutput time).runFrom (w.offering n ts)).1.map Captured.text

/-- Before it reads output a session notes that it is used, and nothing else has changed then. -/
theorem exists_touch_offering {w : World (Stage ρ ο τ) τ} {c : Settings}
    (hsettings : (((onStage weigh options serve).host number n).session w).settings = c)
    (ts : List Text) :
    ∃ w₁ : World (Stage ρ ο τ) τ,
      ((onStage weigh options serve).host number n).touch.runFrom (w.offering n ts) = (.ok (), w₁) ∧
      w₁.system = (w.offering n ts).system ∧
      ((onStage weigh options serve).host number n).now w₁ = w.system.clock ∧
      (((onStage weigh options serve).host number n).session w₁).settings = c := by
  refine ⟨_, rfl, rfl, rfl, ?_⟩
  rw [← hsettings]
  exact (settings_host_update _ _ _).trans (settings_host_of_seats _ rfl)

/-- A session sees nothing where the longest wait cannot be added to the time. -/
theorem seen_of_overflows {w : World (Stage ρ ο τ) τ} {c : Settings}
    (hsettings : (((onStage weigh options serve).host number n).session w).settings = c)
    (hwait : TimeScale.overflows w.system.clock c.maxWait = true) (time : Option τ)
    (ts : List Text) :
    seen ((onStage weigh options serve).host number n) n time w ts = .error .overflow := by
  obtain ⟨w₁, htouch, -, hclock, rfl⟩ :=
    exists_touch_offering weigh options serve number hsettings ts
  rw [← hclock] at hwait
  rw [seen, Host.readOutput, runFrom_bind, htouch]
  simp only [Host.capture_of_overflows hwait]
  rfl

/-- What a session sees is rendered of what is left of the pieces. -/
theorem seen_eq {w : World (Stage ρ ο τ) τ} (hn : n < w.system.processes.size) {c : Settings}
    (hsettings : (((onStage weigh options serve).host number n).session w).settings = c)
    (hauto : c.autoDismiss.isTrue = false)
    (hwait : TimeScale.overflows w.system.clock c.maxWait = false) {ts : List Text}
    (hts : ∀ t ∈ ts, t ≠ [])
    (hfits : atMost ts.flatten.length c.maxBuffer = .ok true) (time : Option τ) :
    seen ((onStage weigh options serve).host number n) n time w ts =
      (Screen.render (TabStops.ofNumber c.tabSize)
        ((Host.inTime w.system.clock
          (TimeScale.add w.system.clock (TimeScale.ofNumber c.maxWait)) ts).flatMap
            c.cleaned)).mapError .render := by
  obtain ⟨w₁, htouch, hsystem, hclock, hsettings₁⟩ :=
    exists_touch_offering weigh options serve number hsettings ts
  have hsize : n < (w.offering n ts).system.processes.size := by
    rw [World.offering, Stage.size_modify]
    exact hn
  have hoffers : ((w.offering n ts).system.process n).Offers ts := by
    rw [World.offering, Stage.process_modify hn]
    exact ⟨rfl, rfl⟩
  rw [← hsystem] at hsize hoffers
  obtain ⟨w₂, hdelivers⟩ := exists_delivers weigh options serve number
    (time.getD (TimeScale.ofNumber c.idleTimeout)) hts hsize hoffers
  have hreads : ts.length <
      ((onStage weigh options serve).host number n).readLimit (limitSize c.maxBuffer) w₁ := by
    have hweight := Stage.length_le_weight hsize hoffers weigh
    calc ts.length < w₁.system.weight weigh + 1 := Nat.lt_succ_of_le hweight
      _ ≤ (w₁.system.weight weigh + 1) * (limitSize c.maxBuffer + 2) :=
        Nat.le_mul_of_pos_right _ (Nat.succ_pos _)
  have hcapture := Host.capture_delivers hsettings₁ hauto (hclock.symm ▸ hwait) hdelivers hfits
    hreads
  rw [hclock] at hcapture
  rw [seen, Host.readOutput, runFrom_bind, htouch]
  simp only
  rw [hcapture]
  cases Screen.render (TabStops.ofNumber c.tabSize) _ with
  | ok text => rfl
  | error f => rfl

/-- **How far what a session sees depends on how its output is cut.** Two ways to cut the same text
give the same exactly if what is left of the pieces is rendered as the same, unless there is no time
to read anything, or no telling how much time there is. They do give the same where all cuts are
seams. -/
theorem readOutput_cut {w : World (Stage ρ ο τ) τ} (hn : n < w.system.processes.size) {c : Settings}
    (hsettings : (((onStage weigh options serve).host number n).session w).settings = c)
    (hauto : c.autoDismiss.isTrue = false) {ts us : List Text} (hts : ∀ t ∈ ts, t ≠ [])
    (hus : ∀ u ∈ us, u ≠ []) (hjoin : ts.flatten = us.flatten)
    (hfits : atMost ts.flatten.length c.maxBuffer = .ok true) (time : Option τ) :
    let h := (onStage weigh options serve).host number n
    let deadline := TimeScale.add w.system.clock (TimeScale.ofNumber c.maxWait)
    let stops := TabStops.ofNumber c.tabSize
    (seen h n time w ts = seen h n time w us ↔
      (TimeScale.overflows w.system.clock c.maxWait = false →
        TimeScale.lt w.system.clock deadline = true →
        Screen.render stops (ts.flatMap c.cleaned) = Screen.render stops (us.flatMap c.cleaned))) ∧
      (Pager.spares (ts.map c.safe) = true → Pager.spares (us.map c.safe) = true →
        seen h n time w ts = seen h n time w us) := by
  intro h deadline stops
  have hseen : seen h n time w ts = seen h n time w us ↔
      (TimeScale.overflows w.system.clock c.maxWait = false →
        TimeScale.lt w.system.clock deadline = true →
        Screen.render stops (ts.flatMap c.cleaned) =
          Screen.render stops (us.flatMap c.cleaned)) := by
    cases hwait : TimeScale.overflows w.system.clock c.maxWait with
    | true =>
      rw [seen_of_overflows weigh options serve number hsettings hwait,
        seen_of_overflows weigh options serve number hsettings hwait]
      exact iff_of_true rfl (by rintro ⟨⟩)
    | false =>
      rw [seen_eq weigh options serve number hn hsettings hauto hwait hts hfits,
        seen_eq weigh options serve number hn hsettings hauto hwait hus (hjoin ▸ hfits),
        mapError_render_inj]
      cases htime : TimeScale.lt w.system.clock deadline with
      | true =>
        simp only [Host.inTime, deadline, htime, if_true, forall_const]
        rfl
      | false =>
        simp only [Host.inTime, deadline, htime, Bool.false_eq_true, if_false, false_imp_iff,
          implies_true]
  refine ⟨hseen, fun hspares hspares' => hseen.2 fun _ _ => ?_⟩
  rw [Settings.flatMap_cleaned hspares, Settings.flatMap_cleaned hspares', hjoin]

/-! ## A prompt that is cut in two -/

/-- What a pool is set up with that leaves pagers alone. -/
def incurious : PoolOptions :=
  { silent.options with
    settings := { silent.options.settings with maxBuffer := .number (.int 20) } }

/-- A session that reads what its child offers. -/
def reader : Host (World (Stage Empty Empty Int) Int) Int :=
  (onStage Empty.elim incurious fun _ w => w).host 0 0

/-- A line of output behind a prompt, read at once or line by line. -/
theorem readOutput_cut_lines :
    seen reader 0 none (.answering []) ["a--More--\n".toList, ['b']] =
        seen reader 0 none (.answering []) ["a--More--\nb".toList] ∧
      seen reader 0 none (.answering []) ["a--More--\nb".toList] = .ok "a\r\nb".toList := by
  have hjoin : ["a--More--\n".toList, ['b']].flatten = ["a--More--\nb".toList].flatten := by decide
  have hfits : atMost ["a--More--\n".toList, ['b']].flatten.length incurious.settings.maxBuffer =
      .ok true := by cbv
  have hlines : Pager.spares (["a--More--\n".toList, ['b']].map incurious.settings.safe) =
      true := by cbv
  have hwhole : Pager.spares (["a--More--\nb".toList].map incurious.settings.safe) = true := by cbv
  have hsettings : (reader.session (.answering [])).settings = incurious.settings := rfl
  refine ⟨?_, by cbv⟩
  exact (readOutput_cut Empty.elim incurious (fun _ w => w) 0 (by decide) hsettings rfl (by decide)
    (by decide) hjoin hfits none).2 hlines hwhole

/-- **A prompt that is cut in two stays**, and one that is not is removed. -/
theorem readOutput_cut_prompt :
    incurious.settings.autoDismiss.isTrue = false ∧
      ["--Mo".toList, "re--".toList].flatten = ["--More--".toList].flatten ∧
      atMost "--More--".toList.length incurious.settings.maxBuffer = .ok true ∧
      seen reader 0 none (.answering []) ["--Mo".toList, "re--".toList] = .ok "--More--".toList ∧
      seen reader 0 none (.answering []) ["--More--".toList] = .ok [] := by
  refine ⟨rfl, rfl, by cbv, by cbv, by cbv⟩

end Pool

end Stages

end Teletype
