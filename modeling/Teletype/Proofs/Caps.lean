import Teletype.Proofs.NumberLine
import Teletype.Proofs.Turns

/-!
# The caps of a read

Two limits keep a read of output small: one to the characters that are read, and one to the pagers
that are dismissed. They are looked at in different places of a turn, and a pager is dismissed only
if both allow it. What a turn that goes on keeps of them is `Progress.Capped`; the turn that ends the
read adds no more than a piece of output, which may be of any length.

So all that is read but the last piece is within the first limit, the keys that are sent are within
the second, and each of them answers to a piece of its own that holds a pager (`Host.capture_caps`).
-/

namespace Teletype

open Teletype.Action

/-! ## Whole numbers as limits -/

theorem atMost_int (count : Nat) (limit : Int) :
    atMost count (.number (.int limit)) = .ok (decide ((count : Int) ≤ limit)) := by
  rw [atMost, Number.le, Number.value, Number.value, Double.le_ofInt]

theorem hasReached_int (count : Nat) (limit : Int) :
    hasReached count (.number (.int limit)) = .ok (decide (limit ≤ (count : Int))) := by
  rw [hasReached, Number.le, Number.value, Number.value, Double.le_ofInt]

theorem limitSize_int (limit : Int) : limitSize (.number (.int limit)) = limit.toNat := by
  have hwhole : (Number.int limit).truncate? =
      some (Double.scaled (decide (limit < 0)) limit.natAbs 0) := rfl
  rw [limitSize, hwhole, Double.scaled_ofInt]

/-! ## Keys that answer to pagers -/

namespace Dealing

/-- **Each key that was sent answers to a pager**: it is the one that dismisses it, and directly
before it a piece of output was read that holds the pager. -/
def AnswersPagers (c : Settings) (ds : List Dealing) : Prop :=
  ∀ before v r after, ds = before ++ .sent v r :: after → v = c.dismissKey ∧ r = .ok () ∧
    ∃ earlier chunk, before = earlier ++ [.read (.ok chunk)] ∧ chunk.isEmpty = false ∧
      c.seesPager chunk.decoded = true

variable {c : Settings} {ds ds' : List Dealing}

/-- Where nothing is sent there is nothing to answer to. -/
theorem answersPagers_of_sends (h : sends ds = 0) : AnswersPagers c ds := by
  rintro before v r after rfl
  rw [sends_append, sends, sends, List.countP_cons_of_pos rfl] at h
  omega

theorem answersPagers_key {chunk : Chunk} (hsome : chunk.isEmpty = false)
    (hsees : c.seesPager chunk.decoded = true) :
    AnswersPagers c [.read (.ok chunk), .sent c.dismissKey (.ok ())] := by
  intro before v r after h
  match before, h with
  | [], h => cases h
  | [d], h => cases h; exact ⟨rfl, rfl, [], chunk, rfl, hsome, hsees⟩
  | d :: d' :: before, h =>
    injection h with _ h
    injection h with _ h
    cases before <;> cases h

theorem AnswersPagers.append (h : AnswersPagers c ds) (h' : AnswersPagers c ds') :
    AnswersPagers c (ds ++ ds') := by
  intro before v r after heq
  rcases List.append_eq_append_iff.1 heq with ⟨before', rfl, hds'⟩ | ⟨rest, hds, hrest⟩
  · obtain ⟨hv, hr, earlier, chunk, rfl, hchunk⟩ := h' _ _ _ _ hds'
    exact ⟨hv, hr, ds ++ earlier, chunk, (List.append_assoc ..).symm, hchunk⟩
  · cases rest with
    | nil =>
      -- the key would be the first of the second ledger, with nothing before it
      obtain ⟨-, -, earlier, chunk, hnil, -⟩ := h' [] v r after hrest.symm
      cases earlier <;> cases hnil
    | cons d rest =>
      obtain ⟨rfl, -⟩ := List.cons.inj hrest
      exact h _ _ _ _ hds

end Dealing

/-! ## What the limits allow -/

/-- **What was read within limits**: as much of it passed as is known, there is room for it, and the
pagers were dismissed that may be, each by a key of its own. -/
structure Progress.Capped (c : Settings) (most few : Int) (ds : List Dealing) (p : Progress) :
    Prop where
  total : p.total = (Dealing.pieces ds).flatten.length
  pages : p.pages = Dealing.sends ds
  total_le : (p.total : Int) ≤ max most 0
  pages_le : (p.pages : Int) ≤ max few 0
  pages_eq_zero : c.autoDismiss.isTrue = false → p.pages = 0
  answers : Dealing.AnswersPagers c ds

theorem Progress.capped_start (c : Settings) (most few : Int) :
    start.Capped c most few [] where
  total := rfl
  pages := rfl
  total_le := le_max_right _ _
  pages_le := le_max_right _ _
  pages_eq_zero := fun _ => rfl
  answers := Dealing.answersPagers_of_sends rfl

namespace Host

variable {κ τ : Type} [TimeScale τ] {h : Host κ τ} {c : Settings} {prompt : Option PromptPattern}
  {idle deadline : τ} {p q : Progress} {k k' : κ} {most few : Int} {ds ds' : List Dealing}

/-- A piece of output is counted with what was read before it. -/
theorem length_append_pieces {chunk : Chunk} (hsome : chunk.isEmpty = false)
    (htotal : p.total = (Dealing.pieces ds).flatten.length) :
    p.total + chunk.decoded.length =
      (Dealing.pieces (ds ++ [.read (.ok chunk)])).flatten.length := by
  rw [Dealing.pieces_append, Dealing.pieces_read hsome, List.flatten_append, List.length_append,
    List.flatten_singleton, htotal]

/-- **A turn that goes on stays within the limits.** -/
theorem GoesOn.capped (hgoes : h.GoesOn c prompt idle deadline p k ds' q k')
    (hbuffer : c.maxBuffer = .number (.int most)) (hpages : c.maxPages = .number (.int few))
    (hcapped : p.Capped c most few ds) : q.Capped c most few (ds ++ ds') := by
  have hroom : ∀ {n : Nat}, atMost n c.maxBuffer = .ok true → (n : Int) ≤ max most 0 := by
    intro n hfits
    rw [hbuffer, atMost_int] at hfits
    exact le_max_of_le_left (of_decide_eq_true (Except.ok.inj hfits))
  cases hgoes with
  | empty hmeets hempty =>
    rename_i chunk
    have hpieces : Dealing.pieces [.read (.ok chunk)] = [] :=
      Dealing.pieces_eq_nil (by
        simpa [Dealing.text, Dealing.delivered, Dealing.chunk?] using Chunk.decoded_of_isEmpty hempty)
    exact
      { hcapped with
        total := by rw [Dealing.pieces_append, hpieces, List.append_nil]; exact hcapped.total
        pages := by rw [Dealing.sends_append]; exact hcapped.pages
        answers := hcapped.answers.append (Dealing.answersPagers_of_sends rfl) }
  | dismissed hmeets hspent hfits hkey =>
    rename_i chunk
    obtain ⟨hsees, hauto⟩ := Bool.and_eq_true_iff.1 hmeets.paused
    have hpieces : Dealing.pieces (ds ++ [.read (.ok chunk), .sent c.dismissKey (.ok ())]) =
        Dealing.pieces (ds ++ [.read (.ok chunk)]) := by
      rw [Dealing.pieces_append, Dealing.pieces_append]
      rfl
    rw [hpages, hasReached_int] at hspent
    have hfew : ¬few ≤ (p.pages : Int) := of_decide_eq_false (Except.ok.inj hspent)
    have hpages' : (p.absorb c chunk.decoded).1.keyed.pages = p.pages + 1 := rfl
    exact
      { total := by rw [hpieces]; exact length_append_pieces hmeets.isSome hcapped.total
        pages := by rw [hpages', Dealing.sends_append, ← hcapped.pages]; rfl
        total_le := hroom hfits
        pages_le := by rw [hpages']; exact le_max_of_le_left (by omega)
        pages_eq_zero := fun hnever => absurd hauto (Bool.eq_false_iff.1 hnever)
        answers := hcapped.answers.append (Dealing.answersPagers_key hmeets.isSome hsees) }
  | text hmeets _ hfits =>
    exact
      { total := length_append_pieces hmeets.isSome hcapped.total
        pages := by rw [Dealing.sends_append]; exact hcapped.pages
        total_le := hroom hfits
        pages_le := hcapped.pages_le
        pages_eq_zero := hcapped.pages_eq_zero
        answers := hcapped.answers.append (Dealing.answersPagers_of_sends rfl) }

/-- All turns that go on do. -/
theorem Arrives.capped (harrives : h.Arrives c prompt idle deadline .start k ds q k')
    (hbuffer : c.maxBuffer = .number (.int most)) (hpages : c.maxPages = .number (.int few)) :
    q.Capped c most few ds := by
  induction harrives with
  | start => exact Progress.capped_start c most few
  | turn _ hgoes ih => exact hgoes.capped hbuffer hpages ih

/-- In a turn that ends a read there is at most one piece of output. -/
theorem Stops.length_pieces_le {r : Except SessionFault (Progress × Bool)}
    (hstops : h.Stops c prompt idle deadline p k ds r k') : (Dealing.pieces ds).length ≤ 1 := by
  have hpiece : ∀ (chunk : Chunk) (ds : List Dealing), Dealing.delivered ds = [] →
      (Dealing.pieces (.read (.ok chunk) :: ds)).length ≤ 1 := by
    intro chunk ds hds
    have hdelivered : Dealing.delivered (.read (.ok chunk) :: ds) = [chunk] :=
      congrArg (chunk :: ·) hds
    rw [Dealing.pieces, List.length_map, hdelivered]
    exact List.length_filter_le _ _
  cases hstops with
  | late | silent | broken => exact Nat.zero_le 1
  | paused | refused | shown | full | unseen | unlimited => exact hpiece _ _ rfl

/-- In a turn that ends a read with a result nothing is sent, and no pager is dismissed. -/
theorem Stops.sends_eq_zero {matched : Bool}
    (hstops : h.Stops c prompt idle deadline p k ds (.ok (q, matched)) k') :
    Dealing.sends ds = 0 ∧ q.pages = p.pages := by
  cases hstops <;> exact ⟨rfl, rfl⟩

/-- What is read but the last piece is within what was read before the last turn. -/
theorem length_dropLast_pieces_le (ds : List Dealing) {ds' : List Dealing}
    (hdealt : (Dealing.pieces ds').length ≤ 1) :
    (Dealing.pieces (ds ++ ds')).dropLast.flatten.length ≤
      (Dealing.pieces ds).flatten.length := by
  have hprefix : (Dealing.pieces (ds ++ ds')).dropLast <+: Dealing.pieces ds := by
    rw [Dealing.pieces_append]
    match hds' : Dealing.pieces ds', hdealt with
    | [], _ => rw [List.append_nil]; exact List.dropLast_prefix _
    | [t], _ => rw [List.dropLast_concat]
  obtain ⟨rest, hrest⟩ := hprefix
  rw [← hrest, List.flatten_append, List.length_append]
  exact Nat.le_add_right _ _

/-- **The caps of a read.** Under limits that are whole numbers, of what a capture returns:
all pieces of output that it read, but for the last one that is not empty, are together no longer
than the first limit; it dismissed as many pagers as it sent keys, no more than the second limit, and
none where pagers are left alone; and each key answers to a pager. -/
theorem capture_caps {time : Option τ} {captured : Captured} {most few : Int}
    (hbuffer : (h.session k).settings.maxBuffer = .number (.int most))
    (hpages : (h.session k).settings.maxPages = .number (.int few))
    (hrun : (h.capture time prompt).runFrom k = (.ok captured, k')) :
    ∃ ds, (∀ l, (h.recorded.capture time prompt).runFrom (k, l) = (.ok captured, (k', l ++ ds))) ∧
      ((Dealing.pieces ds).dropLast.flatten.length : Int) ≤ max most 0 ∧
      captured.pages = Dealing.sends ds ∧ (captured.pages : Int) ≤ max few 0 ∧
      ((h.session k).settings.autoDismiss.isTrue = false → captured.pages = 0) ∧
      Dealing.AnswersPagers (h.session k).settings ds := by
  obtain ⟨ds, hrecorded, -⟩ := h.enters_capture time prompt k
  rw [hrun] at hrecorded
  refine ⟨ds, hrecorded, ?_⟩
  have hcapture := (h.recorded.runFrom_capture time prompt (k, [])).symm.trans (hrecorded [])
  obtain ⟨houtcome, hstate⟩ := Prod.mk.inj hcapture
  obtain ⟨q, hq, -, hsame⟩ := exists_of_outcome houtcome
  have hread : (h.recorded.reading time prompt (k, [])).runFrom (k, []) =
      (.ok (q, captured.promptMatched), (k', ds)) := Prod.ext hq hstate
  rw [reading_of_fits (fits_of_reading hread)] at hread
  rw [← hsame]
  rcases readOn_cases .start hread with
    ⟨q', harrives, hq'⟩ | ⟨ds₁, q', k₁, ds₂, harrives, hstops, rfl⟩
  · obtain ⟨rfl, -⟩ := Prod.mk.inj (Except.ok.inj hq')
    have hcapped := harrives.capped hbuffer hpages
    have hnone : (Dealing.pieces []).length ≤ 1 := Nat.zero_le 1
    have hdropped := length_dropLast_pieces_le ds hnone
    rw [List.append_nil, ← hcapped.total] at hdropped
    exact ⟨(Int.ofNat_le.2 hdropped).trans hcapped.total_le, hcapped.pages, hcapped.pages_le,
      hcapped.pages_eq_zero, hcapped.answers⟩
  · have hcapped := harrives.capped hbuffer hpages
    obtain ⟨hsends, hsame⟩ := hstops.sends_eq_zero
    have hdropped := length_dropLast_pieces_le ds₁ hstops.length_pieces_le
    rw [← hcapped.total] at hdropped
    rw [hsame]
    exact ⟨(Int.ofNat_le.2 hdropped).trans hcapped.total_le,
      by rw [Dealing.sends_append, hsends]; exact hcapped.pages, hcapped.pages_le,
      hcapped.pages_eq_zero, hcapped.answers.append (Dealing.answersPagers_of_sends hsends)⟩

end Host

/-! ## A pager without end -/

/-- A world with one child, a pager that shows another page as often as it is dismissed. -/
def World.endless : World (Stage Empty Empty Int) Int where
  system :=
    { clock := 0
      processes :=
        #[({ Script.plain "sh" with
              initial := [.text "--More--".toList]
              responses := [([' '], [.text "--More--".toList])] } : Script Empty Int).process]
      scripts := []
      journal := [] }
  seats := #[]
  roster := .empty
  isReaping := false

namespace Pool

/-- What a pool is set up with that dismisses so many pagers and reads some twenty characters. -/
def eager (few : Int) : PoolOptions :=
  { silent.options with
    settings :=
      { silent.options.settings with
        maxWait := .int 9, maxBuffer := .number (.int 20), maxPages := .number (.int few)
        autoDismiss := .bool true } }

/-- A session that dismisses so many pagers. -/
def paging (few : Int) : Host (World (Stage Empty Empty Int) Int) Int :=
  (onStage Empty.elim (eager few) fun _ w => w).host 0 0

set_option maxRecDepth 4000 in
/-- The pager is dismissed once, and left paused the second time. -/
theorem capture_caps_endless :
    ((paging 1).session .endless).settings.maxBuffer = .number (.int 20) ∧
      ((paging 1).session .endless).settings.maxPages = .number (.int 1) ∧
      ∃ captured w, ((paging 1).capture none none).runFrom .endless = (.ok captured, w) ∧
        captured.pages = 1 ∧
        ∃ ds, ((paging 1).recorded.capture none none).runFrom (.endless, []) =
            (.ok captured, (w, ds)) ∧
          ((Dealing.pieces ds).dropLast.flatten.length : Int) ≤ 20 ∧ Dealing.sends ds = 1 := by
  have hpages : (((paging 1).capture none none).runFrom .endless).1.map Captured.pages = .ok 1 := by
    cbv
  refine ⟨rfl, rfl, ?_⟩
  cases hrun : ((paging 1).capture none none).runFrom .endless with
  | mk result w =>
    rw [hrun] at hpages
    cases result with
    | error f => cases hpages
    | ok captured =>
      obtain hone : captured.pages = 1 := Except.ok.inj hpages
      obtain ⟨ds, hrecorded, hroom, hsends, -⟩ := Host.capture_caps rfl rfl hrun
      exact ⟨captured, w, rfl, hone, ds, hrecorded [], hroom, hsends.symm.trans hone⟩

end Pool

end Teletype
