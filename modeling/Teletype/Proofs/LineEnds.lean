import Mathlib
import Teletype.Cleaning
import Teletype.Proofs.Matching
import Teletype.Proofs.Shape

/-!
# Line ends of clean output

A rendered text has a carriage return before each line feed, and no other returns. Sanitizing leaves
it as it is (`sanitize_of_render`), but the removal of pager prompts may not: the pattern of a prompt
takes a return with it that stands behind the prompt, and when the prompt is the last of its line,
that is the return of the line end.

`Text.Paired` says of a text that its returns and feeds come in pairs, given whether a return stands
before it. Of a text in pairs from which pieces are cut that hold no feed, what is kept is in pairs
exactly if the pieces hold no return either (`paired_keptText_iff`). No return is ever left without
its feed.
-/

namespace Teletype

namespace Text

/-! ## Returns and feeds in pairs -/

/-- **Each line feed stands behind a carriage return, and each return before a feed.** `after` says
whether a return stands before the text. -/
def Paired : (after : Bool) → Text → Prop
  | after, [] => after = false
  | after, c :: r => (c = '\n' ↔ after = true) ∧ Paired (c == '\r') r

/-- Each line feed stands behind a carriage return. -/
def FeedsFollow (t : Text) : Prop :=
  ∀ a b, t = a ++ '\n' :: b → a.getLast? = some '\r'

/-- Each carriage return stands before a line feed. -/
def ReturnsLead (t : Text) : Prop :=
  ∀ a b, t = a ++ '\r' :: b → b.head? = some '\n'

theorem returnsLead_cons {c : Char} {r : Text} :
    ReturnsLead (c :: r) ↔ (c = '\r' → r.head? = some '\n') ∧ ReturnsLead r := by
  constructor
  · intro h
    refine ⟨fun hc => h [] r (by rw [hc]; rfl), fun a b hr => h (c :: a) b (by rw [hr]; rfl)⟩
  · rintro ⟨hc, hr⟩ a b h
    cases a with
    | nil =>
      obtain ⟨rfl, rfl⟩ := List.cons.inj h
      exact hc rfl
    | cons d a =>
      obtain ⟨-, rfl⟩ := List.cons.inj h
      exact hr a b rfl

/-- A text in pairs, by its feeds and its returns. -/
theorem paired_iff {after : Bool} {t : Text} :
    Paired after t ↔
      (∀ a b, t = a ++ '\n' :: b → a.getLast?.or (if after then some '\r' else none) = some '\r') ∧
        ReturnsLead t ∧ (after = true → t.head? = some '\n') := by
  induction t generalizing after with
  | nil =>
    cases after with
    | false =>
      refine iff_of_true rfl ⟨fun a b h => ?_, fun a b h => ?_, fun h => by cases h⟩
      all_goals cases a <;> cases h
    | true => exact iff_of_false (by rintro ⟨⟩) fun h => by cases h.2.2 rfl
  | cons c r ih =>
    rw [Paired, ih, returnsLead_cons]
    have hor : ∀ a : Text, (a.getLast?.or (if (c == '\r') = true then some '\r' else none) =
        some '\r' ↔ (c :: a).getLast?.or (if after then some '\r' else none) = some '\r') := by
      intro a
      cases a with
      | nil => by_cases hc : c = '\r' <;> simp [hc]
      | cons d a => simp [List.getLast?_cons]
    constructor
    · rintro ⟨hfeed, hrest, hreturns, hreturn⟩
      refine ⟨fun a b h => ?_, ⟨fun hc => hreturn (by rw [hc]; rfl), hreturns⟩, fun h => ?_⟩
      · cases a with
        | nil =>
          obtain ⟨rfl, rfl⟩ := List.cons.inj h
          rw [if_pos (hfeed.1 rfl)]
          rfl
        | cons d a =>
          obtain ⟨rfl, rfl⟩ := List.cons.inj h
          exact (hor a).1 (hrest a b rfl)
      · rw [hfeed.2 h]
        rfl
    · rintro ⟨hfeeds, ⟨hreturn, hreturns⟩, hhead⟩
      refine ⟨⟨fun hc => ?_, fun h => Option.some.inj (hhead h)⟩, fun a b h => ?_, hreturns,
        fun h => hreturn (beq_iff_eq.1 h)⟩
      · have := hfeeds [] r (by rw [hc]; rfl)
        by_contra hafter
        rw [if_neg hafter] at this
        cases this
      · exact (hor a).2 (hfeeds (c :: a) b (by rw [h]; rfl))

theorem paired_false_iff {t : Text} : Paired false t ↔ FeedsFollow t ∧ ReturnsLead t := by
  rw [paired_iff]
  constructor
  · rintro ⟨hfeeds, hreturns, -⟩
    exact ⟨fun a b h => by simpa using hfeeds a b h, hreturns⟩
  · rintro ⟨hfeeds, hreturns⟩
    exact ⟨fun a b h => by simpa using hfeeds a b h, hreturns, by rintro ⟨⟩⟩

/-- What holds neither returns nor feeds may stand before a text in pairs. -/
theorem paired_append_of_plain {l t : Text} (hfeed : '\n' ∉ l) (hreturn : '\r' ∉ l) :
    Paired false (l ++ t) ↔ Paired false t := by
  induction l with
  | nil => exact Iff.rfl
  | cons c l ih =>
    have hc : c ≠ '\n' := fun h => hfeed (h ▸ List.mem_cons_self)
    have hc' : (c == '\r') = false :=
      beq_eq_false_iff_ne.2 fun h => hreturn (h ▸ List.mem_cons_self)
    rw [List.cons_append, Paired, hc', ih (fun h => hfeed (List.mem_cons_of_mem c h)) fun h =>
      hreturn (List.mem_cons_of_mem c h), and_iff_right]
    exact iff_of_false hc Bool.false_ne_true

end Text

/-! ## What is kept when pieces are cut out -/

namespace Pattern

/-- Pieces of which none that is cut holds a line feed, or nothing. -/
def HoldsFeeds (ps : List Piece) : Prop :=
  ∀ m, .cut m ∈ ps → m ≠ [] ∧ '\n' ∉ m

variable {ps : List Piece}

/-- A line feed at the front is kept. -/
theorem head?_keptText (hps : HoldsFeeds ps) (h : (ps.flatMap Piece.text).head? = some '\n') :
    (keptText ps).head? = some '\n' := by
  cases ps with
  | nil => exact h
  | cons piece ps =>
    cases piece with
    | kept c => exact h
    | cut m =>
      obtain ⟨hne, hfeed⟩ := hps m List.mem_cons_self
      obtain ⟨c, m, rfl⟩ := List.exists_cons_of_ne_nil hne
      obtain rfl : c = '\n' := Option.some.inj h
      exact absurd List.mem_cons_self hfeed

/-- **No return is left without its feed.** -/
theorem returnsLead_keptText (hps : HoldsFeeds ps)
    (h : Text.ReturnsLead (ps.flatMap Piece.text)) : Text.ReturnsLead (keptText ps) := by
  induction ps with
  | nil => exact h
  | cons piece ps ih =>
    have hrest : HoldsFeeds ps := fun m hm => hps m (List.mem_cons_of_mem _ hm)
    rw [List.flatMap_cons] at h
    cases piece with
    | kept c =>
      obtain ⟨hc, h⟩ := Text.returnsLead_cons.1 h
      exact Text.returnsLead_cons.2 ⟨fun hreturn => head?_keptText hrest (hc hreturn), ih hrest h⟩
    | cut m =>
      refine ih hrest fun a b hab => h (m ++ a) b ?_
      rw [Piece.text, hab, List.append_assoc]

/-- **What is kept of a text in pairs is in pairs exactly if no return is cut out.** -/
theorem paired_keptText_iff {after : Bool} (hps : HoldsFeeds ps)
    (h : Text.Paired after (ps.flatMap Piece.text)) :
    Text.Paired after (keptText ps) ↔ ∀ m, .cut m ∈ ps → '\r' ∉ m := by
  induction ps generalizing after with
  | nil => exact iff_of_true h fun m hm => absurd hm List.not_mem_nil
  | cons piece ps ih =>
    have hrest : HoldsFeeds ps := fun m hm => hps m (List.mem_cons_of_mem _ hm)
    rw [List.flatMap_cons] at h
    cases piece with
    | kept c =>
      obtain ⟨hc, h⟩ := h
      rw [keptText, Text.Paired, and_iff_right hc, ih hrest h]
      refine forall_congr' fun m => ?_
      rw [List.mem_cons, or_iff_right (by rintro ⟨⟩)]
    | cut m =>
      obtain ⟨hne, hfeed⟩ := hps m List.mem_cons_self
      rw [Piece.text] at h
      -- a piece holds no feed, so no return stands before it
      have hafter : after = false := by
        obtain ⟨c, m, rfl⟩ := List.exists_cons_of_ne_nil hne
        have hc : c ≠ '\n' := fun hc => hfeed (hc ▸ List.mem_cons_self)
        rw [← Bool.not_eq_true]
        exact fun htrue => hc (h.1.2 htrue)
      subst hafter
      by_cases hreturn : '\r' ∈ m
      · -- the return is the last of the piece, and its feed is kept
        refine iff_of_false (fun hkept => ?_) fun hall => hall m List.mem_cons_self hreturn
        obtain ⟨a, b, rfl⟩ := List.append_of_mem hreturn
        have hhead := (Text.paired_false_iff.1 h).2 a (b ++ ps.flatMap Piece.text) (by simp)
        obtain rfl : b = [] := by
          cases b with
          | nil => rfl
          | cons c b =>
            obtain rfl : c = '\n' := Option.some.inj hhead
            exact absurd (by simp) hfeed
        have hfirst := head?_keptText hrest hhead
        rw [keptText] at hkept
        cases hk : keptText ps with
        | nil => rw [hk] at hfirst; cases hfirst
        | cons c r =>
          rw [hk] at hfirst hkept
          obtain rfl : c = '\n' := Option.some.inj hfirst
          exact absurd (hkept.1.1 rfl) Bool.false_ne_true
      · rw [Text.paired_append_of_plain hfeed hreturn] at h
        rw [keptText, ih hrest h]
        constructor
        · intro hall n hn
          rcases List.mem_cons.1 hn with hn | hn
          · cases hn
            exact hreturn
          · exact hall n hn
        · exact fun hall n hn => hall n (List.mem_cons_of_mem _ hn)

end Pattern

/-! ## Rendered texts -/

namespace Screen

/-- Lines that are joined make a text in pairs. -/
theorem paired_intercalate {ls : List Text} (h : ∀ l ∈ ls, ∀ c ∈ l, Control.isControl c = false) :
    Text.Paired false (lineEnd.intercalate ls) := by
  have hplain : ∀ l ∈ ls, '\n' ∉ l ∧ '\r' ∉ l := fun l hl =>
    ⟨fun hc => absurd (h l hl _ hc) (by decide), fun hc => absurd (h l hl _ hc) (by decide)⟩
  induction ls with
  | nil => rfl
  | cons l ls ih =>
    obtain ⟨hfeed, hreturn⟩ := hplain l List.mem_cons_self
    cases ls with
    | nil =>
      rw [List.intercalate_singleton, ← List.append_nil l,
        Text.paired_append_of_plain hfeed hreturn]
      rfl
    | cons m ls =>
      rw [List.intercalate_cons_cons, List.append_assoc,
        Text.paired_append_of_plain hfeed hreturn]
      refine ⟨by decide, by decide, ?_⟩
      exact ih (fun l hl => h l (List.mem_cons_of_mem _ hl)) fun l hl =>
        hplain l (List.mem_cons_of_mem _ hl)

theorem paired_of_render {stops : TabStops} {t r : Text} (h : render stops t = .ok r) :
    Text.Paired false r := by
  obtain ⟨rs, hrs, rfl⟩ := exists_of_render h
  exact paired_intercalate (isControl_of_mapM hrs)

/-- **There is nothing to sanitize in a rendered text.** -/
theorem sanitize_of_render {stops : TabStops} {t r : Text} (h : render stops t = .ok r) :
    sanitize r = r := by
  refine List.filter_eq_self.2 fun c hc => ?_
  have hkept : isNoise c = false := by
    rcases isControl_of_render h c hc with hcontrol | rfl | rfl
    · rw [Control.isControl, decide_eq_false_iff_not, not_or] at hcontrol
      rw [isNoise, decide_eq_false_iff_not]
      exact fun hnoise => hcontrol.1 hnoise.1
    · rfl
    · rfl
  rw [hkept]
  rfl

end Screen

/-! ## Clean output -/

namespace Cleaning

/-- The prompts that are removed hold no line feed. -/
theorem holdsFeeds_morePrompt (t : Text) :
    Pattern.HoldsFeeds (Pager.morePrompt.pieces none t) := by
  intro m hm
  obtain ⟨hne, behind, rest, htakes⟩ := Pattern.takes_of_cut_mem_pieces hm
  refine ⟨hne, fun hfeed => ?_⟩
  have hadmits : Pager.morePrompt.admits '\n' = false := by decide
  exact absurd (Pattern.admits_of_takes htakes _ hfeed) (by rw [hadmits]; simp)

/-- What clean output is made of: the rendered text, less its prompts where they are removed. -/
theorem exists_of_clean {w : Cleaning} {t r : Text} {paged : Bool}
    (h : w.clean t = .ok (r, paged)) :
    ∃ s, Screen.normalize w.tabWidth t = .ok s ∧ Text.Paired false s ∧
      r = if w.unpaged then Pattern.keptText (Pager.morePrompt.pieces none s) else s := by
  obtain ⟨s, hs, hr⟩ := map_eq_ok_iff.1 h
  have hrender := Screen.render_of_normalize hs
  refine ⟨s, hs, Screen.paired_of_render hrender, ?_⟩
  have hsafe : (if w.sanitized then sanitize s else s) = s := by
    rw [Screen.sanitize_of_render hrender, ite_self]
  simp only [hsafe] at hr
  cases hpaged : w.unpaged with
  | true =>
    rw [hpaged, if_pos rfl] at hr
    cases hr
    rfl
  | false =>
    rw [hpaged, if_neg Bool.false_ne_true] at hr
    cases hr
    rfl

/-- **When clean output has its line ends.** Whatever is asked for, each return in it leads a line
feed. Each line feed follows a return exactly if no prompt that is removed takes a return with it:
always where prompts are kept, and otherwise as long as none is removed from the end of a line that
is not the last. -/
theorem clean_lineEnds (w : Cleaning) (t r : Text) (paged : Bool)
    (h : w.clean t = .ok (r, paged)) :
    Text.ReturnsLead r ∧ ∃ s, Screen.normalize w.tabWidth t = .ok s ∧
      (Text.FeedsFollow r ↔
        (w.unpaged = true → ∀ m, .cut m ∈ Pager.morePrompt.pieces none s → '\r' ∉ m)) := by
  obtain ⟨s, hs, hpaired, hr⟩ := exists_of_clean h
  cases hpaged : w.unpaged with
  | false =>
    rw [hpaged, if_neg Bool.false_ne_true] at hr
    subst hr
    obtain ⟨hfeeds, hreturns⟩ := Text.paired_false_iff.1 hpaired
    exact ⟨hreturns, r, hs, iff_of_true hfeeds (by rintro ⟨⟩)⟩
  | true =>
    rw [hpaged, if_pos rfl] at hr
    have hholds := holdsFeeds_morePrompt s
    have hpieces := Pattern.flatMap_text_pieces Pager.morePrompt none s
    rw [← hpieces] at hpaired
    have hreturns : Text.ReturnsLead r := by
      rw [hr]
      exact Pattern.returnsLead_keptText hholds (Text.paired_false_iff.1 hpaired).2
    refine ⟨hreturns, s, hs, ?_⟩
    have hkept := Pattern.paired_keptText_iff hholds hpaired
    rw [← hr, Text.paired_false_iff, and_iff_left hreturns] at hkept
    rw [hkept]
    exact ⟨fun hall _ => hall, fun hall => hall rfl⟩

/-- A prompt in front of a line, as a pager leaves it. -/
theorem clean_lineEnds_inside :
    Cleaning.clean {} ['a', '\n', '-', '-', 'M', 'o', 'r', 'e', '-', '-', 'b', '\n', 'c'] =
        .ok (['a', '\r', '\n', 'b', '\r', '\n', 'c'], true) ∧
      Text.ReturnsLead ['a', '\r', '\n', 'b', '\r', '\n', 'c'] ∧
      Text.FeedsFollow ['a', '\r', '\n', 'b', '\r', '\n', 'c'] := by
  have hclean : Cleaning.clean {}
      ['a', '\n', '-', '-', 'M', 'o', 'r', 'e', '-', '-', 'b', '\n', 'c'] =
        .ok (['a', '\r', '\n', 'b', '\r', '\n', 'c'], true) := by cbv
  have hrendered : Screen.normalize 8
      ['a', '\n', '-', '-', 'M', 'o', 'r', 'e', '-', '-', 'b', '\n', 'c'] =
        .ok ['a', '\r', '\n', '-', '-', 'M', 'o', 'r', 'e', '-', '-', 'b', '\r', '\n', 'c'] := by
    cbv
  obtain ⟨hreturns, s, hs, hfeeds⟩ := clean_lineEnds _ _ _ _ hclean
  obtain rfl := Except.ok.inj (hrendered.symm.trans hs)
  refine ⟨hclean, hreturns, hfeeds.2 fun _ m hm => ?_⟩
  have hpieces : Pager.morePrompt.pieces none
      ['a', '\r', '\n', '-', '-', 'M', 'o', 'r', 'e', '-', '-', 'b', '\r', '\n', 'c'] =
        [.kept 'a', .kept '\r', .kept '\n', .cut ['-', '-', 'M', 'o', 'r', 'e', '-', '-'],
          .kept 'b', .kept '\r', .kept '\n', .kept 'c'] := by cbv
  rw [hpieces] at hm
  obtain rfl : m = ['-', '-', 'M', 'o', 'r', 'e', '-', '-'] := by simpa using hm
  decide

/-- **A prompt at the end of a line takes the return of the line end with it.** -/
theorem clean_promptLine :
    Cleaning.clean {} ['-', '-', 'M', 'o', 'r', 'e', '-', '-', '\n', 'b'] =
        .ok (['\n', 'b'], true) ∧
      ¬Text.FeedsFollow ['\n', 'b'] := by
  refine ⟨by cbv, fun h => ?_⟩
  have := h [] ['b'] rfl
  cases this

end Cleaning

end Teletype
