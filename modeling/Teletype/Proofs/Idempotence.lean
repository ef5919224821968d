import Mathlib
import Teletype.Proofs.Rendered
import Teletype.Proofs.Returns

/-!
# Rendering again

What was rendered once is not changed by rendering: its lines hold characters that are written as
they are, and no spaces at their ends to be taken away; and the returns of its line ends are met
where the lines end, so they are not seen. Tab stops play no part, for there are no tabs.

`Text.IsRendered` says what such a text is, line by line. Those texts are exactly the ones that
rendering leaves as they are (`Screen.render_eq_self_iff`), and all that rendering gives are among
them (`Screen.isRendered_of_render`).
-/

namespace Teletype

namespace Text

/-- A text of lines as a screen shows them, joined by line ends. -/
structure IsRendered (t : Text) : Prop where
  joined : t = Screen.lineEnd.intercalate (anyLines t)
  shown : ∀ l ∈ anyLines t, l.IsShown

theorem IsShown.isControl {l : Text} (h : l.IsShown) : ∀ c ∈ l, Control.isControl c = false := by
  intro c hc
  have hlegible := h.legible c hc
  rw [Control.isControl, decide_eq_false_iff_not, not_or, not_lt]
  exact hlegible

theorem IsShown.feed_not_mem {l : Text} (h : l.IsShown) : '\n' ∉ l :=
  fun hfeed => absurd (h.isControl _ hfeed) (by decide)

/-- There are no spaces to take away from the end of a shown line. -/
theorem IsShown.dropEndWhile_eq {l : Text} (h : l.IsShown) : dropEndWhile (· == ' ') l = l := by
  refine List.rdropWhile_eq_self_iff.2 fun hne hspace => h.trimmed ?_
  rw [List.getLast?_eq_some_getLast hne, beq_iff_eq.1 hspace]

/-- There is a line in it: joined of none it would be the empty text, which has one. -/
theorem IsRendered.anyLines_ne_nil {t : Text} (h : t.IsRendered) : anyLines t ≠ [] := by
  intro hnil
  have hempty : t = [] := by
    rw [h.joined, hnil]
    rfl
  rw [hempty] at hnil
  cases hnil

end Text

namespace Line

/-! ## Writing a line -/

/-- Characters that are no controls are written, one after the other. -/
theorem replay_eq_writeText (stops : TabStops) {t : Text}
    (h : ∀ c ∈ t, Control.isControl c = false) (l : Line) :
    l.replay stops t = .ok (l.writeText t) := by
  induction t generalizing l with
  | nil => exact replay_nil stops l
  | cons c t ih =>
    obtain ⟨hc, ht⟩ := List.forall_mem_cons.1 h
    have hescape : c ≠ Control.escape := by
      rintro rfl
      cases hc
    have hwrite : l.obey stops (.char c) = .ok (l.write c) := by
      rw [obey, if_neg (by rw [hc]; exact Bool.false_ne_true)]
    rw [replay_cons stops l hescape, hwrite]
    exact ih ht (l.write c)

/-- Where the cursor stands behind the last cell, writing adds cells. -/
theorem cells_writeText {l : Line} (hcursor : l.cursor = l.cells.size) (t : Text) :
    (l.writeText t).cells = l.cells ++ t.toArray := by
  induction t generalizing l with
  | nil => simp [writeText]
  | cons c t ih =>
    obtain ⟨cells, cursor, saved⟩ := l
    obtain rfl : cursor = cells.size := hcursor
    have hwrite : write ⟨cells, cells.size, saved⟩ c = ⟨cells.push c, cells.size + 1, saved⟩ := by
      simp [write, padTo]
    have hrest := @ih ⟨cells.push c, cells.size + 1, saved⟩ (by rw [Array.size_push])
    rw [writeText, List.foldl_cons, hwrite, ← writeText, hrest]
    simp

/-- What is written on an empty line is all that is on it. -/
theorem toText_writeText (t : Text) : (empty.writeText t).toText = t := by
  rw [toText, cells_writeText rfl]
  simp [empty]

end Line

namespace Screen

/-! ## Rendered texts -/

/-- A line as a screen shows it is rendered as it is. -/
theorem renderLine_of_isShown {stops : TabStops} {l : Text} (h : l.IsShown) :
    renderLine stops l = .ok l := by
  rw [renderLine, Line.replay_eq_writeText stops h.isControl, Except.map, Line.visible,
    Line.toText_writeText, h.dropEndWhile_eq]

/-- So are several of them, joined by line ends. -/
theorem render_intercalate (stops : TabStops) {ls : List Text} (hne : ls ≠ [])
    (h : ∀ l ∈ ls, l.IsShown) :
    render stops (lineEnd.intercalate ls) = .ok (lineEnd.intercalate ls) := by
  induction ls with
  | nil => exact absurd rfl hne
  | cons l ls ih =>
    obtain ⟨hl, hls⟩ := List.forall_mem_cons.1 h
    cases ls with
    | nil =>
      rw [List.intercalate_singleton, render_of_not_mem hl.feed_not_mem, renderLine_of_isShown hl]
    | cons m ls =>
      -- the text begins with the first line, and with the return that belongs to its end
      have hreturn : '\n' ∉ l ++ ['\r'] := by simp [hl.feed_not_mem]
      have hfirst : render stops (l ++ ['\r']) = .ok l := by
        rw [render_of_not_mem hreturn, renderLine_append_return, renderLine_of_isShown hl]
      have hrest := ih (List.cons_ne_nil m ls) hls
      rw [intercalate_lineEnd_cons, render_feed, hfirst, hrest, ← intercalate_lineEnd_cons]
      exact congrArg Except.ok (List.intercalate_cons_cons ..).symm

/-- **All that is rendered is a rendered text.** -/
theorem isRendered_of_render {stops : TabStops} {t r : Text} (h : render stops t = .ok r) :
    r.IsRendered := by
  obtain ⟨hlines, hjoined⟩ := anyLines_of_render h
  exact ⟨hjoined, isShown_of_mapM hlines⟩

/-- **The rendered texts are those that rendering leaves as they are.** -/
theorem render_eq_self_iff {stops : TabStops} {r : Text} :
    render stops r = .ok r ↔ r.IsRendered := by
  constructor
  · exact isRendered_of_render
  · intro h
    have hsame := render_intercalate stops h.anyLines_ne_nil h.shown
    rwa [← h.joined] at hsame

/-- **What was normalized once stays as it is**, with tab stops as far apart as before or not: to
normalize it again gives it back, for every distance of tab stops that there can be. -/
theorem normalize_normalized {width : Int} {t r : Text} (h : normalize width t = .ok r)
    (width' : Int) : normalize width' r = .ok r ↔ 1 ≤ width' := by
  have hrendered : r.IsRendered := isRendered_of_render (render_of_normalize h)
  rw [normalize, TabStops.every?]
  constructor
  · intro hagain
    by_contra hwidth
    rw [if_pos (by omega)] at hagain
    cases hagain
  · intro hwidth
    rw [if_neg (by omega)]
    exact render_eq_self_iff.2 hrendered

/-- A line that is drawn over, a tab, an empty line and a sequence that is cut off. -/
theorem normalize_normalized_redrawn :
    normalize 4 "50%\r1\tok  \n\nx\x1b[".toList = .ok "1   ok\r\n\r\nx".toList ∧
      normalize 8 "1   ok\r\n\r\nx".toList = .ok "1   ok\r\n\r\nx".toList := by
  have hrun : normalize 4 "50%\r1\tok  \n\nx\x1b[".toList = .ok "1   ok\r\n\r\nx".toList := by cbv
  exact ⟨hrun, (normalize_normalized hrun 8).2 (by decide)⟩

end Screen

end Teletype
