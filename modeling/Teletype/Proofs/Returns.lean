import Mathlib
import Teletype.Proofs.LineByLine
import Teletype.Proofs.Extent

/-!
# Carriage returns before line feeds

A program writes its line ends with a carriage return or without one. With one, the replay of a line
meets the return at the end of it, in whatever state the line has left the replay. A sequence that
has its final character is over, and the return homes a cursor that nothing uses any more. A
sequence that lacks it is interrupted where the end of the line would have cut it off, and takes the
same characters. Only a control string that nothing ends takes the return itself, and has no effect
with it or without (`Escape.Reads.append_return`).

So a return at the end of a line is never seen (`Screen.renderLine_append_return`), and the two ways
to end lines are rendered alike (`Screen.normalize_withReturns`).
-/

namespace Teletype

namespace Text

/-- A text with a carriage return before each line feed, be there one already or not. -/
def withReturns (t : Text) : Text :=
  t.flatMap fun c => if c = '\n' then Screen.lineEnd else [c]

theorem withReturns_of_not_mem {l : Text} (hl : '\n' ∉ l) : withReturns l = l := by
  induction l with
  | nil => rfl
  | cons c l ih =>
    rw [List.mem_cons, not_or] at hl
    rw [withReturns, List.flatMap_cons, if_neg (Ne.symm hl.1), ← withReturns, ih hl.2]
    rfl

/-- The first line gets a return at its end, and so do the others. -/
theorem withReturns_feed {l : Text} (hl : '\n' ∉ l) (t : Text) :
    withReturns (l ++ '\n' :: t) = (l ++ ['\r']) ++ '\n' :: withReturns t := by
  rw [withReturns, List.flatMap_append, List.flatMap_cons, if_pos rfl, ← withReturns,
    ← withReturns, withReturns_of_not_mem hl, Screen.lineEnd]
  simp

end Text

/-! ## A return behind a sequence -/

namespace Escape

namespace Reads

variable {s rest : Text} {e : Escape}

/-- **A return at the end of a text** changes nothing in what a sequence takes, unless it is a
control string that nothing ends. Such a string takes the return too. -/
theorem append_return (h : Reads s rest e) :
    Reads s (rest ++ ['\r']) e ∨
      rest = [] ∧ e.command = none ∧ ∃ e', Reads (s ++ ['\r']) [] e' ∧ e'.command = none := by
  rcases h.ends with ⟨-, hany⟩ | ⟨hopen, rfl, hstop⟩ | ⟨rfl, i, p, rfl, hi, hun, rfl⟩
  · exact .inl (hany _)
  · refine .inl (.broken hopen fun c hc => ?_)
    cases rest with
    | nil =>
      -- the return does not go on with an open sequence: it is no graphic character
      obtain rfl : '\r' = c := Option.some.inj hc
      rfl
    | cons d rest => exact hstop c hc
  · have hspan : stringSpan ((p ++ ['\r']) ++ []) = ((p ++ ['\r']).length, none) := by
      rw [List.append_nil, stringSpan_append hun (by simp), List.length_append]
      rfl
    exact .inr ⟨rfl, rfl, _, .string hi hspan, rfl⟩

end Reads

/-- What cannot be read cannot be read with a text behind it either. -/
theorem Illegible.append {t : Text} {x : Overlong} (h : Illegible t x) (after : Text) :
    Illegible (t ++ after) x := by
  obtain ⟨ps, is, rest, c, rfl, hps, his, hc, hpriv, hx⟩ := h
  exact ⟨ps, is, rest ++ after, c, by simp, hps, his, hc, hpriv, hx⟩

end Escape

/-! ## A return at the end of a line -/

namespace Line

/-- **Where a line stands when a return is met at its end does not matter.** -/
theorem visible_replay_append_return (stops : TabStops) (t : Text) (l : Line) :
    (l.replay stops (t ++ ['\r'])).map visible = (l.replay stops t).map visible := by
  induction t using Token.scan_induction generalizing l with
  | nil =>
    have hreturn : l.replay stops ['\r'] = .ok (l.moveTo 0) := by
      rw [replay_cons stops l (by decide)]
      exact replay_nil stops (l.moveTo 0)
    rw [List.nil_append, hreturn, replay_nil]
    rfl
  | char c r hc ih =>
    rw [List.cons_append, replay_cons stops l hc, replay_cons stops l hc]
    cases l.obey stops (.char c) with
    | error f => rfl
    | ok l' => exact ih l'
  | sequence s rest e hr ih =>
    rw [List.cons_append, List.append_assoc, replay_of_reads stops l hr]
    rcases hr.append_return with hr' | ⟨rfl, he, e', hr', he'⟩
    · rw [replay_of_reads stops l hr']
      exact ih (e.apply l)
    · -- the string takes the return, and neither string does anything
      have happly : e.apply l = l := by rw [Escape.apply, he]
      have happly' : e'.apply l = l := by rw [Escape.apply, he']
      rw [List.nil_append, ← List.append_nil (s ++ ['\r']), replay_of_reads stops l hr', happly,
        happly']
  | unreadable r x hx =>
    have hx' : Escape.parse (r ++ ['\r']) = .error x :=
      Escape.parse_eq_error_iff.2 ((Escape.parse_eq_error_iff.1 hx).append _)
    rw [List.cons_append, replay_of_error stops l hx, replay_of_error stops l hx']

end Line

namespace Screen

/-- A return at the end of a line is not seen. -/
theorem renderLine_append_return (stops : TabStops) (s : Text) :
    renderLine stops (s ++ ['\r']) = renderLine stops s :=
  Line.empty.visible_replay_append_return stops s

/-- Nor are returns before line feeds. -/
theorem render_withReturns (stops : TabStops) (t : Text) :
    render stops t.withReturns = render stops t := by
  induction t using Text.lines_induction with
  | line l hl => rw [Text.withReturns_of_not_mem hl]
  | feed l t hl ih =>
    have hreturn : '\n' ∉ l ++ ['\r'] := by simp [hl]
    rw [Text.withReturns_feed hl, render_feed, render_feed, ih, render_of_not_mem hreturn,
      render_of_not_mem hl, renderLine_append_return]

/-- **Both ways to end lines are rendered alike.** With a carriage return before each of its line
feeds a text is rendered as it is without, faults included; and a single line is rendered as it is
with a return behind it, whatever it leaves open at its end. -/
theorem normalize_withReturns (width : Int) (t : Text) :
    normalize width t.withReturns = normalize width t ∧
      ∀ stops, renderLine stops (t ++ ['\r']) = renderLine stops t := by
  refine ⟨?_, fun stops => renderLine_append_return stops t⟩
  rw [normalize, normalize]
  cases TabStops.every? width with
  | error f => rfl
  | ok stops => exact render_withReturns stops t

/-- A line feed inside a string that nothing ends: the return in front of it is part of the string
and the line ends all the same. -/
example : normalize 8 (Text.withReturns "a\x1b]0;title\nb".toList) = .ok "a\r\nb".toList := by cbv

end Screen

end Teletype
