import Mathlib
import Teletype.Proofs.LineEnds

/-!
# The shape of rendered text

A rendered text has a line for each line of the raw output, and `Text.IsShown` says what can stand
in one: no control character, and no space at its end. No line holds a line end of any kind, so the
lines can be read off the rendered text (`Screen.anyLines_of_render`). What follows is the shape of
normalized output (`Screen.normalize_shape`): its lines, and that there is nothing in it to
sanitize, so that clean output is the same with and without.
-/

namespace Teletype

namespace Text

/-! ## Lines -/

/-- There is a line more than there are line feeds. -/
theorem length_lines (t : Text) : t.lines.length = t.count '\n' + 1 := by
  induction t with
  | nil => rfl
  | cons c r ih =>
    rw [lines, List.splitOn_cons_eq_if_modifyHead, List.count_cons]
    split
    · exact congrArg Nat.succ ih
    · rw [List.length_modifyHead]
      exact ih

/-- What holds no line ends comes before the rest of the first line, character by character. -/
theorem anyLines_append {l : Text} (hfeed : '\n' ∉ l) (hreturn : '\r' ∉ l) (t : Text) :
    anyLines (l ++ t) = l.foldr consFirst (anyLines t) := by
  induction l with
  | nil => rfl
  | cons c l ih =>
    rw [List.mem_cons, not_or] at hfeed hreturn
    have hc : ¬(c = '\n' ∨ c = '\r') := fun h => h.elim (Ne.symm hfeed.1) (Ne.symm hreturn.1)
    have hpair : ∀ r, c = '\r' → l ++ t ≠ '\n' :: r := fun r h => absurd h (Ne.symm hreturn.1)
    rw [List.cons_append, anyLines, if_neg hc, ih hfeed.2 hreturn.2, List.foldr_cons]
    exact hpair

theorem foldr_consFirst (l m : Text) (ls : List Text) :
    l.foldr consFirst (m :: ls) = (l ++ m) :: ls := by
  induction l with
  | nil => rfl
  | cons c l ih => rw [List.foldr_cons, ih, consFirst, List.cons_append]

/-- **A line as a screen shows it**: no character below the space, no delete character, and no space
at its end. -/
structure IsShown (l : Text) : Prop where
  legible : ∀ c ∈ l, ' ' ≤ c ∧ c ≠ Control.delete
  trimmed : l.getLast? ≠ some ' '

/-- The last character that is left satisfies the condition no more. -/
theorem of_getLast?_dropEndWhile {p : Char → Bool} {t : Text} {c : Char}
    (h : (dropEndWhile p t).getLast? = some c) : p c = false := by
  rw [dropEndWhile, List.getLast?_reverse] at h
  have hhead := List.head?_dropWhile_not p t.reverse
  rw [h] at hhead
  simpa using hhead

end Text

namespace Screen

/-- What is left to see of a line ends in no space. -/
theorem isShown_of_renderLine {stops : TabStops} {t s : Text} (h : renderLine stops t = .ok s) :
    s.IsShown where
  legible := by
    intro c hc
    have hcontrol := isControl_of_renderLine h c hc
    rw [Control.isControl, decide_eq_false_iff_not, not_or, not_lt] at hcontrol
    exact hcontrol
  trimmed := by
    intro hlast
    obtain ⟨l, -, rfl⟩ := map_eq_ok_iff.1 h
    exact absurd (Text.of_getLast?_dropEndWhile hlast) (by decide)

theorem isShown_of_mapM {stops : TabStops} {ls rs : List Text}
    (h : ls.mapM (renderLine stops) = .ok rs) : ∀ r ∈ rs, r.IsShown := by
  intro r hr
  obtain ⟨l, -, hl⟩ := exists_of_mem_mapM h hr
  exact isShown_of_renderLine hl

/-- Lines without controls can be read off the text that they are joined to. -/
theorem anyLines_intercalate {ls : List Text} (hne : ls ≠ [])
    (h : ∀ l ∈ ls, ∀ c ∈ l, Control.isControl c = false) :
    Text.anyLines (lineEnd.intercalate ls) = ls := by
  induction ls with
  | nil => exact absurd rfl hne
  | cons l ls ih =>
    have hplain := h l List.mem_cons_self
    have hfeed : '\n' ∉ l := fun hc => absurd (hplain _ hc) (by decide)
    have hreturn : '\r' ∉ l := fun hc => absurd (hplain _ hc) (by decide)
    cases ls with
    | nil =>
      have hend : Text.anyLines [] = [[]] := rfl
      rw [List.intercalate_singleton, ← List.append_nil l, Text.anyLines_append hfeed hreturn, hend,
        Text.foldr_consFirst]
    | cons m ls =>
      have hrest := ih (List.cons_ne_nil m ls) fun l hl => h l (List.mem_cons_of_mem _ hl)
      have hend : ∀ t, Text.anyLines (lineEnd ++ t) = [] :: Text.anyLines t := fun t => rfl
      rw [List.intercalate_cons_cons, List.append_assoc, Text.anyLines_append hfeed hreturn, hend,
        hrest, Text.foldr_consFirst, List.append_nil]

/-- **The lines of a rendered text are the rendered lines of the text.** -/
theorem anyLines_of_render {stops : TabStops} {t r : Text} (h : render stops t = .ok r) :
    t.lines.mapM (renderLine stops) = .ok (Text.anyLines r) ∧
      r = lineEnd.intercalate (Text.anyLines r) := by
  obtain ⟨rs, hrs, rfl⟩ := exists_of_render h
  have hlength : rs.length = t.lines.length := (mapM_renderLine hrs).1
  have hne : rs ≠ [] := by
    rintro rfl
    rw [Text.length_lines] at hlength
    cases hlength
  rw [anyLines_intercalate hne (isControl_of_mapM hrs)]
  exact ⟨hrs, rfl⟩

/-- What is rendered can be sanitized or not: it makes no difference to clean output. -/
theorem clean_of_render {width : Int} {t r : Text} (h : normalize width t = .ok r)
    (sanitized unpaged : Bool) :
    Cleaning.clean ⟨width, sanitized, unpaged⟩ t =
      .ok (if unpaged then Pager.strip r else (r, false)) := by
  rw [Cleaning.clean, h, Except.map, sanitize_of_render (render_of_normalize h), ite_self]

/-- **The shape of normalized output.** It is its lines, joined by line ends; there is one line more
than there are line feeds in the raw output; and each line is as a screen shows it. So there is
nothing in it to sanitize, and clean output is the same whether it is sanitized or not. -/
theorem normalize_shape {width : Int} {t r : Text} (h : normalize width t = .ok r) :
    r = lineEnd.intercalate (Text.anyLines r) ∧
      (Text.anyLines r).length = t.count '\n' + 1 ∧
      (∀ l ∈ Text.anyLines r, l.IsShown) ∧
      sanitize r = r ∧
      ∀ unpaged, Cleaning.clean ⟨width, true, unpaged⟩ t =
        Cleaning.clean ⟨width, false, unpaged⟩ t := by
  have hrender := render_of_normalize h
  obtain ⟨hlines, hjoined⟩ := anyLines_of_render hrender
  refine ⟨hjoined, ?_, isShown_of_mapM hlines, sanitize_of_render hrender, fun unpaged => ?_⟩
  · rw [(mapM_renderLine hlines).1, Text.length_lines]
  · rw [clean_of_render h, clean_of_render h]

/-- A line that is written over, a bell, a tab, a deleted character, an escape that is cut off. -/
theorem normalize_shape_redrawn :
    normalize 4 "50%\r1\x07\tok  \nx\x7f\x1b[".toList = .ok "1   ok\r\nx".toList ∧
      Text.anyLines "1   ok\r\nx".toList = ["1   ok".toList, ['x']] ∧
      (∀ l ∈ Text.anyLines "1   ok\r\nx".toList, l.IsShown) := by
  have hrun : normalize 4 "50%\r1\x07\tok  \nx\x7f\x1b[".toList = .ok "1   ok\r\nx".toList := by cbv
  obtain ⟨-, -, hshown, -, -⟩ := normalize_shape hrun
  exact ⟨hrun, by cbv, hshown⟩

end Screen

end Teletype
