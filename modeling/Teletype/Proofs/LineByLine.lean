import Mathlib
import Teletype.Proofs.Cutting
import Teletype.Proofs.Rendered

/-!
# Line by line

Whatever a line of raw output leaves behind, an open sequence, a string that nothing ends, a
remembered cursor, is gone with its line feed: the next line is replayed on a fresh line. So the
texts on the two sides of a line feed are rendered each by itself (`Screen.render_feed`), and a
statement about texts is proved line by line (`Text.lines_induction`).

A session renders the output that it has taken in again and again, and only ever adds to the end of
it (`Host.Reads.output_prefix`). What it has shown up to a line feed therefore stays as it is in all
that it shows later (`Screen.normalize_append_feed`).
-/

namespace Teletype

namespace Text

/-! ## Lines around a line feed -/

/-- There is always a line. -/
theorem lines_ne_nil (t : Text) : t.lines ≠ [] :=
  List.splitOn_ne_nil '\n' t

/-- A line feed parts the lines of what stands on either side of it. -/
theorem lines_feed (a b : Text) : lines (a ++ '\n' :: b) = a.lines ++ b.lines :=
  List.splitOn_append_cons_self a b

/-- **Induction along the lines of a text.** -/
theorem lines_induction {P : Text → Prop} (line : ∀ l, '\n' ∉ l → P l)
    (feed : ∀ l t, '\n' ∉ l → P t → P (l ++ '\n' :: t)) : ∀ t, P t := by
  intro t
  induction hn : t.length using Nat.strong_induction_on generalizing t with
  | _ n ih =>
    by_cases h : '\n' ∈ t
    · obtain ⟨l, u, rfl, hl⟩ := List.eq_append_cons_of_mem h
      refine feed l u hl (ih u.length ?_ u rfl)
      rw [← hn, List.length_append, List.length_cons]
      omega
    · exact line t h

/-- What is joined of two rows is joined of the first and of the second. -/
theorem intercalate_append {sep : Text} {xs ys : List Text} (hxs : xs ≠ []) (hys : ys ≠ []) :
    sep.intercalate (xs ++ ys) = sep.intercalate xs ++ sep ++ sep.intercalate ys := by
  induction xs with
  | nil => exact absurd rfl hxs
  | cons x xs ih =>
    cases xs with
    | nil =>
      rw [List.singleton_append, List.intercalate_cons_of_ne_nil hys, List.intercalate_singleton]
    | cons x' xs =>
      rw [List.cons_append, List.cons_append, List.intercalate_cons_cons, ← List.cons_append,
        ih (List.cons_ne_nil x' xs), List.intercalate_cons_cons]
      simp only [List.append_assoc]

/-- **What is made of each line and joined again** is made of the texts on the two sides of a line
feed, each by itself. The first fault is that of the first text, if it has one. -/
theorem mapM_lines_feed {ε : Type} (f : Text → Except ε Text) (sep a b : Text) :
    ((a ++ '\n' :: b).lines.mapM f).map sep.intercalate = (do
      let above ← (a.lines.mapM f).map sep.intercalate
      let below ← (b.lines.mapM f).map sep.intercalate
      return above ++ sep ++ below) := by
  have hne : ∀ {t : Text} {rs : List Text}, t.lines.mapM f = .ok rs → rs ≠ [] := by
    intro t rs hrs
    obtain ⟨l, ls, hl⟩ := List.exists_cons_of_ne_nil t.lines_ne_nil
    rw [hl] at hrs
    obtain ⟨r, -, ss, -, rfl⟩ := exists_of_mapM_cons hrs
    exact List.cons_ne_nil r ss
  rw [lines_feed, List.mapM_append]
  cases ha : a.lines.mapM f with
  | error x => rfl
  | ok rs =>
    cases hb : b.lines.mapM f with
    | error x => rfl
    | ok ss => exact congrArg Except.ok (intercalate_append (hne ha) (hne hb))

/-- So where it is made of a text, it is made of either side of a line feed in it. -/
theorem exists_of_mapM_lines_feed {ε : Type} {f : Text → Except ε Text} {sep a b r : Text}
    (h : ((a ++ '\n' :: b).lines.mapM f).map sep.intercalate = .ok r) :
    ∃ above below, (a.lines.mapM f).map sep.intercalate = .ok above ∧
      (b.lines.mapM f).map sep.intercalate = .ok below ∧ r = above ++ sep ++ below := by
  rw [mapM_lines_feed] at h
  cases ha : (a.lines.mapM f).map sep.intercalate with
  | error x => rw [ha] at h; cases h
  | ok above =>
    cases hb : (b.lines.mapM f).map sep.intercalate with
    | error x => rw [ha, hb] at h; cases h
    | ok below =>
      rw [ha, hb] at h
      cases h
      exact ⟨above, below, rfl, rfl, rfl⟩

/-- Of a text without a line feed it is made of one line. -/
theorem mapM_lines_of_not_mem {ε : Type} (f : Text → Except ε Text) (sep : Text) {t : Text}
    (h : '\n' ∉ t) : (t.lines.mapM f).map sep.intercalate = f t := by
  rw [lines, List.splitOn_eq_singleton h, List.mapM_cons, List.mapM_nil]
  cases f t with
  | error x => rfl
  | ok r => exact congrArg Except.ok List.intercalate_singleton

end Text

namespace Screen

/-- **A line feed parts what is rendered.** -/
theorem render_feed (stops : TabStops) (a b : Text) :
    render stops (a ++ '\n' :: b) = (do
      let above ← render stops a
      let below ← render stops b
      return above ++ lineEnd ++ below) :=
  Text.mapM_lines_feed (renderLine stops) lineEnd a b

/-- Where there is no line feed there is one line to render. -/
theorem render_of_not_mem {stops : TabStops} {t : Text} (h : '\n' ∉ t) :
    render stops t = renderLine stops t :=
  Text.mapM_lines_of_not_mem (renderLine stops) lineEnd h

/-- What is rendered up to a line feed stands in front of what is rendered of any text that goes on
behind it. -/
theorem prefix_of_render_feed {stops : TabStops} {a b r : Text}
    (h : render stops (a ++ '\n' :: b) = .ok r) :
    ∃ above, render stops a = .ok above ∧ above ++ lineEnd <+: r := by
  obtain ⟨above, below, habove, -, rfl⟩ := Text.exists_of_mapM_lines_feed h
  exact ⟨above, habove, List.prefix_append _ below⟩

end Screen

/-! ## Output that is taken in piece by piece -/

namespace Progress

/-- The output that was taken in so far, as it is rendered. -/
def output (p : Progress) : Text :=
  p.cleaned.reverse.flatten

theorem rendered_eq (c : Settings) (p : Progress) :
    p.rendered c = Screen.render (TabStops.ofNumber c.tabSize) p.output := rfl

/-- A piece that is taken in is put at the end. -/
theorem output_prefix_absorb (c : Settings) (p : Progress) (piece : Text) :
    p.output <+: (p.absorb c piece).1.output := by
  have hcleaned : ∃ t, (p.absorb c piece).1.cleaned = t :: p.cleaned := ⟨_, rfl⟩
  obtain ⟨t, ht⟩ := hcleaned
  rw [output, output, ht, List.reverse_cons, List.flatten_append]
  exact List.prefix_append _ _

end Progress

namespace Host

variable {κ τ : Type} {h : Host κ τ} {c : Settings} {prompt : Option PromptPattern} {idle : τ}
  {p q : Progress} {matched : Bool} {k k' : κ}

/-- **A read only adds to the output**, at its end. -/
theorem Reads.output_prefix (hreads : h.Reads c prompt idle p k q matched k') :
    p.output <+: q.output := by
  induction hreads with
  | late | silent _ => exact List.prefix_refl _
  | empty _ _ _ ih => exact ih
  | paused _ _ _ | shown _ _ _ _ | full _ _ _ _ => exact Progress.output_prefix_absorb c _ _
  -- the key that dismisses a pager is no output
  | dismissed _ _ _ _ _ ih => exact (Progress.output_prefix_absorb c _ _).trans ih
  | goesOn _ _ _ _ _ ih => exact (Progress.output_prefix_absorb c _ _).trans ih

end Host

namespace Screen

/-- **Lines are rendered each by itself, and those that are finished do not change.** The texts on
the two sides of a line feed, either of which may be empty, are rendered apart, faults included. So
as a session reads on, what it had rendered up to a line feed stands in front of whatever it renders
at a later place of the same read. -/
theorem normalize_append_feed (width : Int) (a b : Text) :
    normalize width (a ++ '\n' :: b) = (do
        let above ← normalize width a
        let below ← normalize width b
        return above ++ lineEnd ++ below) ∧
      ∀ {κ τ : Type} (h : Host κ τ) (c : Settings) (prompt : Option PromptPattern) (idle : τ)
        (p q : Progress) (matched : Bool) (k k' : κ) (r : Text),
        h.Reads c prompt idle p k q matched k' → p.output = a ++ '\n' :: b →
        q.rendered c = .ok r →
        ∃ above, render (.ofNumber c.tabSize) a = .ok above ∧ above ++ lineEnd <+: r := by
  constructor
  · rw [normalize, normalize, normalize]
    cases TabStops.every? width with
    | error f => rfl
    | ok stops => exact render_feed stops a b
  · intro κ τ h c prompt idle p q matched k k' r hreads hp hr
    obtain ⟨more, hmore⟩ := hreads.output_prefix
    rw [hp, List.append_assoc, List.cons_append] at hmore
    rw [Progress.rendered_eq, ← hmore] at hr
    exact prefix_of_render_feed hr

set_option maxRecDepth 4000 in
/-- A piece that draws over the last line and finishes it: the line above stays. -/
theorem normalize_append_feed_redrawn :
    ∃ q w w', Pool.reader.Reads Pool.incurious.settings none 1
        ⟨[], ["up\n50%".toList], 6, 0, false⟩ w q false w' ∧
      q.rendered Pool.incurious.settings = .ok "up\r\n99%\r\n$".toList ∧
      "up".toList ++ lineEnd <+: "up\r\n99%\r\n$".toList := by
  have hread : ∃ w', (Pool.reader.readPiece 1).runFrom
      ((World.answering []).offering 0 ["\r99%\n$".toList]) =
        (.ok (some (.text "\r99%\n$".toList)), w') := ⟨_, rfl⟩
  obtain ⟨w', hread⟩ := hread
  have hrunning : (Pool.incurious.settings.seesPager "\r99%\n$".toList &&
      Pool.incurious.settings.autoDismiss.isTrue) = false := by cbv
  have hreads : Pool.reader.Reads Pool.incurious.settings none 1
      ⟨[], ["up\n50%".toList], 6, 0, false⟩ _ _ false w' :=
    .goesOn hread rfl hrunning rfl .late
  have hrendered : (Progress.absorb Pool.incurious.settings
      ⟨[], ["up\n50%".toList], 6, 0, false⟩ "\r99%\n$".toList).1.rendered
        Pool.incurious.settings = .ok "up\r\n99%\r\n$".toList := by cbv
  have habove : render (.ofNumber Pool.incurious.settings.tabSize) "up".toList =
      .ok "up".toList := by cbv
  obtain ⟨above, hup, hprefix⟩ := (normalize_append_feed 8 "up".toList "50%".toList).2 _ _ _ _ _ _
    _ _ _ _ hreads rfl hrendered
  rw [habove] at hup
  cases hup
  exact ⟨_, _, _, hreads, hrendered, hprefix⟩

end Screen

end Teletype
