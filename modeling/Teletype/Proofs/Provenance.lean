import Mathlib
import Teletype.Proofs.Legible

/-!
# Where what is shown comes from

Rendering and stripping read the same tokens. Stripping leaves the characters between the sequences,
rendering obeys the sequences too, so the one says what the other can show.

A sequence without a command, or with one that sets the rendition of characters or changes the row,
leaves every line as it is. Where a text has no others, rendering it is rendering what stripping
leaves of it (`Screen.renderLine_stripEscapes`).

Other sequences move what was written about, and remove it. None of them writes anything but spaces
or shows a character twice: whatever is obeyed, the characters that are shown, spaces apart, are
different characters of the stripped text, and no controls (`Screen.count_renderLine_le`).
-/

namespace Teletype

/-- A text that can be read to its end can be stripped. -/
theorem exists_stripEscapes_of_scan {t : Text} (h : ∀ x, .unreadable x ∉ Token.scan t) :
    ∃ r, stripEscapes t = .ok r :=
  exists_eq_ok fun x hx => h x (Token.unreadable_mem_scan_iff.2 (stripEscapes_eq_error_iff.1 hx))

/-! ## Sequences that are not seen -/

/-- **A sequence that is not seen**: it has no command, or one that sets the rendition of characters
or changes the row, which a line does not have. -/
def Escape.IsUnseen (e : Escape) : Prop :=
  e.command = none ∨ e.command = some .graphicRendition ∨ e.command = some .cursorUp ∨
    e.command = some .cursorDown

theorem Escape.IsUnseen.apply_eq {e : Escape} (h : e.IsUnseen) (l : Line) : e.apply l = l := by
  unfold Escape.apply
  rcases h with h | h | h | h
  · rw [h]
  · rw [h]
  · rw [h]
  · rw [h]

namespace Line

/-- **Sequences that leave every line as it is may as well not be there.** -/
theorem replay_stripEscapes (stops : TabStops) {t r : Text} (hr : stripEscapes t = .ok r)
    (h : ∀ source e, .sequence source e ∈ Token.scan t → ∀ l : Line, e.apply l = l) (l : Line) :
    l.replay stops t = l.replay stops r := by
  induction t using Token.scan_induction generalizing r l with
  | nil =>
    rw [stripEscapes_nil] at hr
    cases hr
    rfl
  | char c t hc ih =>
    rw [stripEscapes_cons hc] at hr
    obtain ⟨u, hu, rfl⟩ := map_eq_ok_iff.1 hr
    rw [Token.scan_cons hc] at h
    have hrest : ∀ l' : Line, l'.replay stops t = l'.replay stops u := by
      intro l'
      exact ih hu (fun source e hmem => h source e (List.mem_cons_of_mem _ hmem)) l'
    rw [replay_cons stops l hc, replay_cons stops l hc]
    simp only [hrest]
  | sequence s rest e hreads ih =>
    rw [stripEscapes_of_reads hreads] at hr
    rw [Token.scan_of_reads hreads] at h
    have hunseen : e.apply l = l := h _ e List.mem_cons_self l
    rw [replay_of_reads stops l hreads, hunseen]
    exact ih hr (fun source e' hmem => h source e' (List.mem_cons_of_mem _ hmem)) l
  | unreadable t x hx =>
    rw [stripEscapes_of_error hx] at hr
    cases hr

end Line

namespace Screen

/-- **Sequences that are not seen make no difference.** If a text can be read to its end and all of
its sequences are such, then stripping has a result, and the text is rendered as that result is, with
tab stops of any kind; where they stand at equal distances, both are rendered. -/
theorem renderLine_stripEscapes {t : Text} (hread : ∀ x, .unreadable x ∉ Token.scan t)
    (hunseen : ∀ source e, .sequence source e ∈ Token.scan t → e.IsUnseen) :
    ∃ r, stripEscapes t = .ok r ∧ (∀ stops, renderLine stops t = renderLine stops r) ∧
      ∀ width, 1 ≤ width → ∃ shown, renderLine (.every width) t = .ok shown ∧
        renderLine (.every width) r = .ok shown := by
  obtain ⟨r, hr⟩ := exists_stripEscapes_of_scan hread
  have hsame : ∀ stops, renderLine stops t = renderLine stops r := by
    intro stops
    unfold renderLine
    rw [Line.replay_stripEscapes stops hr fun source e hmem l => (hunseen source e hmem).apply_eq l]
  refine ⟨r, hr, hsame, fun width hwidth => ?_⟩
  have hstops : ∀ column, ∃ stop, TabStops.every width column = .ok stop :=
    fun column => ⟨_, TabStops.every_eq_nextStop ⟨width, hwidth⟩ column⟩
  obtain ⟨shown, hshown⟩ : ∃ shown, renderLine (.every width) t = .ok shown := by
    refine exists_eq_ok fun f hf => ?_
    obtain ⟨x, -, hx⟩ := (renderLine_eq_error_iff hstops).1 hf
    exact hread x (Token.unreadable_mem_scan_iff.2 hx)
  exact ⟨shown, hshown, hsame (.every width) ▸ hshown⟩

/-- A colour, a private sequence, a title and a row that is left, around a tab and a return. -/
theorem renderLine_stripEscapes_coloured :
    ∃ r, stripEscapes "\x1b[1;31mno\x1b[m\tyes\x1b[?25h\r\x1b]0;t\x07\x1b[2Ag".toList = .ok r ∧
      r = "no\tyes\rg".toList ∧
      ∃ shown, renderLine (.every 4)
          "\x1b[1;31mno\x1b[m\tyes\x1b[?25h\r\x1b]0;t\x07\x1b[2Ag".toList = .ok shown ∧
        renderLine (.every 4) r = .ok shown ∧ shown = "go  yes".toList := by
  have hscan : Token.scan "\x1b[1;31mno\x1b[m\tyes\x1b[?25h\r\x1b]0;t\x07\x1b[2Ag".toList =
      [.sequence "\x1b[1;31m".toList ⟨7, some .graphicRendition, [some 1, some 31], some 'm', false⟩,
        .char 'n', .char 'o',
        .sequence "\x1b[m".toList ⟨3, some .graphicRendition, [], some 'm', false⟩,
        .char '\t', .char 'y', .char 'e', .char 's',
        .sequence "\x1b[?25h".toList ⟨6, none, [], some 'h', true⟩, .char '\r',
        .sequence "\x1b]0;t\x07".toList (Escape.inert 6 (some '\x07')),
        .sequence "\x1b[2A".toList ⟨4, some .cursorUp, [some 2], some 'A', false⟩, .char 'g'] := by
    cbv
  have hread : ∀ x, .unreadable x ∉
      Token.scan "\x1b[1;31mno\x1b[m\tyes\x1b[?25h\r\x1b]0;t\x07\x1b[2Ag".toList := by
    intro x
    rw [hscan]
    simp
  have hunseen : ∀ source e, .sequence source e ∈
      Token.scan "\x1b[1;31mno\x1b[m\tyes\x1b[?25h\r\x1b]0;t\x07\x1b[2Ag".toList → e.IsUnseen := by
    intro source e hmem
    rw [hscan] at hmem
    simp only [List.mem_cons, Token.sequence.injEq, reduceCtorEq, List.not_mem_nil, false_or,
      or_false] at hmem
    rcases hmem with ⟨-, rfl⟩ | ⟨-, rfl⟩ | ⟨-, rfl⟩ | ⟨-, rfl⟩ | ⟨-, rfl⟩
    · exact .inr (.inl rfl)
    · exact .inr (.inl rfl)
    · exact .inl rfl
    · exact .inl rfl
    · exact .inr (.inr (.inl rfl))
  obtain ⟨r, hr, -, hshown⟩ := renderLine_stripEscapes hread hunseen
  obtain ⟨shown, ht, hr'⟩ := hshown 4 (by decide)
  have hstrip : stripEscapes "\x1b[1;31mno\x1b[m\tyes\x1b[?25h\r\x1b]0;t\x07\x1b[2Ag".toList =
      .ok "no\tyes\rg".toList := by cbv
  have hrun : renderLine (.every 4) "\x1b[1;31mno\x1b[m\tyes\x1b[?25h\r\x1b]0;t\x07\x1b[2Ag".toList =
      .ok "go  yes".toList := by cbv
  refine ⟨r, hr, Except.ok.inj (hr.symm.trans hstrip), shown, ht, hr', ?_⟩
  exact Except.ok.inj (ht.symm.trans hrun)

end Screen

/-! ## Characters that are shown -/

/-- What is written of a text are its characters outside sequences, but for the controls. -/
theorem Token.flatMap_written_scan {t r : Text} (h : stripEscapes t = .ok r) :
    (scan t).flatMap written = r.filter fun c => !Control.isControl c := by
  induction t using scan_induction generalizing r with
  | nil =>
    rw [stripEscapes_nil] at h
    cases h
    rw [scan_nil]
    rfl
  | char c t hc ih =>
    rw [stripEscapes_cons hc] at h
    obtain ⟨u, hu, rfl⟩ := map_eq_ok_iff.1 h
    rw [scan_cons hc, List.flatMap_cons, ih hu, written, List.filter_cons]
    cases Control.isControl c with
    | true => rfl
    | false => rfl
  | sequence s rest e hr ih =>
    rw [stripEscapes_of_reads hr] at h
    rw [scan_of_reads hr, List.flatMap_cons, ih h]
    rfl
  | unreadable t x hx =>
    rw [stripEscapes_of_error hx] at h
    cases h

namespace Screen

/-- Of a text that is replayed no more is seen than is written. -/
theorem count_visible_le {stops : TabStops} {t : Text} {l : Line}
    (h : Line.empty.replay stops t = .ok l) {c : Char} (hc : c ≠ ' ') :
    l.visible.count c ≤ ((Token.scan t).flatMap Token.written).count c := by
  have hgains := Line.gains_foldlM_obey h c hc
  have hnone : Line.empty.cells.count c = 0 := rfl
  have hseen : l.visible.count c ≤ l.cells.count c := by
    rw [← Array.count_toList]
    exact (List.rdropWhile_prefix (· == ' ') l.toText).sublist.count_le c
  omega

/-- **Rendering invents nothing and shows nothing twice.** A text that is rendered can be stripped as
well, and a character that is shown, but for the space, is shown at most as often as stripping leaves
it. So what is shown, spaces apart, can be paired with different characters of the stripped text,
none of which is a control. -/
theorem count_renderLine_le {stops : TabStops} {t shown : Text}
    (h : renderLine stops t = .ok shown) :
    ∃ r, stripEscapes t = .ok r ∧ (∀ c, c ≠ ' ' → shown.count c ≤ r.count c) ∧
      (shown.filter (· ≠ ' ')).Subperm (r.filter fun c => !Control.isControl c) := by
  obtain ⟨l, hl, rfl⟩ := map_eq_ok_iff.1 h
  obtain ⟨r, hr⟩ := exists_stripEscapes_of_scan (Line.unreadable_not_mem_of_foldlM_obey hl)
  have hwritten : ∀ c, c ≠ ' ' →
      l.visible.count c ≤ (r.filter fun c => !Control.isControl c).count c := by
    intro c hc
    rw [← Token.flatMap_written_scan hr]
    exact count_visible_le hl hc
  refine ⟨r, hr, fun c hc => ?_, List.subperm_ext_iff.2 fun c hmem => ?_⟩
  · exact (hwritten c hc).trans (List.filter_sublist.count_le c)
  · have hspace : c ≠ ' ' := of_decide_eq_true (List.mem_filter.1 hmem).2
    exact (List.filter_sublist.count_le c).trans (hwritten c hspace)

/-- A word that is pushed to the right, shortened and written over, and a delete character. -/
theorem count_renderLine_le_redrawn :
    renderLine (.every 8) "deeds\r\x1b[2@e\x7f\x1b[2C\x1b[P\x1b[9Gd".toList =
        .ok "e deds  d".toList ∧
      ∃ r, stripEscapes "deeds\r\x1b[2@e\x7f\x1b[2C\x1b[P\x1b[9Gd".toList = .ok r ∧
        r = "deeds\re\x7fd".toList ∧ "e deds  d".toList.count 'd' ≤ r.count 'd' ∧
        ("e deds  d".toList.filter (· ≠ ' ')).Subperm (r.filter fun c => !Control.isControl c) := by
  have hrun : renderLine (.every 8) "deeds\r\x1b[2@e\x7f\x1b[2C\x1b[P\x1b[9Gd".toList =
      .ok "e deds  d".toList := by cbv
  have hstrip : stripEscapes "deeds\r\x1b[2@e\x7f\x1b[2C\x1b[P\x1b[9Gd".toList =
      .ok "deeds\re\x7fd".toList := by cbv
  obtain ⟨r, hr, hcount, hpaired⟩ := count_renderLine_le hrun
  exact ⟨hrun, r, hr, Except.ok.inj (hr.symm.trans hstrip), hcount 'd' (by decide), hpaired⟩

end Screen

end Teletype
