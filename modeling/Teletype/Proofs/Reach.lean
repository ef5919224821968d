import Mathlib
import Teletype.Proofs.Passes

/-!
# How far a line reaches

A few characters can ask for many cells: a sequence sends the cursor far to the right, and the next
character fills the gap. What a text can ask for is nevertheless bounded by its length.

The number of cells, the cursor and the remembered cursor feed each other. Writing turns the cursor
into cells, restoring turns the remembered cursor into the cursor, and inserted spaces are added to
the cells or to the cursor, whichever reaches farther. So one bound is kept on all three
(`Line.Within`), and each operation is said to add to it no more than its argument. A parameter is
clamped when it is read (`Escape.isClamped_of_parse`), and a tab stop is no farther away than tab
stops are apart, which bounds what a pass over the text adds (`Line.Within.obey`). A pass takes a
character at least: a line reaches no farther than the characters taken so far allow
(`Line.reaches`).
-/

namespace Teletype

/-! ## Parameters -/

namespace Escape

/-- **A sequence with clamped parameters.** -/
def IsClamped (e : Escape) : Prop :=
  ∀ n, some n ∈ e.params → n ≤ maxParam

theorem IsClamped.param_le {e : Escape} (h : e.IsClamped) (index : Nat) {default : Nat}
    (hdefault : default ≤ maxParam) : e.param index default ≤ maxParam := by
  unfold param
  cases hparam : e.params[index]? with
  | none => exact hdefault
  | some p =>
    cases p with
    | none => exact hdefault
    | some n => exact h n (List.mem_of_getElem? hparam)

theorem le_maxParam_of_readParam {p : Text} {n : Nat} (h : readParam p = .ok (some n)) :
    n ≤ maxParam := by
  unfold readParam at h
  split at h
  · obtain ⟨m, -, hm⟩ := map_eq_ok_iff.1 h
    obtain rfl := Option.some.inj hm
    exact Nat.min_le_right m maxParam
  · cases h

theorem le_maxParam_of_readParams {ps : Text} {values : List (Option Nat)}
    (h : readParams ps = .ok values) {n : Nat} (hn : some n ∈ values) : n ≤ maxParam := by
  unfold readParams at h
  split at h
  · cases h
    exact absurd hn List.not_mem_nil
  · obtain ⟨p, -, hp⟩ := exists_of_mem_mapM h hn
    exact le_maxParam_of_readParam hp

theorem Reads.isClamped {s rest : Text} {e : Escape} (h : Reads s rest e) : e.IsClamped := by
  intro n hn
  cases h with
  | sequence _ _ _ _ hvalues => exact le_maxParam_of_readParams hvalues hn
  -- the other forms have none
  | _ => exact absurd hn List.not_mem_nil

/-- **Whatever is read has clamped parameters.** -/
theorem isClamped_of_parse {t : Text} {e : Escape} (h : parse t = .ok e) : e.IsClamped :=
  (reads_of_parse h).isClamped

end Escape

/-- A tab stop is at most as far away as tab stops are apart. -/
theorem TabStops.every_le (width : TabWidth) {column : Nat} {stop : Int}
    (h : every width.1 column = .ok stop) : stop ≤ column + width.1 := by
  rw [every_eq_nextStop] at h
  obtain rfl := Except.ok.inj h
  obtain ⟨width, hwidth⟩ := width
  lift width to Nat using by omega
  have hmultiple := Nat.div_mul_le_self column width
  have hnext : (column / width + 1) * width = column / width * width + width := by ring
  rw [Tape.nextStop_natCast hwidth]
  dsimp only
  omega

namespace Line

/-! ## Operations -/

/-- **A line within its first columns**: all of its cells, the cursor and the remembered cursor. -/
structure Within (l : Line) (n : Nat) : Prop where
  length_le : l.length ≤ n
  cursor_le : l.cursor ≤ n
  saved_le : l.saved ≤ n

namespace Within

variable {l l' : Line} {n m : Nat}

theorem empty : Line.empty.Within 0 :=
  ⟨Nat.le_refl 0, Nat.le_refl 0, Nat.le_refl 0⟩

theorem mono (h : l.Within n) (hle : n ≤ m) : l.Within m :=
  ⟨h.length_le.trans hle, h.cursor_le.trans hle, h.saved_le.trans hle⟩

theorem write (h : l.Within n) (c : Char) : (l.write c).Within (n + 1) := by
  have hcursor := h.cursor_le
  have hsaved := h.saved_le
  refine ⟨?_, by rw [cursor_write]; omega, by rw [saved_write]; omega⟩
  have hlength := h.length_le
  obtain ⟨cells, cursor, saved⟩ := l
  simp only [length] at hlength hcursor ⊢
  rw [Line.write]
  split
  · simp only [Array.size_set]
    omega
  · simp only [Array.size_push, size_padTo]
    omega

theorem writeText (h : l.Within n) (t : Text) : (l.writeText t).Within (n + t.length) := by
  induction t generalizing l n with
  | nil => exact h
  | cons c t ih =>
    have hrest := ih (h.write c)
    have hlength : n + 1 + t.length = n + (c :: t).length := by rw [List.length_cons]; omega
    rw [← hlength]
    exact hrest

theorem moveTo (h : l.Within n) (column : Int) : (l.moveTo column).Within (n + column.toNat) := by
  have hmono := h.mono (Nat.le_add_right n column.toNat)
  exact ⟨hmono.length_le, Nat.le_add_left _ _, hmono.saved_le⟩

theorem moveBy (h : l.Within n) (distance : Int) :
    (l.moveBy distance).Within (n + distance.toNat) := by
  have hmono := h.mono (Nat.le_add_right n distance.toNat)
  have hcursor := h.cursor_le
  have hmoved : ((l.cursor : Int) + distance).toNat ≤ n + distance.toNat := by omega
  exact ⟨hmono.length_le, hmoved, hmono.saved_le⟩

theorem save (h : l.Within n) : l.save.Within n :=
  ⟨h.length_le, h.cursor_le, h.cursor_le⟩

theorem restore (h : l.Within n) : l.restore.Within n :=
  ⟨h.length_le, h.saved_le, h.saved_le⟩

theorem erase (h : l.Within n) (part : Int) : (l.erase part).Within n := by
  have hlength : l.cells.size ≤ n := h.length_le
  unfold Line.erase
  split
  · refine ⟨?_, h.cursor_le, h.saved_le⟩
    simp only [length, eraseRight, Array.size_extract]
    omega
  split
  · refine ⟨?_, h.cursor_le, h.saved_le⟩
    simp only [length, eraseLeft, Array.size_extract]
    omega
  split
  · exact ⟨Nat.zero_le n, Nat.zero_le n, h.saved_le⟩
  · exact h

theorem blankOut (h : l.Within n) (count : Int) : (l.blankOut count).Within n := by
  refine ⟨?_, h.cursor_le, h.saved_le⟩
  have hlength : l.cells.size ≤ n := h.length_le
  simp only [length, Line.blankOut, Array.size_mapIdx]
  exact hlength

/-- The inserted spaces stand behind the cells or behind the gap before the cursor. -/
theorem insertBlanks (h : l.Within n) (count : Int) :
    (l.insertBlanks count).Within (n + count.toNat) := by
  have hlength : l.cells.size ≤ n := h.length_le
  have hcursor := h.cursor_le
  have hsaved := h.saved_le
  unfold Line.insertBlanks
  split
  · exact h.mono (Nat.le_add_right n _)
  · refine ⟨?_, by dsimp only; omega, by dsimp only; omega⟩
    simp only [length, Array.size_append, Array.size_extract, Array.size_replicate, size_padTo]
    omega

theorem deleteChars (h : l.Within n) (count : Int) : (l.deleteChars count).Within n := by
  have hlength : l.cells.size ≤ n := h.length_le
  unfold Line.deleteChars
  split
  · exact h
  · refine ⟨?_, h.cursor_le, h.saved_le⟩
    simp only [length, Array.size_append, Array.size_extract]
    omega

/-! ## Passes -/

/-- **What a sequence adds is bounded by its parameters.** -/
theorem apply (h : l.Within n) {e : Escape} (he : e.IsClamped) :
    (e.apply l).Within (n + Escape.maxParam) := by
  have hone : ∀ index, e.param index 1 ≤ Escape.maxParam := fun index =>
    he.param_le index (by decide)
  have hfirst := hone 0
  have hsecond := hone 1
  have hmono := h.mono (Nat.le_add_right n Escape.maxParam)
  unfold Escape.apply
  cases e.command with
  | none => exact hmono
  | some k =>
    cases k with
    | cursorForward => exact (h.moveBy _).mono (by omega)
    | cursorBackward => exact (h.moveBy _).mono (by omega)
    | cursorColumn => exact (h.moveTo _).mono (by omega)
    | cursorPosition => exact (h.moveTo _).mono (by omega)
    | cursorPositionAlt => exact (h.moveTo _).mono (by omega)
    | eraseLine => exact hmono.erase _
    | eraseDisplay => exact hmono.erase _
    | eraseChars => exact hmono.blankOut _
    | insertChars => exact (h.insertBlanks _).mono (by omega)
    | deleteChars => exact hmono.deleteChars _
    | saveCursor => exact hmono.save
    | restoreCursor => exact hmono.restore
    | cursorUp => exact hmono
    | cursorDown => exact hmono
    | graphicRendition => exact hmono

section Passes

variable {stops : TabStops} (hstops : ∀ {column stop}, stops column = .ok stop → stop ≤ column + m)
include hstops

/-- **What a control adds is bounded by the distance of tab stops.** -/
theorem control (h : l.Within n) {c : Char} (hcontrol : l.control stops c = .ok l') :
    l'.Within (n + m) := by
  unfold Line.control at hcontrol
  split at hcontrol
  · cases hcontrol
    exact (h.moveTo 0).mono (by omega)
  split at hcontrol
  · cases hcontrol
    exact (h.moveBy (-1)).mono (by omega)
  split at hcontrol
  · obtain ⟨stop, hstop, rfl⟩ := map_eq_ok_iff.1 hcontrol
    have hnear := hstops hstop
    refine (h.writeText _).mono ?_
    rw [List.length_replicate]
    omega
  · cases hcontrol
    exact h.mono (Nat.le_add_right n m)

variable (hparam : Escape.maxParam ≤ m) {t : Text} {i j : Nat}
include hparam

/-- **What a pass adds.** -/
theorem obey (h : l.Within n) {token : Token} (hpass : Token.Advances t i token j)
    (hobey : l.obey stops token = .ok l') : l'.Within (n + m) := by
  cases hpass with
  | @char c _ _ =>
    rw [Line.obey] at hobey
    split at hobey
    · exact h.control hstops hobey
    · cases hobey
      have hone : 1 ≤ Escape.maxParam := by decide
      exact (h.write c).mono (by omega)
  | sequence _ hparse =>
    cases hobey
    exact (h.apply (Escape.isClamped_of_parse hparse)).mono (by omega)

/-- **What a row of passes adds**: as much for each character that it takes as a pass may add. -/
theorem foldlM_obey {tokens : List Token} (hpasses : Token.Passes t i tokens j)
    (h : l.Within (m * i)) (hrun : tokens.foldlM (Line.obey stops) l = .ok l') :
    l'.Within (m * j) := by
  induction hpasses generalizing l with
  | nil =>
    cases hrun
    exact h
  | @cons i j k token tokens hpass _ ih =>
    rw [List.foldlM_cons] at hrun
    cases hobey : l.obey stops token with
    | error x =>
      rw [hobey] at hrun
      cases hrun
    | ok l₁ =>
      rw [hobey] at hrun
      -- the pass takes one character at least, and these have been counted for it
      have hon : i + 1 ≤ j := hpass.bounds.1
      have hroom : m * i + m ≤ m * j := Nat.mul_le_mul_left m hon
      exact ih ((h.obey hstops hparam hpass hobey).mono hroom) hrun

end Passes

end Within

/-! ## Texts -/

/-- Part of a row of tokens that is obeyed is a row of passes. -/
theorem exists_passes_of_scan {stops : TabStops} {t : Text} {l : Line} {done rest : List Token}
    (hscan : Token.scan t = done ++ rest) (hrun : done.foldlM (obey stops) empty = .ok l) :
    ∃ stop, Token.Passes t 0 done stop := by
  have hread := unreadable_not_mem_of_foldlM_obey hrun
  rcases Token.passes_scan t (Nat.zero_le t.length) with hall | ⟨tokens, k, x, hfirst, hpasses, -⟩
  · rw [List.drop_zero, hscan] at hall
    obtain ⟨stop, hdone, -⟩ := hall.exists_of_append
    exact ⟨stop, hdone⟩
  · rw [List.drop_zero, hscan] at hfirst
    -- what could not be read ends the row, and nothing that was obeyed is that
    obtain ⟨others, hothers⟩ : done <+: tokens := by
      rcases List.prefix_concat_iff.1 ⟨rest, hfirst⟩ with hwhole | hpart
      · exact absurd (hwhole ▸ List.mem_append_right tokens List.mem_cons_self) (hread x)
      · exact hpart
    rw [← hothers] at hpasses
    obtain ⟨stop, hdone, -⟩ := hpasses.exists_of_append
    exact ⟨stop, hdone⟩

/-- Of a line no more is seen than it has cells. -/
theorem length_visible_le (l : Line) : l.visible.length ≤ l.length :=
  (List.rdropWhile_prefix (· == ' ') l.toText).length_le

/-- **How far a line reaches.** While a text is replayed on an empty line, with tab stops `width`
columns apart, the number of cells, the cursor and the remembered cursor are at no time negative,
nor more than the larger of `width` and the largest parameter for each character taken so far. So
the length of what is shown in the end is bounded by the length of the text. -/
theorem reaches (width : TabWidth) (t : Text) :
    (∀ done rest, Token.scan t = done ++ rest →
      ∀ l, done.foldlM (obey (.every width.1)) empty = .ok l →
        ∃ taken, Token.Passes t 0 done taken ∧
          (l.length : Int) ∈ Set.Icc 0 (max (Escape.maxParam : Int) width.1 * taken) ∧
          (l.cursor : Int) ∈ Set.Icc 0 (max (Escape.maxParam : Int) width.1 * taken) ∧
          (l.saved : Int) ∈ Set.Icc 0 (max (Escape.maxParam : Int) width.1 * taken)) ∧
      ∀ shown, Screen.renderLine (.every width.1) t = .ok shown →
        (shown.length : Int) ≤ max (Escape.maxParam : Int) width.1 * t.length := by
  have hwidth := width.2
  have hstops : ∀ {column stop}, TabStops.every width.1 column = .ok stop →
      stop ≤ column + (max Escape.maxParam width.1.toNat : Nat) := by
    intro column stop hstop
    have hnear := TabStops.every_le width hstop
    omega
  have hmax : ((max Escape.maxParam width.1.toNat : Nat) : Int) =
      max (Escape.maxParam : Int) width.1 := by
    omega
  have hrun : ∀ {done : List Token} {taken : Nat} {l : Line}, Token.Passes t 0 done taken →
      done.foldlM (obey (.every width.1)) empty = .ok l →
      l.Within (max Escape.maxParam width.1.toNat * taken) := by
    intro done taken l hpasses hdone
    exact Within.foldlM_obey hstops (Nat.le_max_left _ _) hpasses Within.empty hdone
  have hcast : ∀ {k taken : Nat}, k ≤ max Escape.maxParam width.1.toNat * taken →
      (k : Int) ∈ Set.Icc 0 (max (Escape.maxParam : Int) width.1 * (taken : Int)) := by
    intro k taken hk
    rw [← hmax]
    exact ⟨Int.natCast_nonneg k, by exact_mod_cast hk⟩
  constructor
  · intro done rest hscan l hdone
    obtain ⟨taken, hpasses⟩ := exists_passes_of_scan hscan hdone
    obtain ⟨hlength, hcursor, hsaved⟩ := hrun hpasses hdone
    exact ⟨taken, hpasses, hcast hlength, hcast hcursor, hcast hsaved⟩
  · intro shown hshown
    obtain ⟨l, hl, rfl⟩ := map_eq_ok_iff.1 hshown
    obtain ⟨taken, hpasses⟩ := exists_passes_of_scan (List.append_nil _).symm hl
    have htaken := hpasses.le_length (Nat.zero_le _)
    have hwithin := (hrun hpasses hl).mono (Nat.mul_le_mul_left _ htaken)
    exact (hcast (l.length_visible_le.trans hwithin.length_le)).2

/-- A jump that is remembered, spaces inserted behind the gap, and a tab among them. -/
theorem reaches_jump :
    ∃ l taken, empty.replay (.every 3) "a\x1b[4C\x1b[s\x1b[2@\t\x1b[ub".toList = .ok l ∧
      l.length = 7 ∧ l.cursor = 6 ∧ l.saved = 5 ∧
      Token.Passes "a\x1b[4C\x1b[s\x1b[2@\t\x1b[ub".toList 0
        (Token.scan "a\x1b[4C\x1b[s\x1b[2@\t\x1b[ub".toList) taken ∧
      (l.length : Int) ≤ max Escape.maxParam 3 * taken ∧
      ("a    b".toList.length : Int) ≤ max Escape.maxParam 3 * 17 := by
  have hrun : empty.replay (.every 3) "a\x1b[4C\x1b[s\x1b[2@\t\x1b[ub".toList =
      .ok ⟨#['a', ' ', ' ', ' ', ' ', 'b', ' '], 6, 5⟩ := by cbv
  have hshown : Screen.renderLine (.every 3) "a\x1b[4C\x1b[s\x1b[2@\t\x1b[ub".toList =
      .ok "a    b".toList := by cbv
  obtain ⟨hpasses, hlength⟩ := reaches ⟨3, by decide⟩ "a\x1b[4C\x1b[s\x1b[2@\t\x1b[ub".toList
  obtain ⟨taken, hrow, hbound, -, -⟩ := hpasses _ [] (List.append_nil _).symm _ hrun
  exact ⟨_, taken, hrun, rfl, rfl, rfl, hrow, hbound.2, hlength _ hshown⟩

end Line

end Teletype
