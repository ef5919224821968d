import Teletype.Screen
import Mathlib.Data.Nat.Find
import Mathlib.Tactic.Lift
import Mathlib.Tactic.Ring

/-!
# A line is an endless tape

A `Line` keeps the cells that were written and pads a gap only when something is put behind it. This
file compares it with a `Tape`, which has a character in every column from the start and knows
nothing of a length. `Shows l t` is the simulation: the same cursors, and in every column the
character that a reader of the line sees there.

Each operation keeps the two together (`Shows.perform`), the three cursor controls included, so any
row of operations does (`Shows.run`). What a reader is shown in the end is the tape up to its last
character that is no space (`Shows.visible`).
-/

namespace Teletype

/-- A character for every column, a cursor and a remembered cursor. -/
structure Tape where
  cell : Nat → Char
  cursor : Nat
  saved : Nat

/-- A distance of tab stops: one column at least. -/
abbrev TabWidth := {width : Int // 1 ≤ width}

/-- An operation on a line. A control character is obeyed with tab stops some columns apart, which
matters to the tab only. -/
inductive Edit where
  | write (c : Char)
  | moveTo (column : Int)
  | moveBy (distance : Int)
  | save
  | restore
  | erase (part : Int)
  | blankOut (count : Int)
  | insertBlanks (count : Int)
  | deleteChars (count : Int)
  | carriageReturn (width : Int)
  | backspace (width : Int)
  | tab (width : TabWidth)

/-- An operation performed on a line. -/
def Line.perform (l : Line) : Edit → Except RenderFault Line
  | .write c => .ok (l.write c)
  | .moveTo column => .ok (l.moveTo column)
  | .moveBy distance => .ok (l.moveBy distance)
  | .save => .ok l.save
  | .restore => .ok l.restore
  | .erase part => .ok (l.erase part)
  | .blankOut count => .ok (l.blankOut count)
  | .insertBlanks count => .ok (l.insertBlanks count)
  | .deleteChars count => .ok (l.deleteChars count)
  | .carriageReturn width => l.control (TabStops.every width) Control.carriageReturn
  | .backspace width => l.control (TabStops.every width) Control.backspace
  | .tab width => l.control (TabStops.every width.1) Control.tab

namespace Tape

/-- Nothing but spaces. -/
def blank : Tape := ⟨fun _ => ' ', 0, 0⟩

/-- There is a tab stop behind every column. -/
theorem exists_stop (width : TabWidth) (column : Nat) :
    ∃ stop : Nat, column < stop ∧ width.1 ∣ (stop : Int) := by
  obtain ⟨width, hwidth⟩ := width
  lift width to Nat using by omega
  refine ⟨(column + 1) * width, ?_, by simp⟩
  have := Nat.le_mul_of_pos_right (column + 1) (show 0 < width by omega)
  omega

/-- The least multiple of the width behind a column. -/
def nextStop (width : TabWidth) (column : Nat) : Nat :=
  Nat.find (exists_stop width column)

/-- What an operation does to a tape. -/
def perform (t : Tape) : Edit → Tape
  | .write c =>
    { t with cell := fun i => if i = t.cursor then c else t.cell i, cursor := t.cursor + 1 }
  | .moveTo column => { t with cursor := (max 0 column).toNat }
  | .moveBy distance => { t with cursor := (max 0 (t.cursor + distance)).toNat }
  | .save => { t with saved := t.cursor }
  | .restore => { t with cursor := t.saved }
  | .erase part =>
    if part = 0 then { t with cell := fun i => if t.cursor ≤ i then ' ' else t.cell i }
    else if part = 1 then { t with cell := fun i => t.cell (i + (t.cursor + 1)) }
    else if part = 2 then { t with cell := fun _ => ' ', cursor := 0 }
    else t
  | .blankOut count =>
    if count ≤ 0 then t
    else { t with cell := fun i =>
      if t.cursor ≤ i ∧ (i : Int) < t.cursor + count then ' ' else t.cell i }
  | .insertBlanks count =>
    if count ≤ 0 then t
    else { t with cell := fun i =>
      if i < t.cursor then t.cell i
      else if (i : Int) < t.cursor + count then ' ' else t.cell (i - count.toNat) }
  | .deleteChars count =>
    if count ≤ 0 then t
    else { t with cell := fun i =>
      if i < t.cursor then t.cell i else t.cell (i + count.toNat) }
  | .carriageReturn _ => { t with cursor := 0 }
  | .backspace _ => { t with cursor := t.cursor - 1 }
  | .tab width =>
    let stop := nextStop width t.cursor
    { t with cell := fun i => if t.cursor ≤ i ∧ i < stop then ' ' else t.cell i, cursor := stop }

end Tape

namespace Line

/-! ## What the operations do to the cursors -/

@[simp] theorem cursor_write (l : Line) (c : Char) : (l.write c).cursor = l.cursor + 1 := by
  obtain ⟨cells, cursor, saved⟩ := l
  simp only [write]
  split <;> rfl

@[simp] theorem saved_write (l : Line) (c : Char) : (l.write c).saved = l.saved := by
  obtain ⟨cells, cursor, saved⟩ := l
  simp only [write]
  split <;> rfl

/-- Writing `n` spaces blanks `n` columns and steps over them. -/
theorem writeText_replicate (n : Nat) (l : Line) :
    (l.writeText (List.replicate n ' ')).cursor = l.cursor + n ∧
      (l.writeText (List.replicate n ' ')).saved = l.saved ∧
      ∀ i, (l.writeText (List.replicate n ' ')).cellAt i =
        if l.cursor ≤ i ∧ i < l.cursor + n then ' ' else l.cellAt i := by
  induction n generalizing l with
  | zero => exact ⟨rfl, rfl, fun i => (if_neg (by omega)).symm⟩
  | succ n ih =>
    obtain ⟨hcursor, hsaved, hcell⟩ := ih (l.write ' ')
    have hstep : l.writeText (List.replicate (n + 1) ' ') =
        (l.write ' ').writeText (List.replicate n ' ') := rfl
    rw [hstep, hcursor, hsaved, cursor_write, saved_write]
    refine ⟨by omega, rfl, fun i => ?_⟩
    rw [hcell, cellAt_write, cursor_write]
    grind

@[simp] theorem cursor_blankOut (l : Line) (count : Int) :
    (l.blankOut count).cursor = l.cursor := rfl

@[simp] theorem saved_blankOut (l : Line) (count : Int) : (l.blankOut count).saved = l.saved := rfl

@[simp] theorem cursor_insertBlanks (l : Line) (count : Int) :
    (l.insertBlanks count).cursor = l.cursor := by
  unfold insertBlanks
  split <;> rfl

@[simp] theorem saved_insertBlanks (l : Line) (count : Int) :
    (l.insertBlanks count).saved = l.saved := by
  unfold insertBlanks
  split <;> rfl

@[simp] theorem cursor_deleteChars (l : Line) (count : Int) :
    (l.deleteChars count).cursor = l.cursor := by
  unfold deleteChars
  split <;> rfl

@[simp] theorem saved_deleteChars (l : Line) (count : Int) :
    (l.deleteChars count).saved = l.saved := by
  unfold deleteChars
  split <;> rfl

end Line

/-- The last character is dropped or nothing is. -/
theorem Text.dropEndWhile_concat (p : Char → Bool) (t : Text) (c : Char) :
    Text.dropEndWhile p (t ++ [c]) = if p c then Text.dropEndWhile p t else t ++ [c] := by
  rw [Text.dropEndWhile, List.reverse_concat, List.dropWhile_cons]
  split
  · rfl
  · rw [List.reverse_cons, List.reverse_reverse]

/-! ## Tab stops -/

/-- The least multiple of a width behind a column. -/
theorem Tape.nextStop_natCast {width : Nat} (hwidth : 1 ≤ (width : Int)) (column : Nat) :
    Tape.nextStop ⟨width, hwidth⟩ column = (column / width + 1) * width := by
  have hpos : 0 < width := by omega
  have hdiv := Nat.div_add_mod column width
  have hmod := Nat.mod_lt column hpos
  have hmul : (column / width + 1) * width = width * (column / width) + width := by ring
  rw [Tape.nextStop, Nat.find_eq_iff]
  refine ⟨⟨by omega, by simp⟩, ?_⟩
  rintro stop hlt ⟨hbehind, hdvd⟩
  obtain ⟨k, rfl⟩ := Int.natCast_dvd_natCast.1 hdvd
  have hk : column / width + 1 ≤ k := Nat.div_lt_of_lt_mul hbehind
  have hle := Nat.mul_le_mul_left width hk
  rw [Nat.mul_add, Nat.mul_one] at hle
  omega

/-- The stop that is computed is the next one. -/
theorem TabStops.every_eq_nextStop (width : TabWidth) (column : Nat) :
    TabStops.every width.1 column = .ok (Tape.nextStop width column : Int) := by
  obtain ⟨width, hwidth⟩ := width
  lift width to Nat using by omega
  have hne : ¬ (width : Int) = 0 := by omega
  rw [Tape.nextStop_natCast hwidth, TabStops.every, if_neg hne,
    Int.fdiv_eq_ediv_of_nonneg _ (Int.natCast_nonneg width)]
  push_cast
  rfl

/-! ## The simulation -/

/-- **A line shows a tape**: the same cursors, and in every column what the tape has there. -/
structure Shows (l : Line) (t : Tape) : Prop where
  cursor : l.cursor = t.cursor
  saved : l.saved = t.saved
  cell : ∀ i, l.cellAt i = t.cell i

namespace Shows

variable {l : Line} {t : Tape}

theorem empty_blank : Shows Line.empty Tape.blank := ⟨rfl, rfl, fun _ => rfl⟩

/-- The cells of the line are those of the tape. -/
theorem getElem_cells (h : Shows l t) {i : Nat} (hi : i < l.cells.size) :
    l.cells[i] = t.cell i := by
  rw [← h.cell i, Line.cellAt, Array.getElem?_eq_getElem hi, Option.getD_some]

/-- Behind them the tape is blank. -/
theorem cell_of_length_le (h : Shows l t) {i : Nat} (hi : l.length ≤ i) : t.cell i = ' ' := by
  rw [← h.cell i, Line.cellAt, Array.getElem?_eq_none hi, Option.getD_none]

/-- **One operation keeps line and tape together.** -/
theorem perform (h : Shows l t) (e : Edit) :
    ∃ l', l.perform e = .ok l' ∧ Shows l' (t.perform e) := by
  obtain ⟨hcursor, hsaved, hcell⟩ := h
  cases e with
  | write c =>
    refine ⟨_, rfl, ⟨?_, ?_, fun i => ?_⟩⟩
    · rw [Line.cursor_write, hcursor]; rfl
    · rw [Line.saved_write, hsaved]; rfl
    · rw [Line.cellAt_write, hcell, hcursor]; rfl
  | moveTo column => exact ⟨_, rfl, ⟨by simp [Line.moveTo, Tape.perform]; omega, hsaved, hcell⟩⟩
  | moveBy distance =>
    refine ⟨_, rfl, ⟨?_, hsaved, hcell⟩⟩
    simp only [Line.moveBy, Tape.perform, hcursor]
    omega
  | save => exact ⟨_, rfl, ⟨hcursor, hcursor, hcell⟩⟩
  | restore => exact ⟨_, rfl, ⟨hsaved, hsaved, hcell⟩⟩
  | erase part =>
    refine ⟨_, rfl, ?_⟩
    simp only [Line.erase, Tape.perform]
    by_cases h0 : part = 0
    · rw [if_pos h0, if_pos h0]
      refine ⟨hcursor, hsaved, fun i => ?_⟩
      rw [Line.cellAt_eraseRight, hcell, hcursor]
      grind
    by_cases h1 : part = 1
    · rw [if_neg h0, if_neg h0, if_pos h1, if_pos h1]
      refine ⟨hcursor, hsaved, fun i => ?_⟩
      rw [Line.cellAt_eraseLeft, hcell, hcursor, Nat.add_comm]
    by_cases h2 : part = 2
    · rw [if_neg h0, if_neg h0, if_neg h1, if_neg h1, if_pos h2, if_pos h2]
      exact ⟨rfl, hsaved, fun i => Line.cellAt_clear l i⟩
    rw [if_neg h0, if_neg h0, if_neg h1, if_neg h1, if_neg h2, if_neg h2]
    exact ⟨hcursor, hsaved, hcell⟩
  | blankOut count =>
    refine ⟨_, rfl, ?_⟩
    simp only [Tape.perform]
    split
    · refine ⟨hcursor, hsaved, fun i => ?_⟩
      rw [Line.cellAt_blankOut, hcell]
      exact if_neg (by omega)
    · refine ⟨hcursor, hsaved, fun i => ?_⟩
      rw [Line.cellAt_blankOut, hcell, hcursor]
      exact if_congr (by omega) rfl rfl
  | insertBlanks count =>
    refine ⟨_, rfl, ?_⟩
    simp only [Tape.perform]
    split
    · refine ⟨by simpa using hcursor, by simpa using hsaved, fun i => ?_⟩
      have : count.toNat = 0 := by omega
      rw [Line.cellAt_insertBlanks, this, hcell]
      grind
    · refine ⟨by simpa using hcursor, by simpa using hsaved, fun i => ?_⟩
      rw [Line.cellAt_insertBlanks, hcell, hcell, hcursor]
      exact if_congr Iff.rfl rfl (if_congr (by omega) rfl rfl)
  | deleteChars count =>
    refine ⟨_, rfl, ?_⟩
    simp only [Tape.perform]
    split
    · refine ⟨by simpa using hcursor, by simpa using hsaved, fun i => ?_⟩
      have : count.toNat = 0 := by omega
      rw [Line.cellAt_deleteChars, this, hcell]
      grind
    · refine ⟨by simpa using hcursor, by simpa using hsaved, fun i => ?_⟩
      rw [Line.cellAt_deleteChars, hcell, hcell, hcursor]
  | carriageReturn width => exact ⟨_, rfl, ⟨rfl, hsaved, hcell⟩⟩
  | backspace width =>
    refine ⟨_, rfl, ⟨?_, hsaved, hcell⟩⟩
    simp only [Line.moveBy, Tape.perform, hcursor]
    omega
  | tab width =>
    -- the tab writes as many spaces as there are columns up to the stop
    have hbehind : l.cursor < Tape.nextStop width l.cursor :=
      (Nat.find_spec (Tape.exists_stop width l.cursor)).1
    obtain ⟨hc, hs, hi⟩ :=
      Line.writeText_replicate (Tape.nextStop width l.cursor - l.cursor) l
    have hrun : l.perform (.tab width) = .ok
        (l.writeText (List.replicate (Tape.nextStop width l.cursor - l.cursor) ' ')) := by
      have hcount : ((Tape.nextStop width l.cursor : Int) - l.cursor).toNat =
          Tape.nextStop width l.cursor - l.cursor := by omega
      rw [Line.perform, Line.control, if_neg (by decide), if_neg (by decide), if_pos rfl,
        TabStops.every_eq_nextStop]
      simp only [Except.map, Line.fillTo, hcount]
    refine ⟨_, hrun, ⟨?_, hs.trans hsaved, fun i => ?_⟩⟩
    · rw [hc]
      simp only [Tape.perform, ← hcursor]
      omega
    · rw [hi, hcell]
      simp only [Tape.perform, ← hcursor]
      exact if_congr (by omega) rfl rfl

/-- **So does any row of operations.** -/
theorem run (h : Shows l t) (es : List Edit) :
    ∃ l', es.foldlM Line.perform l = .ok l' ∧ Shows l' (es.foldl Tape.perform t) := by
  induction es generalizing l t with
  | nil => exact ⟨l, rfl, h⟩
  | cons e es ih =>
    obtain ⟨l₁, hl₁, h₁⟩ := h.perform e
    obtain ⟨l₂, hl₂, h₂⟩ := ih h₁
    refine ⟨l₂, ?_, h₂⟩
    rw [List.foldlM_cons, hl₁]
    exact hl₂

/-- What is left to see of a line that shows a tape: the tape up to its last character that is no
space. -/
theorem visible (h : Shows l t) :
    ∃ n, l.visible = (List.range n).map t.cell ∧ (∀ i, n ≤ i → t.cell i = ' ') ∧
      ∀ m, n = m + 1 → t.cell m ≠ ' ' := by
  have htext : l.toText = (List.range l.length).map t.cell := by
    refine List.ext_getElem (by simp [Line.toText, Line.length]) fun i hi hi' => ?_
    rw [List.getElem_map, List.getElem_range]
    exact h.getElem_cells (by simpa [Line.toText] using hi)
  -- spaces are dropped one by one from where the tape is blank
  have hdrop : ∀ k, (∀ i, k ≤ i → t.cell i = ' ') →
      ∃ n, Text.dropEndWhile (· == ' ') ((List.range k).map t.cell) = (List.range n).map t.cell ∧
        (∀ i, n ≤ i → t.cell i = ' ') ∧ ∀ m, n = m + 1 → t.cell m ≠ ' ' := by
    intro k
    induction k with
    | zero => exact fun hblank => ⟨0, rfl, hblank, fun m hm => by omega⟩
    | succ k ih =>
      intro hblank
      rw [List.range_succ, List.map_append, List.map_singleton, Text.dropEndWhile_concat]
      by_cases hk : t.cell k = ' '
      · rw [if_pos (by rw [hk]; rfl)]
        refine ih fun i hi => ?_
        rcases Nat.eq_or_lt_of_le hi with rfl | hlt
        · exact hk
        · exact hblank i hlt
      · rw [if_neg (by rwa [beq_iff_eq])]
        refine ⟨k + 1, by rw [List.range_succ, List.map_append, List.map_singleton], hblank, ?_⟩
        intro m hm
        obtain rfl : k = m := by omega
        exact hk
  rw [Line.visible, htext]
  exact hdrop l.length fun i hi => h.cell_of_length_le hi

end Shows

/-- **A line is an endless tape.** Whatever is done to a fresh line, with numbers of any size and
sign, comes out as on a tape that was blank: the cursors stand in the same columns, the cells of the
line are those of the tape, behind them the tape is blank, and what is left to see is the tape up to
its last character that is no space. -/
theorem exists_run_shows (es : List Edit) :
    ∃ l, es.foldlM Line.perform Line.empty = .ok l ∧
      l.cursor = (es.foldl Tape.perform Tape.blank).cursor ∧
      l.saved = (es.foldl Tape.perform Tape.blank).saved ∧
      (∀ i (hi : i < l.cells.size), l.cells[i] = (es.foldl Tape.perform Tape.blank).cell i) ∧
      (∀ i, l.length ≤ i → (es.foldl Tape.perform Tape.blank).cell i = ' ') ∧
      ∃ n, l.visible = (List.range n).map (es.foldl Tape.perform Tape.blank).cell ∧
        (∀ i, n ≤ i → (es.foldl Tape.perform Tape.blank).cell i = ' ') ∧
        ∀ m, n = m + 1 → (es.foldl Tape.perform Tape.blank).cell m ≠ ' ' := by
  obtain ⟨l, hl, h⟩ := Shows.empty_blank.run es
  exact ⟨l, hl, h.cursor, h.saved, fun i hi => h.getElem_cells hi,
    fun i hi => h.cell_of_length_le hi, h.visible⟩

end Teletype
