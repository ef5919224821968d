import Teletype.Control
import Teletype.Text.Quoted

/-!
# A line under a cursor

A `Line` is the row of cells that output has written so far, a cursor and a remembered cursor. The
cursor may stand beyond the last cell: moving it there costs nothing, and the gap is filled with
spaces only when something is written or inserted behind it. Cells that were never written look
like spaces (`cellAt`), so a line can be read as an endless tape: `cellAt_write` and the statements
behind it say what each operation does to it.

Where a count is at most zero the operation does nothing, and where a place would lie before the
first column it is the first column.
-/

namespace Teletype

/-- Cells, a cursor and a remembered cursor; columns count from zero. -/
structure Line where
  cells : Array Char
  cursor : Nat
  saved : Nat
deriving DecidableEq, Repr

namespace Line

/-- The line on which nothing has been written. -/
def empty : Line := ⟨#[], 0, 0⟩

/-- What a reader sees in a column: a space where nothing was written. -/
def cellAt (l : Line) (column : Nat) : Char :=
  (l.cells[column]?).getD ' '

/-- The characters of the cells. -/
def toText (l : Line) : Text :=
  l.cells.toList

/-- How many cells have been written. -/
def length (l : Line) : Nat :=
  l.cells.size

/-- What is left to see of a line: its cells without the spaces at the end. -/
def visible (l : Line) : Text :=
  Text.dropEndWhile (· == ' ') l.toText

/-- A line in a report: its cells in quotes, and the column of the cursor. -/
def describe (l : Line) : Text :=
  "LineBuffer(".toList ++ Text.quote l.toText ++ ", cursor=".toList ++ Text.ofNat l.cursor ++ [')']

/-! ## Writing and moving -/

/-- The cells, with spaces added until there are `n` of them. -/
def padTo (cells : Array Char) (n : Nat) : Array Char :=
  cells ++ Array.replicate (n - cells.size) ' '

/-- Writes a character at the cursor, over what stood there, and steps forward. -/
def write : Line → Char → Line
  | ⟨cells, cursor, saved⟩, c =>
    if h : cursor < cells.size then ⟨cells.set cursor c, cursor + 1, saved⟩
    else ⟨(padTo cells cursor).push c, cursor + 1, saved⟩

/-- Writes the characters of a text one after the other. -/
def writeText (l : Line) (t : Text) : Line :=
  t.foldl write l

/-- Puts the cursor at a column. -/
def moveTo (l : Line) (column : Int) : Line :=
  { l with cursor := column.toNat }

/-- Moves the cursor forward, or backward by a negative distance. -/
def moveBy (l : Line) (distance : Int) : Line :=
  { l with cursor := (l.cursor + distance).toNat }

/-- Remembers the cursor. -/
def save (l : Line) : Line :=
  { l with saved := l.cursor }

/-- Puts the cursor where it was remembered. -/
def restore (l : Line) : Line :=
  { l with cursor := l.saved }

/-! ## Erasing and shifting -/

/-- Removes the cells from the cursor on. -/
def eraseRight (l : Line) : Line :=
  { l with cells := l.cells.extract 0 l.cursor }

/-- Removes the cells up to and under the cursor; the others move to the start of the line, and the
cursor stays. -/
def eraseLeft (l : Line) : Line :=
  { l with cells := l.cells.extract (l.cursor + 1) l.cells.size }

/-- Removes all cells and homes the cursor. -/
def clear (l : Line) : Line :=
  { l with cells := #[], cursor := 0 }

/-- Erases a part of the line: from the cursor (0), up to it (1) or all of it (2). No other number
names a part. -/
def erase (l : Line) (part : Int) : Line :=
  if part = 0 then l.eraseRight
  else if part = 1 then l.eraseLeft
  else if part = 2 then l.clear
  else l

/-- Turns the next `count` cells into spaces. -/
def blankOut : Line → Int → Line
  | ⟨cells, cursor, saved⟩, count =>
    ⟨cells.mapIdx fun i c => if cursor ≤ i ∧ i < cursor + count.toNat then ' ' else c,
      cursor, saved⟩

/-- Inserts `count` spaces at the cursor; what stood there moves right. -/
def insertBlanks (l : Line) (count : Int) : Line :=
  if count ≤ 0 then l
  else
    let cells := padTo l.cells l.cursor
    { l with cells := cells.extract 0 l.cursor ++ Array.replicate count.toNat ' ' ++
        cells.extract l.cursor cells.size }

/-- Removes the next `count` cells; what follows them moves left. -/
def deleteChars (l : Line) (count : Int) : Line :=
  if count ≤ 0 then l
  else { l with cells := l.cells.extract 0 l.cursor ++
      l.cells.extract (l.cursor + count.toNat) l.cells.size }

/-! ## What a reader sees

The operations column by column. Spaces that are added behind the last cell are not seen, so the gap
before the cursor never matters here. -/

theorem size_padTo (cells : Array Char) (n : Nat) : (padTo cells n).size = max cells.size n := by
  rw [padTo, Array.size_append, Array.size_replicate]
  omega

/-- Added spaces are not seen. -/
theorem getElem?_padTo (cells : Array Char) (n i : Nat) :
    ((padTo cells n)[i]?).getD ' ' = (cells[i]?).getD ' ' := by
  rw [padTo, Array.getElem?_append]
  split
  · rfl
  · rename_i h
    have beyond : cells[i]? = none := Array.getElem?_eq_none (by omega)
    rw [Array.getElem?_replicate, beyond]
    split <;> rfl

/-- Writing changes the column under the cursor and no other. -/
theorem cellAt_write (l : Line) (c : Char) (i : Nat) :
    (l.write c).cellAt i = if i = l.cursor then c else l.cellAt i := by
  obtain ⟨cells, cursor, saved⟩ := l
  simp only [write, cellAt]
  split
  · rename_i h
    simp only [Array.getElem?_set]
    grind
  · rename_i h
    have hsize : (padTo cells cursor).size = cursor := by rw [size_padTo]; omega
    simp only [Array.getElem?_push, hsize]
    split
    · rfl
    · exact getElem?_padTo cells cursor i

theorem cellAt_eraseRight (l : Line) (i : Nat) :
    l.eraseRight.cellAt i = if i < l.cursor then l.cellAt i else ' ' := by
  simp only [eraseRight, cellAt, Array.getElem?_extract]
  grind

/-- Erasing up to the cursor moves all later columns to the start. -/
theorem cellAt_eraseLeft (l : Line) (i : Nat) :
    l.eraseLeft.cellAt i = l.cellAt (l.cursor + 1 + i) := by
  simp only [eraseLeft, cellAt, Array.getElem?_extract]
  grind

theorem cellAt_clear (l : Line) (i : Nat) : l.clear.cellAt i = ' ' := rfl

theorem cellAt_blankOut (l : Line) (count : Int) (i : Nat) :
    (l.blankOut count).cellAt i =
      if l.cursor ≤ i ∧ i < l.cursor + count.toNat then ' ' else l.cellAt i := by
  obtain ⟨cells, cursor, saved⟩ := l
  simp only [blankOut, cellAt, Array.getElem?_mapIdx]
  cases cells[i]? with
  | none => split <;> rfl
  | some c => simp only [Option.map_some, Option.getD_some]

/-- Inserted spaces push the columns from the cursor on to the right. -/
theorem cellAt_insertBlanks (l : Line) (count : Int) (i : Nat) :
    (l.insertBlanks count).cellAt i =
      if i < l.cursor then l.cellAt i
      else if i < l.cursor + count.toNat then ' '
      else l.cellAt (i - count.toNat) := by
  unfold insertBlanks
  split
  · rename_i h
    have : count.toNat = 0 := by omega
    rw [this]
    grind
  · rename_i h
    have hsize := size_padTo l.cells l.cursor
    have hcell := getElem?_padTo l.cells l.cursor
    simp only [cellAt, Array.getElem?_append, Array.getElem?_extract, Array.getElem?_replicate,
      Array.size_append, Array.size_extract, Array.size_replicate, ← hcell]
    grind

/-- Removed cells pull the columns behind them to the left. -/
theorem cellAt_deleteChars (l : Line) (count : Int) (i : Nat) :
    (l.deleteChars count).cellAt i =
      if i < l.cursor then l.cellAt i else l.cellAt (i + count.toNat) := by
  unfold deleteChars
  split
  · rename_i h
    have : count.toNat = 0 := by omega
    rw [this]
    grind
  · rename_i h
    simp only [cellAt, Array.getElem?_append, Array.getElem?_extract, Array.size_extract]
    grind

end Line

end Teletype
