import Teletype.Document.Fault

/-!
# Places in a YAML text

A cursor is what is left of a text, and where that begins: how many characters, how many lines and
how many columns in. A byte order mark takes no column.
-/

namespace Teletype

namespace Yaml

/-- The rest of a text and its place. -/
structure Cursor where
  rest : Text
  /-- The number of characters in the rest. -/
  left : Nat
  index : Nat
  line : Nat
  column : Nat

/-- A character that ends a line. -/
def isBreak (c : Char) : Bool :=
  c == '\n' || c == '\r' || c == '\x85' || c == '\u2028' || c == '\u2029'

/-- A character that ends a word: a space, a tab or the end of a line. -/
def isGap (c : Char) : Bool :=
  c == ' ' || c == '\t' || isBreak c

/-- A character that names are made of. -/
def isNameChar (c : Char) : Bool :=
  c.isAlphanum || c == '-' || c == '_'

namespace Cursor

/-- The start of a text. -/
def start (t : Text) : Cursor := ⟨t, t.length, 0, 0, 0⟩

/-- The character that stands `k` characters on. -/
def peek (c : Cursor) (k : Nat) : Option Char := c.rest[k]?

/-- Whether nothing is left. -/
def atEnd (c : Cursor) : Bool := c.rest.isEmpty

/-- Whether the character `k` characters on satisfies `p`, or nothing stands there. -/
def endOr (c : Cursor) (k : Nat) (p : Char → Bool) : Bool := (c.peek k).all p

/-- Whether the next character satisfies `p`. -/
def next (c : Cursor) (p : Char → Bool) : Bool := (c.peek 0).any p

/-- Steps over one character. -/
def step (c : Cursor) : Cursor :=
  match c.rest with
  | [] => c
  | ch :: r =>
    if isBreak ch then ⟨r, c.left - 1, c.index + 1, c.line + 1, 0⟩
    else if ch = '\ufeff' then ⟨r, c.left - 1, c.index + 1, c.line, c.column⟩
    else ⟨r, c.left - 1, c.index + 1, c.line, c.column + 1⟩

/-- Steps over `n` characters. -/
def skip : Nat → Cursor → Cursor
  | 0, c => c
  | n + 1, c => skip n c.step

/-- Takes the characters that satisfy `p`. -/
def takeWhile (p : Char → Bool) (c : Cursor) : Text × Cursor :=
  let t := c.rest.takeWhile p
  (t, c.skip t.length)

/-- Steps over the characters that satisfy `p`. -/
def skipWhile (p : Char → Bool) (c : Cursor) : Cursor :=
  (c.takeWhile p).2

/-- Takes the end of a line, if it is there: as a text, a line end is a line feed but for the two
separators, which stay. -/
def takeBreak (c : Cursor) : Text × Cursor :=
  match c.rest with
  | ch :: _ =>
    if ch = '\u2028' ∨ ch = '\u2029' then ([ch], c.step)
    else if isBreak ch then (['\n'], c.step)
    else ([], c)
  | [] => ([], c)

/-- Whether a mark that separates documents stands here: three dashes or three points before a
gap. -/
def atMark (c : Cursor) (mark : Char) : Bool :=
  c.peek 0 == some mark && c.peek 1 == some mark && c.peek 2 == some mark && c.endOr 3 isGap

/-- Whether either mark stands here. -/
def atSeparator (c : Cursor) : Bool :=
  c.atMark '-' || c.atMark '.'

/-- Steps over spaces and a comment behind them, which have to reach to the end of the line. -/
def finishLine (c : Cursor) : Except DocumentFault Cursor :=
  let c := c.skipWhile (· == ' ')
  let c := if c.next (· == '#') then c.skipWhile fun ch => !isBreak ch else c
  if c.endOr 0 isBreak then .ok c.takeBreak.2 else .error .malformed

end Cursor

end Yaml

end Teletype
