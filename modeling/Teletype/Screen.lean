import Teletype.Token

/-!
# Rendered output

What a reader would have seen. Raw output is cut at line feeds, and each piece is replayed on a line
of its own: escape sequences and the three cursor controls move about in it, printable characters
are written at the cursor, other controls do nothing. The lines that result are joined by `lineEnd`,
a carriage return and a line feed, without the spaces at their ends.

Tab stops are a function from a column to the stop after it (`TabStops`), so that a rule other than
one stop every so many columns can be used as well.
-/

namespace Teletype

/-- Why a text cannot be rendered. -/
inductive RenderFault where
  /-- An escape sequence has a parameter with too many digits. -/
  | overlong (e : Overlong)
  /-- A tab was met, and tab stops are zero columns apart. -/
  | zeroTabWidth
  /-- Tab stops less than one column apart were asked for. -/
  | tabWidth (width : Int)
  /-- A tab was met, and its stop is infinitely far. Spaces are written on and on: rendering does
  not end, and neither does whatever asked for it. Nothing that is done about this fault is ever
  reached. -/
  | endless
deriving DecidableEq, Repr

/-- The text that reports a fault of rendering. What does not end is never reported. -/
def RenderFault.message : RenderFault → String
  | overlong e => e.message
  | zeroTabWidth => "integer division or modulo by zero"
  | tabWidth width => s!"tab_size must be >= 1, got {width}"
  | endless => ""

/-- The column of the tab stop after a column. -/
abbrev TabStops := Nat → Except RenderFault Int

namespace TabStops

/-- The usual distance of tab stops. -/
def usual : Int := 8

/-- A tab stop every `width` columns, which is the least multiple of `width` beyond the column when
`width` is positive. -/
def every (width : Int) : TabStops := fun column =>
  if width = 0 then .error .zeroTabWidth
  else .ok ((Int.fdiv column width + 1) * width)

/-- A tab stop every `width` columns, for a `width` of at least one. -/
def every? (width : Int) : Except RenderFault TabStops :=
  if width < 1 then .error (.tabWidth width) else .ok (every width)

end TabStops

namespace Line

/-- Writes spaces up to a column. -/
def fillTo (l : Line) (column : Int) : Line :=
  l.writeText (List.replicate (column - l.cursor).toNat ' ')

/-- Whether a control character moves the cursor. -/
def isCursorControl (c : Char) : Bool :=
  decide (c = Control.carriageReturn ∨ c = Control.backspace ∨ c = Control.tab)

/-- Obeys a control character: a carriage return homes the cursor, a backspace steps back, and a
tab writes spaces up to the next stop. The others do nothing. -/
def control (stops : TabStops) (l : Line) (c : Char) : Except RenderFault Line :=
  if c = Control.carriageReturn then .ok (l.moveTo 0)
  else if c = Control.backspace then .ok (l.moveBy (-1))
  else if c = Control.tab then (stops l.cursor).map l.fillTo
  else .ok l

/-- Obeys one token. -/
def obey (stops : TabStops) (l : Line) : Token → Except RenderFault Line
  | .char c => if Control.isControl c then l.control stops c else .ok (l.write c)
  | .sequence _ e => .ok (e.apply l)
  | .unreadable x => .error (.overlong x)

/-- Replays raw output on a line. -/
def replay (stops : TabStops) (l : Line) (t : Text) : Except RenderFault Line :=
  (Token.scan t).foldlM (obey stops) l

end Line

namespace Screen

/-- What stands between two rendered lines. -/
def lineEnd : Text := ['\r', '\n']

/-- What a reader sees of one line of raw output. -/
def renderLine (stops : TabStops) (t : Text) : Except RenderFault Text :=
  (Line.empty.replay stops t).map Line.visible

/-- What a reader sees of raw output. -/
def render (stops : TabStops) (t : Text) : Except RenderFault Text :=
  (t.lines.mapM (renderLine stops)).map lineEnd.intercalate

/-- What a reader sees of raw output, with a tab stop every `width` columns. -/
def normalize (width : Int) (t : Text) : Except RenderFault Text :=
  TabStops.every? width >>= fun stops => render stops t

/-- The same for output that may be absent, which it stays; the width is looked at first. -/
def normalize? (width : Int) (t : Option Text) : Except RenderFault (Option Text) :=
  TabStops.every? width >>= fun stops => t.mapM (render stops)

end Screen

end Teletype
