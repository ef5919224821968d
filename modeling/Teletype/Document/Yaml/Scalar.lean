import Teletype.Document.Json
import Teletype.Document.Yaml.Cursor
import Teletype.Text.Utf8

/-!
# Scalars of a YAML text

A scalar is written plainly, in quotes, or as a block. Lines inside a plain or quoted scalar are
folded: a single line end becomes a space, and of several all but the first stay. A block keeps its
lines, or folds those that begin with no space, and its header says what happens to the line ends at
its end.

Each reader starts at the first character of its scalar and returns the text and the place behind
it. The argument `fuel` bounds the number of lines or pieces, of which a scalar has no more than it
has characters.
-/

namespace Teletype

namespace Yaml

/-- A text and the place behind it. -/
abbrev Scanned := Except DocumentFault (Text × Cursor)

/-- The text of folded line ends: `first` is the first of them, `others` those that follow. -/
def folded (first others : Text) : Text :=
  (if first ≠ ['\n'] then first else if others.isEmpty then [' '] else []) ++ others

/-! ## Plain scalars -/

/-- The line ends behind the first one of a gap in a plain scalar; none where a separator of
documents follows one of them. -/
def plainBreaks : (fuel : Nat) → Cursor → Option Text × Cursor
  | 0, c => (some [], c)
  | fuel + 1, c =>
    if c.next (· == ' ') then plainBreaks fuel c.step
    else if c.next isBreak then
      let (b, c) := c.takeBreak
      if c.atSeparator then (none, c)
      else
        let (bs, c) := plainBreaks fuel c
        (bs.map (b ++ ·), c)
    else (some [], c)

/-- The gap behind a word of a plain scalar: the text that it stands for (none where the scalar
ends with it), whether it crosses a line, and the place behind it. -/
def plainGap (c : Cursor) : Option Text × Bool × Cursor :=
  let (spaces, c) := c.takeWhile (· == ' ')
  if c.next isBreak then
    let (first, c) := c.takeBreak
    if c.atSeparator then (none, true, c)
    else
      let (others, c) := plainBreaks (c.left + 1) c
      (others.map (folded first), true, c)
  else (if spaces.isEmpty then none else some spaces, false, c)

/-- Whether a plain scalar ends before the character `k` characters on. -/
def endsPlain (inFlow : Bool) (c : Cursor) (k : Nat) : Bool :=
  match c.peek k with
  | none => true
  | some ch =>
    isGap ch ||
      (ch == ':' &&
        c.endOr (k + 1) fun n => isGap n || (inFlow && ",[]\x7b\x7d".toList.contains n)) ||
      (inFlow && ",?[]\x7b\x7d".toList.contains ch)

/-- The length of a word of a plain scalar, from `k` on. -/
def plainLength (inFlow : Bool) (c : Cursor) : (fuel k : Nat) → Nat
  | 0, k => k
  | fuel + 1, k => if endsPlain inFlow c k then k else plainLength inFlow c fuel (k + 1)

/-- Reads a plain scalar whose lines lie at least at the column `indent`: its text, whether the gap
behind its last word crosses a line, and the place behind that gap. `gap` is the text between the
word before and the next one, and `crossed` whether that gap crosses a line. -/
def plain (inFlow : Bool) (indent : Int) : (fuel : Nat) → (gap : Text) → (crossed : Bool) →
    Cursor → Text × Bool × Cursor
  | 0, _, crossed, c => ([], crossed, c)
  | fuel + 1, gap, crossed, c =>
    let n := if c.next (· == '#') then 0 else plainLength inFlow c c.left 0
    if n = 0 then ([], crossed, c)
    else
      let word := c.rest.take n
      match plainGap (c.skip n) with
      | (none, crosses, c) => (gap ++ word, crosses, c)
      | (some next, crosses, c) =>
        if c.next (· == '#') || (!inFlow && decide ((c.column : Int) < indent)) then
          (gap ++ word, crosses, c)
        else
          let (t, last, c) := plain inFlow indent fuel next crosses c
          (gap ++ word ++ t, last, c)

/-! ## Quoted scalars -/

/-- The character of a short escape in double quotes. -/
def shortEscape? : Char → Option Char
  | '0' => some '\x00'
  | 'a' => some '\x07'
  | 'b' => some '\x08'
  | 't' => some '\t'
  | '\t' => some '\t'
  | 'n' => some '\n'
  | 'v' => some '\x0b'
  | 'f' => some '\x0c'
  | 'r' => some '\r'
  | 'e' => some '\x1b'
  | ' ' => some ' '
  | '\x22' => some '\x22'
  | '\\' => some '\\'
  | '/' => some '/'
  | 'N' => some '\x85'
  | '_' => some '\xa0'
  | 'L' => some '\u2028'
  | 'P' => some '\u2029'
  | _ => none

/-- How many hexadecimal digits a long escape has. -/
def escapeDigits? : Char → Option Nat
  | 'x' => some 2
  | 'u' => some 4
  | 'U' => some 8
  | _ => none

/-- The number that a row of hexadecimal digits stands for. -/
def hexNumber? (t : Text) : Option Nat :=
  (t.mapM Json.hexDigit?).map fun ds => ds.foldl (fun n d => 16 * n + d) 0

/-- The line ends behind the first one of a gap in a quoted scalar, and the blanks among them. -/
def quotedBreaks : (fuel : Nat) → Cursor → Scanned
  | 0, _ => .error .malformed
  | fuel + 1, c =>
    if c.atSeparator then .error .malformed
    else
      let c := c.skipWhile fun ch => ch == ' ' || ch == '\t'
      if c.next isBreak then do
        let (b, c) := c.takeBreak
        let (bs, c) ← quotedBreaks fuel c
        return (b ++ bs, c)
      else return ([], c)

/-- A gap in a quoted scalar. -/
def quotedGap (c : Cursor) : Scanned :=
  let (blanks, c) := c.takeWhile fun ch => ch == ' ' || ch == '\t'
  if c.atEnd then .error .malformed
  else if c.next isBreak then do
    let (first, c) := c.takeBreak
    let (others, c) ← quotedBreaks (c.left + 1) c
    return (folded first others, c)
  else .ok (blanks, c)

/-- The number that a long escape of `n` digits gives, from its letter on. -/
def escapeCode (n : Nat) (c : Cursor) : Except DocumentFault (Nat × Cursor) :=
  let digits := (c.rest.drop 1).take n
  match hexNumber? digits with
  | none => .error .malformed
  | some code =>
    if digits.length < n then .error .malformed
    else if 0x110000 ≤ code then .error .noCharacter
    else .ok (code, c.skip (n + 1))

/-- Whether a number is the first half of a pair that stands for one character. -/
def isFirstHalf (code : Nat) : Bool := decide (0xd800 ≤ code ∧ code < 0xdc00)

/-- Whether a number is the second half of such a pair. -/
def isSecondHalf (code : Nat) : Bool := decide (0xdc00 ≤ code ∧ code < 0xe000)

/-- The second half of a pair, if an escape with one stands here. -/
def secondHalf? (c : Cursor) : Option (Nat × Cursor) :=
  match c.peek 0, (c.peek 1).bind escapeDigits? with
  | some '\\', some n =>
    match escapeCode n c.step with
    | .ok (code, c) => if isSecondHalf code then some (code, c) else none
    | .error _ => none
  | _, _ => none

/-- The character of a long escape. Two halves that follow each other make one character; a half
that stands alone makes none. -/
def longEscape (n : Nat) (c : Cursor) : Scanned := do
  let (code, c) ← escapeCode n c
  if isFirstHalf code then
    match secondHalf? c with
    | some (second, c) =>
      return ([Char.ofNat (0x10000 + (code - 0xd800) * 0x400 + (second - 0xdc00))], c)
    | none => return (['\ufffd'], c)
  else return ([if code.isValidChar then Char.ofNat code else '\ufffd'], c)

/-- What a backslash in double quotes stands for, from the character behind it. -/
def escape (c : Cursor) : Scanned :=
  match c.peek 0 with
  | none => .error .malformed
  | some ch =>
    match shortEscape? ch, escapeDigits? ch with
    | some e, _ => .ok ([e], c.step)
    | none, some n => longEscape n c
    | none, none =>
      if isBreak ch then quotedBreaks (c.left + 1) c.takeBreak.2 else .error .malformed

/-- Reads what stands between quotes of the kind `mark`, and the quote behind it. -/
def quoted (mark : Char) : (fuel : Nat) → Cursor → Scanned
  | 0, _ => .error .malformed
  | fuel + 1, c =>
    match c.peek 0 with
    | none => .error .malformed
    | some ch =>
      if ch = mark then
        if mark = '\x27' ∧ c.peek 1 = some mark then do
          let (t, c) ← quoted mark fuel (c.skip 2)
          return (mark :: t, c)
        else .ok ([], c.step)
      else do
        let (front, c) ←
          if isGap ch then quotedGap c
          else if mark = '\x22' ∧ ch = '\\' then escape c.step
          else .ok ([ch], c.step)
        let (t, c) ← quoted mark fuel c
        return (front ++ t, c)

/-! ## Blocks -/

/-- What a block does with the line ends at its end. -/
inductive Chomping where
  /-- The first one stays. -/
  | clip
  /-- All stay. -/
  | keep
  /-- None stays. -/
  | strip
deriving DecidableEq, Repr

/-- Reads the sign in a header. -/
def chomping? (c : Cursor) : Option (Chomping × Cursor) :=
  match c.peek 0 with
  | some '+' => some (.keep, c.step)
  | some '-' => some (.strip, c.step)
  | _ => none

/-- Reads the digit in a header, which says how far a block is indented. -/
def indentation? (c : Cursor) : Except DocumentFault (Option (Nat × Cursor)) :=
  match c.peek 0 with
  | some ch =>
    if ch = '0' then .error .malformed
    else if Text.isAsciiDigit ch then .ok (some (ch.toNat - 48, c.step))
    else .ok none
  | none => .ok none

/-- Reads the header of a block behind its first character: a sign and a digit in either order, or
one of them, or none. -/
def blockHeader (c : Cursor) : Except DocumentFault (Chomping × Option Nat × Cursor) := do
  let (ch, n, c) ← match chomping? c with
    | some (ch, c) => do
      match ← indentation? c with
      | some (n, c) => pure (ch, some n, c)
      | none => pure (ch, none, c)
    | none => do
      match ← indentation? c with
      | some (n, c) =>
        match chomping? c with
        | some (ch, c) => pure (ch, some n, c)
        | none => pure (.clip, some n, c)
      | none => pure (.clip, none, c)
  if c.endOr 0 fun ch => ch == ' ' || isBreak ch then return (ch, n, c) else .error .malformed

/-- The empty lines at the front of a block whose indentation is not given, and the furthest column
that its spaces reach. -/
def leadingBreaks : (fuel deepest : Nat) → Cursor → Text × Nat × Cursor
  | 0, deepest, c => ([], deepest, c)
  | fuel + 1, deepest, c =>
    if c.next (· == ' ') then leadingBreaks fuel (max deepest c.step.column) c.step
    else if c.next isBreak then
      let (b, c) := c.takeBreak
      let (bs, deepest, c) := leadingBreaks fuel deepest c
      (b ++ bs, deepest, c)
    else ([], deepest, c)

/-- Steps over spaces up to the column `indent`. -/
def indentTo (indent : Nat) : (fuel : Nat) → Cursor → Cursor
  | 0, c => c
  | fuel + 1, c =>
    if c.column < indent && c.next (· == ' ') then indentTo indent fuel c.step else c

/-- The empty lines between lines of a block. -/
def blockBreaks (indent : Nat) : (fuel : Nat) → Cursor → Text × Cursor
  | 0, c => ([], c)
  | fuel + 1, c =>
    let c := indentTo indent indent c
    if c.next isBreak then
      let (b, c) := c.takeBreak
      let (bs, c) := blockBreaks indent fuel c
      (b ++ bs, c)
    else ([], c)

/-- Reads the lines of a block; `breaks` are the empty lines before the next one. The result ends
with the end of the last line and the empty lines behind it, apart. -/
def blockLines (folds : Bool) (indent : Nat) : (fuel : Nat) → (breaks : Text) → Cursor →
    Text × Text × Text × Cursor
  | 0, breaks, c => ([], [], breaks, c)
  | fuel + 1, breaks, c =>
    if c.column = indent ∧ !c.atEnd then
      let isFlush := !c.next fun ch => ch == ' ' || ch == '\t'
      let (line, c) := c.takeWhile fun ch => !isBreak ch
      let (lineEnd, c) := c.takeBreak
      let (after, c) := blockBreaks indent (c.left + 1) c
      if c.column = indent ∧ !c.atEnd then
        let joint :=
          if folds && lineEnd == ['\n'] && isFlush &&
              !c.next (fun ch => ch == ' ' || ch == '\t') then
            if after.isEmpty then [' '] else []
          else lineEnd
        let (more, lineEnd, after, c) := blockLines folds indent fuel after c
        (breaks ++ line ++ joint ++ more, lineEnd, after, c)
      else (breaks ++ line, lineEnd, after, c)
    else ([], [], breaks, c)

/-- Reads a block from behind its first character; `outer` is the indentation around it. -/
def block (folds : Bool) (outer : Int) (c : Cursor) : Scanned := do
  let (chomping, increment, c) ← blockHeader c
  let c ← c.finishLine
  let least := (max 1 (outer + 1)).toNat
  let fuel := c.left + 1
  let (breaks, indent, c) := match increment with
    | none =>
      let (breaks, deepest, c) := leadingBreaks fuel 0 c
      (breaks, max least deepest, c)
    | some n =>
      let indent := least + n - 1
      let (breaks, c) := blockBreaks indent fuel c
      (breaks, indent, c)
  let (text, lineEnd, after, c) := blockLines folds indent fuel breaks c
  return match chomping with
    | .strip => (text, c)
    | .clip => (text ++ lineEnd, c)
    | .keep => (text ++ lineEnd ++ after, c)

/-! ## Tags -/

/-- A character that a tag is made of. -/
def isTagChar (c : Char) : Bool :=
  c.isAlphanum || "-;/?:@&=+$,_.!~*\x27()[]".toList.contains c

/-- The bytes of a row of escapes in a tag. -/
def tagBytes : (fuel : Nat) → Cursor → Except DocumentFault (List UInt8 × Cursor)
  | 0, _ => .error .malformed
  | fuel + 1, c =>
    if c.next (· == '%') then
      let digits := (c.rest.drop 1).take 2
      match hexNumber? digits with
      | none => .error .malformed
      | some n =>
        if digits.length < 2 then .error .malformed
        else do
          let (bs, c) ← tagBytes fuel (c.skip 3)
          return (UInt8.ofNat n :: bs, c)
    else .ok ([], c)

/-- Reads the characters and escapes of a tag, of which there may be none. -/
def tagText : (fuel : Nat) → Cursor → Scanned
  | 0, c => .ok ([], c)
  | fuel + 1, c => do
    let (t, c) := c.takeWhile isTagChar
    if c.next (· == '%') then
      let (bytes, c) ← tagBytes (c.left + 1) c
      match Utf8.decode bytes with
      | .error _ => .error .malformed
      | .ok e =>
        let (more, c) ← tagText fuel c
        return (t ++ e ++ more, c)
    else return (t, c)

/-- Reads the characters and escapes of a tag, of which there must be some. -/
def tagUri (c : Cursor) : Scanned := do
  let (t, c') ← tagText (c.left + 1) c
  if c'.index = c.index then .error .malformed else return (t, c')

/-- Reads a handle: an exclamation mark alone, or a name between two of them. -/
def tagHandle (c : Cursor) : Scanned :=
  if !c.next (· == '!') then .error .malformed
  else if c.peek 1 == some ' ' then .ok (['!'], c.step)
  else
    let (name, after) := c.step.takeWhile isNameChar
    if after.next (· == '!') then .ok ('!' :: name ++ ['!'], after.step)
    else .error .malformed

end Yaml

end Teletype
