import Teletype.Document.Yaml.Scalar

/-!
# Tokens of a YAML text

The parts of a document in the order in which they stand, with the beginnings and ends of blocks
made explicit. A block begins where a key or a dash stands further in than all blocks around it, and
ends before the first thing that stands further out. A key need not be marked as one: what stands
before a colon on the same line is a key, and its token is put in front of it when the colon is met
(`Layout.colon`). Until then it is a *candidate*; one that has to be a key, because it stands at the
indentation of its block, and is not followed by a colon in time, makes the text malformed.

The text is read no further than is needed to say what the next token is (`Layout.settle`): what
cannot be read further on does not matter where the tokens before it do not fit together.
-/

namespace Teletype

namespace Yaml

/-- What a directive says: the version of the notation, or what a handle stands for. -/
inductive Directive where
  | version (major : Nat)
  | handle (name meaning : Text)
  | other
deriving DecidableEq, Repr

/-- A part of a document. -/
inductive Token where
  | directive (d : Directive)
  | documentStart
  | documentEnd
  | blockListStart
  | blockMapStart
  | blockEnd
  | flowListStart
  | flowListEnd
  | flowMapStart
  | flowMapEnd
  | dash
  | comma
  | key
  | colon
  | anchor (name : Text)
  | alias (name : Text)
  | tag (handle : Option Text) (suffix : Text)
  | scalar (isPlain : Bool) (t : Text)
deriving DecidableEq, Repr

/-- What may turn out to be a key. -/
structure Candidate where
  /-- How many tokens stand before it. -/
  position : Nat
  /-- Whether it has to be a key. -/
  required : Bool
  index : Nat
  line : Nat
  column : Nat

/-- The state of reading: where, what was found, and the blocks and lists around. -/
structure Layout where
  cursor : Cursor
  /-- How many tokens were taken. -/
  taken : Nat
  /-- The tokens that were found and not taken. -/
  found : List Token
  /-- Whether all of the text was read. -/
  isDone : Bool
  /-- The column of the innermost block; below zero outside all blocks. -/
  indent : Int
  /-- The columns of the blocks around it. -/
  outer : List Int
  /-- The candidate outside all brackets, behind those of the brackets around, innermost first. -/
  candidates : List (Option Candidate)
  /-- Whether a candidate, a dash or a key may stand here. -/
  keyAllowed : Bool

namespace Layout

/-- The state at the start of a text. -/
def start (t : Text) : Layout := ⟨Cursor.start t, 0, [], false, -1, [], [none], true⟩

/-- Whether brackets stand around. -/
def inFlow (l : Layout) : Bool := 1 < l.candidates.length

/-- How many tokens stand before the next one. -/
def position (l : Layout) : Nat := l.taken + l.found.length

/-- Adds a token. -/
def add (l : Layout) (t : Token) : Layout := { l with found := l.found ++ [t] }

/-- Adds a token and goes on at a place. -/
def push (l : Layout) (t : Token) (c : Cursor) : Layout := { l.add t with cursor := c }

/-- Puts a token to a position behind those that were taken. -/
def insert (l : Layout) (position : Nat) (t : Token) : Layout :=
  { l with found := l.found.insertIdx (position - l.taken) t }

/-- Whether a candidate is too far away to be followed by its colon. -/
def isStale (c : Cursor) (k : Candidate) : Bool :=
  k.line != c.line || decide (1024 < c.index - k.index)

/-- Gives up the candidates that are too far away. -/
def dropStale (l : Layout) : Except DocumentFault Layout :=
  if l.candidates.any fun k => k.any fun k => isStale l.cursor k && k.required then
    .error .malformed
  else
    .ok { l with candidates := l.candidates.map fun k => k.filter fun k => !isStale l.cursor k }

/-- Gives up the innermost candidate. -/
def dropCandidate (l : Layout) : Except DocumentFault Layout :=
  match l.candidates with
  | some k :: ks =>
    if k.required then .error .malformed else .ok { l with candidates := none :: ks }
  | _ => .ok l

/-- Makes what stands here a candidate, where one may stand. -/
def addCandidate (l : Layout) : Except DocumentFault Layout :=
  if l.keyAllowed then do
    let required := !l.inFlow && decide (l.indent = l.cursor.column)
    let l ← l.dropCandidate
    return { l with candidates := some ⟨l.position, required, l.cursor.index, l.cursor.line,
      l.cursor.column⟩ :: l.candidates.drop 1 }
  else .ok l

/-- Ends the blocks that stand further in than a column. -/
def unwind (column : Int) : (fuel : Nat) → Layout → Layout
  | 0, l => l
  | fuel + 1, l =>
    if l.indent ≤ column then l
    else
      unwind column fuel
        { l.add .blockEnd with indent := l.outer.headD (-1), outer := l.outer.drop 1 }

/-- Ends the blocks that stand further in than a column; brackets hold no blocks. -/
def unwindTo (column : Int) (l : Layout) : Layout :=
  if l.inFlow then l else unwind column (l.outer.length + 1) l

/-- Begins a block at a column, if that is further in; its token goes to a position. -/
def beginBlock (column : Int) (position : Nat) (t : Token) (l : Layout) : Layout :=
  if l.indent < column then
    { l.insert position t with indent := column, outer := l.indent :: l.outer }
  else l

/-- Steps over spaces, comments and line ends; behind a line end a candidate may stand. -/
def skipGaps : (fuel : Nat) → Layout → Layout
  | 0, l => l
  | fuel + 1, l =>
    let c := l.cursor.skipWhile (· == ' ')
    let c := if c.next (· == '#') then c.skipWhile fun ch => !isBreak ch else c
    if c.next isBreak then
      skipGaps fuel { l with cursor := c.takeBreak.2, keyAllowed := l.keyAllowed || !l.inFlow }
    else { l with cursor := c }

/-- Goes to what stands next; a byte order mark may stand at the start of a text. -/
def toNext (l : Layout) : Layout :=
  let l := if l.cursor.index = 0 ∧ l.cursor.peek 0 = some '\ufeff' then
    { l with cursor := l.cursor.step } else l
  skipGaps (l.cursor.left + 1) l

/-! ## The parts of a document -/

/-- Reads a number of a version. -/
def versionNumber (c : Cursor) : Except DocumentFault (Nat × Cursor) :=
  let (ds, c) := c.takeWhile Text.isAsciiDigit
  if ds.isEmpty then .error .malformed
  else match Numeral.read (Numeral.digitValues ds) with
    | .ok n => .ok (n, c)
    | .error e => .error (.overlong e)

/-- Reads a directive from behind its percent sign. -/
def directive (c : Cursor) : Except DocumentFault (Directive × Cursor) := do
  let endsWord (c : Cursor) : Bool := c.endOr 0 fun ch => ch == ' ' || isBreak ch
  let (name, c) := c.takeWhile isNameChar
  if name.isEmpty || !endsWord c then .error .malformed
  else if name = "YAML".toList then
    let (major, c) ← versionNumber (c.skipWhile (· == ' '))
    if !c.next (· == '.') then .error .malformed
    else
      let (_, c) ← versionNumber c.step
      if endsWord c then return (.version major, ← c.finishLine) else .error .malformed
  else if name = "TAG".toList then
    let (handle, c) ← tagHandle (c.skipWhile (· == ' '))
    if !c.next (· == ' ') then .error .malformed
    else
      let (meaning, c) ← tagUri (c.skipWhile (· == ' '))
      if endsWord c then return (.handle handle meaning, ← c.finishLine) else .error .malformed
  else return (.other, ← (c.skipWhile fun ch => !isBreak ch).finishLine)

/-- Reads the name of an anchor or an alias from behind its sign. -/
def name (c : Cursor) : Scanned :=
  let (t, c) := c.takeWhile isNameChar
  if t.isEmpty || !c.endOr 0 fun ch => isGap ch || "?:,]\x7d%@\x60".toList.contains ch then
    .error .malformed
  else .ok (t, c)

/-- Whether an exclamation mark stands in the word that begins here. -/
def hasMark : Text → Bool
  | [] => false
  | ch :: r => if ch = ' ' ∨ isBreak ch then false else ch == '!' || hasMark r

/-- Reads a tag, which begins with an exclamation mark. -/
def tag (c : Cursor) : Except DocumentFault (Token × Cursor) := do
  let (t, c) ←
    if c.peek 1 == some '<' then do
      let (uri, c) ← tagUri (c.skip 2)
      if c.next (· == '>') then pure (Token.tag none uri, c.step) else .error .malformed
    else if c.endOr 1 isGap then pure (.tag none ['!'], c.step)
    else do
      let (handle, c) ← if hasMark (c.rest.drop 1) then tagHandle c else pure (['!'], c.step)
      let (suffix, c) ← tagUri c
      pure (.tag (some handle) suffix, c)
  if c.endOr 0 fun ch => ch == ' ' || isBreak ch then return (t, c) else .error .malformed

/-- Reads a mark outside all blocks. -/
def mark (l : Layout) (read : Cursor → Except DocumentFault (Token × Cursor)) :
    Except DocumentFault Layout := do
  let l ← (unwindTo (-1) l).dropCandidate
  let (t, c) ← read l.cursor
  return { l.push t c with keyAllowed := false }

/-- Opens a bracket. -/
def openBracket (l : Layout) (t : Token) : Except DocumentFault Layout := do
  let l ← l.addCandidate
  return { l.push t l.cursor.step with candidates := none :: l.candidates, keyAllowed := true }

/-- Closes a bracket. -/
def closeBracket (l : Layout) (t : Token) : Except DocumentFault Layout := do
  let l ← l.dropCandidate
  if l.inFlow then
    return { l.push t l.cursor.step with candidates := l.candidates.drop 1, keyAllowed := false }
  else .error .malformed

/-- Reads a comma between brackets. -/
def comma (l : Layout) : Except DocumentFault Layout := do
  let l ← l.dropCandidate
  return { l.push .comma l.cursor.step with keyAllowed := true }

/-- Begins a block at the cursor for a token that may only stand where a candidate may. -/
def beginHere (l : Layout) (t : Token) : Except DocumentFault Layout :=
  if l.inFlow then .ok l
  else if l.keyAllowed then .ok (l.beginBlock l.cursor.column l.position t)
  else .error .malformed

/-- Reads the dash of an item. -/
def dash (l : Layout) : Except DocumentFault Layout := do
  let l ← (← l.beginHere .blockListStart).dropCandidate
  return { l.push .dash l.cursor.step with keyAllowed := true }

/-- Reads the mark of a key. -/
def questionMark (l : Layout) : Except DocumentFault Layout := do
  let l ← (← l.beginHere .blockMapStart).dropCandidate
  return { l.push .key l.cursor.step with keyAllowed := !l.inFlow }

/-- Reads a colon. If there is a candidate it is the key: its token goes in front of it, and so does
the beginning of a block, if it stands further in than the block around. -/
def colon (l : Layout) : Except DocumentFault Layout :=
  match l.candidates with
  | some k :: ks =>
    let l := { l.insert k.position .key with candidates := none :: ks }
    let l := if l.inFlow then l else l.beginBlock k.column k.position .blockMapStart
    .ok { l.push .colon l.cursor.step with keyAllowed := false }
  | _ => do
    let l ← (← l.beginHere .blockMapStart).dropCandidate
    return { l.push .colon l.cursor.step with keyAllowed := !l.inFlow }

/-- Reads something that can be a key on its own. -/
def item (l : Layout) (read : Cursor → Except DocumentFault (Token × Bool × Cursor)) :
    Except DocumentFault Layout := do
  let l ← l.addCandidate
  let (t, crosses, c) ← read l.cursor
  return { l.push t c with keyAllowed := crosses }

/-- Reads a block scalar. -/
def blockScalar (l : Layout) (folds : Bool) : Except DocumentFault Layout := do
  let l ← l.dropCandidate
  let (t, c) ← block folds l.indent l.cursor.step
  return { l.push (.scalar false t) c with keyAllowed := true }

/-- Whether a plain scalar begins here. -/
def beginsPlain (l : Layout) (ch : Char) : Bool :=
  !(isGap ch || "-?:,[]\x7b\x7d#&*!|>\x27\x22%@\x60".toList.contains ch) ||
    (!l.cursor.endOr 1 isGap && (ch == '-' || (!l.inFlow && (ch == '?' || ch == ':'))))

/-- Reads what begins with a character. -/
def token (l : Layout) (ch : Char) : Except DocumentFault Layout :=
  let c := l.cursor
  let beforeGap := c.endOr 1 isGap
  if ch = '%' ∧ c.column = 0 then
    l.mark fun c => (directive c.step).map fun (d, c) => (.directive d, c)
  else if c.column = 0 ∧ c.atMark '-' then l.mark fun c => .ok (.documentStart, c.skip 3)
  else if c.column = 0 ∧ c.atMark '.' then l.mark fun c => .ok (.documentEnd, c.skip 3)
  else if ch = '[' then l.openBracket .flowListStart
  else if ch = '\x7b' then l.openBracket .flowMapStart
  else if ch = ']' then l.closeBracket .flowListEnd
  else if ch = '\x7d' then l.closeBracket .flowMapEnd
  else if ch = ',' then l.comma
  else if ch = '-' ∧ beforeGap then l.dash
  else if ch = '?' ∧ (l.inFlow ∨ beforeGap) then l.questionMark
  else if ch = ':' ∧ (l.inFlow ∨ beforeGap) then l.colon
  else if ch = '*' then l.item fun c => (name c.step).map fun (t, c) => (.alias t, false, c)
  else if ch = '&' then l.item fun c => (name c.step).map fun (t, c) => (.anchor t, false, c)
  else if ch = '!' then l.item fun c => (tag c).map fun (t, c) => (t, false, c)
  else if ch = '|' ∧ !l.inFlow then l.blockScalar false
  else if ch = '>' ∧ !l.inFlow then l.blockScalar true
  else if ch = '\x27' ∨ ch = '\x22' then
    l.item fun c => (quoted ch (c.left + 1) c.step).map fun (t, c) =>
      (.scalar false t, false, c)
  else if l.beginsPlain ch then
    l.item fun c =>
      let (t, crosses, c) := plain l.inFlow (l.indent + 1) (c.left + 1) [] false c
      .ok (.scalar true t, crosses, c)
  else .error .malformed

/-- Reads on up to what stands next, and reads that: one token, and the ends of blocks before it. At
the end of the text all blocks end. -/
def fetch (l : Layout) : Except DocumentFault Layout := do
  let l ← l.toNext.dropStale
  let l := l.unwindTo l.cursor.column
  match l.cursor.peek 0 with
  | some ch => l.token ch
  | none =>
    let l ← (l.unwindTo (-1)).dropCandidate
    return { l with isDone := true }

/-- Whether it is open what the next token is: none was found, or the one that was found is a
candidate. -/
def isOpen (l : Layout) : Bool :=
  l.found.isEmpty || l.candidates.any fun k => k.any fun k => k.position == l.taken

/-- Reads on until it is certain what the next token is. -/
def settle : (fuel : Nat) → Layout → Except DocumentFault Layout
  | 0, l => .ok l
  | fuel + 1, l =>
    if l.isDone then .ok l
    else
      match if l.found.isEmpty then .ok l else l.dropStale with
      | .error f => .error f
      | .ok l =>
        if l.isOpen then
          match l.fetch with
          | .error f => .error f
          | .ok l => l.settle fuel
        else .ok l

/-- Takes the next token. -/
def drop (l : Layout) : Layout :=
  { l with taken := l.taken + 1, found := l.found.drop 1 }

end Layout

/-- A character that may stand in a YAML text. -/
def isAllowed (c : Char) : Bool :=
  let n := c.toNat
  decide (n = 9 ∨ n = 10 ∨ n = 13 ∨ (0x20 ≤ n ∧ n ≤ 0x7e) ∨ n = 0x85 ∨ (0xa0 ≤ n ∧ n ≤ 0xfffd) ∨
    0x10000 ≤ n)

end Yaml

end Teletype
