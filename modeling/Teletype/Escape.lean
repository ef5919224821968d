import Teletype.Line
import Teletype.Decimal.Numeral

/-!
# Escape sequences

What follows an escape character is one of four forms.

* A *control sequence*: `[`, parameter characters, intermediate characters and a final character
  that names a command.
* A *control string*: one of `]`, `P`, `X`, `^`, `_`, then anything up to a bell or to the pair of
  an escape and a backslash.
* A *short escape*: one of `7`, `8`, `s`, `u`, which save and restore the cursor.
* Anything else: intermediate characters and a final character, without effect.

`Escape.parse` reads the form that stands at the front of a text and says how many characters it
takes, the escape character included. A sequence that breaks off or is interrupted has no command,
and takes only what cannot be visible output. Parameters are clamped to `maxParam`, so that a
garbled sequence cannot ask for an absurd width.
-/

namespace Teletype

/-- The commands that a control sequence can give. -/
inductive Command where
  | cursorUp
  | cursorDown
  | cursorForward
  | cursorBackward
  | cursorColumn
  | cursorPosition
  | cursorPositionAlt
  | eraseDisplay
  | eraseLine
  | eraseChars
  | insertChars
  | deleteChars
  | graphicRendition
  | saveCursor
  | restoreCursor
deriving DecidableEq, Repr

namespace Command

/-- All commands. -/
def all : List Command :=
  [cursorUp, cursorDown, cursorForward, cursorBackward, cursorColumn, cursorPosition,
    cursorPositionAlt, eraseDisplay, eraseLine, eraseChars, insertChars, deleteChars,
    graphicRendition, saveCursor, restoreCursor]

/-- The final character that names a command. -/
def letter : Command → Char
  | cursorUp => 'A'
  | cursorDown => 'B'
  | cursorForward => 'C'
  | cursorBackward => 'D'
  | cursorColumn => 'G'
  | cursorPosition => 'H'
  | cursorPositionAlt => 'f'
  | eraseDisplay => 'J'
  | eraseLine => 'K'
  | eraseChars => 'X'
  | insertChars => '@'
  | deleteChars => 'P'
  | graphicRendition => 'm'
  | saveCursor => 's'
  | restoreCursor => 'u'

/-- The command that a final character names. -/
def ofLetter? (c : Char) : Option Command :=
  all.find? fun k => k.letter == c

/-- The command of a short escape: the digits are the older spelling. -/
def ofShort? : Char → Option Command
  | '7' => some saveCursor
  | '8' => some restoreCursor
  | 's' => some saveCursor
  | 'u' => some restoreCursor
  | _ => none

theorem ofLetter?_letter (k : Command) : ofLetter? k.letter = some k := by
  cases k <;> rfl

end Command

/-- An escape sequence, the escape character included. -/
structure Escape where
  /-- How many characters it takes. -/
  length : Nat
  /-- What it asks for; none when it has no effect on a line. -/
  command : Option Command
  /-- Its parameters in order, none where one is left out or is no number. -/
  params : List (Option Nat)
  /-- The character that ends it; none when it does not end. -/
  final : Option Char
  /-- Whether its parameters begin with a private marker. -/
  isPrivate : Bool
deriving DecidableEq, Repr

namespace Escape

/-- The largest parameter; larger ones are read as this. -/
def maxParam : Nat := 65535

/-- The parameter characters, `0` to `?`. -/
def isParam (c : Char) : Bool :=
  decide ('0' ≤ c ∧ c ≤ '?')

/-- The intermediate characters, the space to `/`. -/
def isIntermediate (c : Char) : Bool :=
  decide (' ' ≤ c ∧ c ≤ '/')

/-- The final characters of a control sequence, `@` to `~`. -/
def isFinal (c : Char) : Bool :=
  decide ('@' ≤ c ∧ c ≤ '~')

/-- The final characters of an escape without parameters, `0` to `~`. -/
def isShortFinal (c : Char) : Bool :=
  decide ('0' ≤ c ∧ c ≤ '~')

/-- The characters that mark parameters as private when they stand first. -/
def isPrivateMarker (c : Char) : Bool :=
  decide ('<' ≤ c ∧ c ≤ '?')

/-- The characters that begin a control string. -/
def isStringIntroducer (c : Char) : Bool :=
  decide (c = ']' ∨ c = 'P' ∨ c = 'X' ∨ c = '^' ∨ c = '_')

/-- A sequence without effect, of a given length and final character. -/
def inert (length : Nat) (final : Option Char) : Escape :=
  ⟨length, none, [], final, false⟩

/-- The parameter at a position, or a default where it is left out. -/
def param (e : Escape) (index default : Nat) : Nat :=
  ((e.params[index]?).join).getD default

/-- One parameter: none where it is left out or holds another character than a digit. -/
def readParam (t : Text) : Except Overlong (Option Nat) :=
  if t ≠ [] ∧ t.all Text.isAsciiDigit then
    (Numeral.read (Numeral.digitValues t)).map fun n => some (min n maxParam)
  else .ok none

/-- The parameters between semicolons. -/
def readParams (t : Text) : Except Overlong (List (Option Nat)) :=
  if t = [] then .ok [] else (t.splitOn ';').mapM readParam

/-- Whether the first of the parameter characters is a private marker. -/
def startsPrivate : Text → Bool
  | [] => false
  | c :: _ => isPrivateMarker c

/-- Reads a control sequence from what follows its bracket. -/
def parseSequence (t : Text) : Except Overlong Escape :=
  let params := t.takeWhile isParam
  let rest := t.dropWhile isParam
  let intermediates := rest.takeWhile isIntermediate
  let length := 2 + params.length + intermediates.length
  match rest.dropWhile isIntermediate with
  | [] => .ok (inert length none)
  | c :: _ =>
    if !isFinal c then .ok (inert length none)
    else if startsPrivate params then .ok ⟨length + 1, none, [], some c, true⟩
    else do
      let values ← readParams params
      let command := if intermediates.isEmpty then Command.ofLetter? c else none
      return ⟨length + 1, command, values, some c, false⟩

/-- The length of a control string from what follows its introducer, and the character that ends
it. -/
def stringSpan : Text → Nat × Option Char
  | [] => (0, none)
  | '\x07' :: _ => (1, some Control.bell)
  | '\x1b' :: '\\' :: _ => (2, some '\\')
  | _ :: r =>
    let (n, final) := stringSpan r
    (n + 1, final)

/-- Reads an escape without parameters from what follows the escape character. -/
def parsePlain (t : Text) : Escape :=
  let intermediates := t.takeWhile isIntermediate
  match t.dropWhile isIntermediate with
  | [] => inert (1 + intermediates.length) none
  | c :: _ =>
    if isShortFinal c then inert (2 + intermediates.length) (some c)
    else inert (1 + intermediates.length) none

/-- Reads an escape sequence from what follows the escape character. The only failure is a
parameter with too many digits. -/
def parse : Text → Except Overlong Escape
  | [] => .ok (inert 1 none)
  | c :: r =>
    if c = '[' then parseSequence r
    else if isStringIntroducer c then
      let (n, final) := stringSpan r
      .ok (inert (2 + n) final)
    else match Command.ofShort? c with
      | some k => .ok ⟨2, some k, [], some c, false⟩
      | none => .ok (parsePlain (c :: r))

/-- Reads the escape sequence whose escape character stands at a position of a text. -/
def parseAt (t : Text) (start : Nat) : Except Overlong Escape :=
  parse (t.drop (start + 1))

/-- What an escape sequence does to a line. Rows are not modelled: moving up and down and the row
of a position have no effect, nor has the rendition of characters. -/
def apply (e : Escape) (l : Line) : Line :=
  match e.command with
  | none => l
  | some k => match k with
    | .cursorForward => l.moveBy (e.param 0 1)
    | .cursorBackward => l.moveBy (-(e.param 0 1))
    | .cursorColumn => l.moveTo (e.param 0 1 - 1)
    | .cursorPosition | .cursorPositionAlt => l.moveTo (e.param 1 1 - 1)
    | .eraseLine => l.erase (e.param 0 0)
    | .eraseDisplay => l.erase (if e.param 0 0 = 3 then 2 else e.param 0 0)
    | .eraseChars => l.blankOut (e.param 0 1)
    | .insertChars => l.insertBlanks (e.param 0 1)
    | .deleteChars => l.deleteChars (e.param 0 1)
    | .saveCursor => l.save
    | .restoreCursor => l.restore
    | .cursorUp | .cursorDown | .graphicRendition => l

/-! ## How much a sequence takes -/

theorem stringSpan_le (t : Text) : (stringSpan t).1 ≤ t.length := by
  fun_induction stringSpan t with
  | case1 => exact Nat.le_refl 0
  | case2 r => exact Nat.succ_le_succ (Nat.zero_le _)
  | case3 r => exact Nat.succ_le_succ (Nat.succ_le_succ (Nat.zero_le _))
  | case4 c r _ _ n final h ih => rw [h] at ih; exact Nat.succ_le_succ ih

theorem length_parsePlain (t : Text) :
    1 ≤ (parsePlain t).length ∧ (parsePlain t).length ≤ t.length + 1 := by
  have whole : t.length =
      (t.takeWhile isIntermediate).length + (t.dropWhile isIntermediate).length := by
    rw [← List.length_append, List.takeWhile_append_dropWhile]
  unfold parsePlain
  cases h : t.dropWhile isIntermediate with
  | nil => simp only [h, inert, List.length_nil] at whole ⊢; omega
  | cons c r =>
    simp only [h, List.length_cons] at whole ⊢
    split <;> simp only [inert] <;> omega

theorem length_parseSequence {t : Text} {e : Escape} (h : parseSequence t = .ok e) :
    1 ≤ e.length ∧ e.length ≤ t.length + 2 := by
  have outer : t.length = (t.takeWhile isParam).length + (t.dropWhile isParam).length := by
    rw [← List.length_append, List.takeWhile_append_dropWhile]
  have inner : (t.dropWhile isParam).length =
      ((t.dropWhile isParam).takeWhile isIntermediate).length +
        ((t.dropWhile isParam).dropWhile isIntermediate).length := by
    rw [← List.length_append, List.takeWhile_append_dropWhile]
  unfold parseSequence at h
  simp only at h
  cases hd : (t.dropWhile isParam).dropWhile isIntermediate with
  | nil =>
    simp only [hd] at h inner
    cases h
    simp only [inert, List.length_nil] at inner ⊢
    omega
  | cons c r =>
    simp only [hd, List.length_cons] at h inner
    split at h
    · cases h
      simp only [inert]
      omega
    · split at h
      · cases h
        simp only
        omega
      · cases hv : readParams (t.takeWhile isParam) with
        | error x => rw [hv] at h; cases h
        | ok values =>
          rw [hv] at h
          cases h
          simp only
          omega

/-- A sequence takes its escape character at least, and no more than is there. -/
theorem length_parse {t : Text} {e : Escape} (h : parse t = .ok e) :
    1 ≤ e.length ∧ e.length ≤ t.length + 1 := by
  cases t with
  | nil => cases h; exact ⟨Nat.le_refl 1, Nat.le_refl 1⟩
  | cons c r =>
    simp only [parse] at h
    by_cases bracket : c = '['
    · rw [if_pos bracket] at h
      have := length_parseSequence h
      simp only [List.length_cons]
      omega
    · rw [if_neg bracket] at h
      by_cases introducer : isStringIntroducer c = true
      · rw [if_pos introducer] at h
        have := stringSpan_le r
        cases h
        simp only [inert, List.length_cons]
        omega
      · rw [if_neg introducer] at h
        cases short : Command.ofShort? c with
        | none =>
          rw [short] at h
          cases h
          exact length_parsePlain (c :: r)
        | some k =>
          rw [short] at h
          cases h
          simp only [List.length_cons]
          omega

end Escape

end Teletype
