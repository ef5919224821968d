import Teletype.Decimal.Double
import Teletype.Document.Fault
import Teletype.Value

/-!
# JSON documents

The JSON notation, with the names `NaN` and `Infinity` for the numbers that have no digits. A later
entry of a mapping replaces an earlier one under the same key. Strings hold no control characters.

The readers take the front of a text and return what follows; `fuel` bounds how deep and how long
they go, and twice the length of the text is always enough, because each step but the first of a
value takes a character.
-/

namespace Teletype

namespace Json

/-- What a reader finds at the front of a text, and what follows. -/
abbrev Reader (α : Type) := Text → Except DocumentFault (α × Text)

/-- The blanks between the parts of a document. -/
def isSpace (c : Char) : Bool :=
  c == ' ' || c == '\t' || c == '\n' || c == '\r'

/-- A text without the blanks at its front. -/
def skip (t : Text) : Text :=
  t.dropWhile isSpace

/-- The value of a hexadecimal digit. -/
def hexDigit? (c : Char) : Option Nat :=
  if '0' ≤ c ∧ c ≤ '9' then some (c.toNat - 48)
  else if 'a' ≤ c ∧ c ≤ 'f' then some (c.toNat - 87)
  else if 'A' ≤ c ∧ c ≤ 'F' then some (c.toNat - 55)
  else none

/-- Four hexadecimal digits at the front of a text. -/
def hex4? : Text → Option (Nat × Text)
  | a :: b :: c :: d :: r => do
    let a ← hexDigit? a
    let b ← hexDigit? b
    let c ← hexDigit? c
    let d ← hexDigit? d
    return (((16 * a + b) * 16 + c) * 16 + d, r)
  | _ => none

/-- The character that a backslash and a letter stand for. -/
def simpleEscape? : Char → Option Char
  | '\x22' => some '\x22'
  | '\\' => some '\\'
  | '/' => some '/'
  | 'b' => some '\x08'
  | 'f' => some '\x0c'
  | 'n' => some '\n'
  | 'r' => some '\r'
  | 't' => some '\t'
  | _ => none

/-- The character of a number in an escape; a high and a low half that follow each other make one
character. -/
def codeUnit (n : Nat) (r : Text) : Char × Text :=
  if 0xd800 ≤ n ∧ n < 0xdc00 then
    match r with
    | '\\' :: 'u' :: rest =>
      match hex4? rest with
      | some (low, rest) =>
        if 0xdc00 ≤ low ∧ low < 0xe000 then
          (Char.ofNat (0x10000 + (n - 0xd800) * 0x400 + (low - 0xdc00)), rest)
        else ('\ufffd', r)
      | none => ('\ufffd', r)
    | _ => ('\ufffd', r)
  else if 0xdc00 ≤ n ∧ n < 0xe000 then ('\ufffd', r)
  else (Char.ofNat n, r)

/-- Reads a string from behind its opening quote. -/
def string : (fuel : Nat) → Reader Text
  | 0, _ => .error .malformed
  | fuel + 1, t =>
    match t with
    | [] => .error .malformed
    | '\x22' :: r => .ok ([], r)
    | '\\' :: 'u' :: r =>
      match hex4? r with
      | none => .error .malformed
      | some (n, r) =>
        let (c, r) := codeUnit n r
        (string fuel r).map fun (s, rest) => (c :: s, rest)
    | '\\' :: c :: r =>
      match simpleEscape? c with
      | none => .error .malformed
      | some c => (string fuel r).map fun (s, rest) => (c :: s, rest)
    | c :: r =>
      if c = '\\' ∨ c < ' ' then .error .malformed
      else (string fuel r).map fun (s, rest) => (c :: s, rest)

/-- Takes a given text off the front. -/
def take? (word t : Text) : Option Text :=
  word.isPrefixOf? t

/-- The digits of a whole number: zero alone, or digits that do not begin with zero. -/
def wholeDigits? : Text → Option (Text × Text)
  | '0' :: r => some (['0'], r)
  | t =>
    let ds := t.takeWhile Text.isAsciiDigit
    if ds.isEmpty then none else some (ds, t.dropWhile Text.isAsciiDigit)

/-- The digits behind a point, if a point with digits is there. -/
def fraction (t : Text) : Text × Text :=
  match t with
  | '.' :: r =>
    let ds := r.takeWhile Text.isAsciiDigit
    if ds.isEmpty then ([], t) else (ds, r.dropWhile Text.isAsciiDigit)
  | _ => ([], t)

/-- The power of ten, if one with digits is there. -/
def power? (t : Text) : Option (Int × Text) :=
  match t with
  | c :: r =>
    if c = 'e' ∨ c = 'E' then
      let (negative, r) := match r with
        | '-' :: r => (true, r)
        | '+' :: r => (false, r)
        | _ => (false, r)
      let ds := r.takeWhile Text.isAsciiDigit
      if ds.isEmpty then none
      else
        let n : Int := Numeral.ofDigits (Numeral.digitValues ds)
        some (if negative then -n else n, r.dropWhile Text.isAsciiDigit)
    else none
  | [] => none

/-- Reads a number behind its sign. -/
def number (negative : Bool) : Reader Value := fun t =>
  match wholeDigits? t with
  | none => .error .malformed
  | some (ds, r) =>
    let (fs, r) := fraction r
    let whole := Numeral.digitValues ds
    match power? r, fs with
    | none, [] => match Numeral.read whole with
      | .error e => .error (.overlong e)
      | .ok n => .ok (.int (if negative then -n else n), r)
    | power, _ =>
      let n := Numeral.ofDigits (whole ++ Numeral.digitValues fs)
      let (p, r) := power.getD (0, r)
      .ok (.float (Double.ofDecimal negative n (p - fs.length)), r)

mutual

/-- Reads a value. -/
def value : (fuel : Nat) → Reader Value
  | 0, _ => .error .malformed
  | fuel + 1, t =>
    match t with
    | '\x22' :: r => (string (r.length + 1) r).map fun (s, rest) => (.text s, rest)
    | '\x7b' :: r =>
      match skip r with
      | '\x7d' :: rest => .ok (.mapping [], rest)
      | _ => entries fuel [] (skip r)
    | '[' :: r =>
      match skip r with
      | ']' :: rest => .ok (.list [], rest)
      | _ => items fuel [] (skip r)
    | '-' :: r =>
      match take? "Infinity".toList r with
      | some rest => .ok (.float (Double.nearest true (twoTo 1024) 1), rest)
      | none => number true r
    | _ =>
      match take? "null".toList t, take? "true".toList t, take? "false".toList t,
          take? "NaN".toList t, take? "Infinity".toList t with
      | some r, _, _, _, _ => .ok (.null, r)
      | _, some r, _, _, _ => .ok (.bool true, r)
      | _, _, some r, _, _ => .ok (.bool false, r)
      | _, _, _, some r, _ => .ok (.float (0 / 0), r)
      | _, _, _, _, some r => .ok (.float (Double.nearest false (twoTo 1024) 1), r)
      | _, _, _, _, _ => number false t

/-- Reads the items of a list, of which there is at least one; `done` holds those before. -/
def items : (fuel : Nat) → List Value → Reader Value
  | 0, _, _ => .error .malformed
  | fuel + 1, done, t => do
    let (v, r) ← value fuel t
    match skip r with
    | ',' :: r => items fuel (done ++ [v]) (skip r)
    | ']' :: r => .ok (.list (done ++ [v]), r)
    | _ => .error .malformed

/-- Reads the entries of a mapping, of which there is at least one; `done` holds those before. -/
def entries : (fuel : Nat) → List (Value × Value) → Reader Value
  | 0, _, _ => .error .malformed
  | fuel + 1, done, t =>
    match t with
    | '\x22' :: r => do
      let (key, r) ← string (r.length + 1) r
      match skip r with
      | ':' :: r =>
        let (v, r) ← value fuel (skip r)
        let done := Value.insert (.text key) v done
        match skip r with
        | ',' :: r => entries fuel done (skip r)
        | '\x7d' :: r => .ok (.mapping done, r)
        | _ => .error .malformed
      | _ => .error .malformed
    | _ => .error .malformed

end

/-- Reads a document, which is one value with blanks around it. -/
def read (t : Text) : Except DocumentFault Value := do
  let (v, r) ← value (2 * t.length + 1) (skip t)
  if (skip r).isEmpty then return v else .error .malformed

end Json

end Teletype
