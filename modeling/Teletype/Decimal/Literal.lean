import Teletype.Decimal.Double
import Teletype.Text.Digit
import Teletype.Text.Quoted

/-!
# Numbers written as texts

A whole number is an optional sign and digits of any script, where single underscores may stand
between two digits; in base two, eight or sixteen a mark such as `0x` may stand in front of the
digits. A double is that in base ten, with a fraction and a power of ten, or one of the names of the
numbers that have no digits. Blanks around either are ignored, but for the four information
separators.
-/

namespace Teletype

/-- Why a text is no whole number. -/
inductive LiteralFault where
  | malformed
  | overlong (e : Overlong)
deriving DecidableEq, Repr

namespace Literal

/-- A blank that may stand around a number. -/
def isPadding (c : Char) : Bool :=
  Text.isBlank c && !decide ('\x1c' ≤ c ∧ c ≤ '\x1f')

/-- A text without the blanks around it. -/
def unpadded (t : Text) : Text :=
  Text.dropEndWhile isPadding (t.dropWhile isPadding)

/-- The value of a digit in a base; letters are the digits from ten on. -/
def digit? (base : Nat) (c : Char) : Option Nat :=
  let value := match Text.decimal? c with
    | some d => some d
    | none => if c.isAlpha then some (c.toLower.toNat - 87) else none
  value.filter fun d => decide (d < base)

/-- The values of a row of digits with single underscores between them; none for anything else. -/
def digits? (base : Nat) : Text → Option (List Nat)
  | [] => none
  | [c] => (digit? base c).map ([·])
  | c :: '_' :: r => do return (← digit? base c) :: (← digits? base r)
  | c :: r => do return (← digit? base c) :: (← digits? base r)

/-- Takes a sign off the front: whether it was a minus, and what follows. -/
def takeSign : Text → Bool × Text
  | '-' :: r => (true, r)
  | '+' :: r => (false, r)
  | t => (false, t)

/-! ## Whole numbers -/

/-- The letter that marks digits of a base. -/
def baseLetter? : Nat → Option Char
  | 2 => some 'b'
  | 8 => some 'o'
  | 16 => some 'x'
  | _ => none

/-- Takes the mark of a base off the front, and an underscore behind it. -/
def dropBaseMark (base : Nat) (t : Text) : Text :=
  match t with
  | zero :: letter :: r =>
    if Text.decimal? zero = some 0 ∧ baseLetter? base = some letter.toLower then
      if r.head? = some '_' then r.drop 1 else r
    else t
  | _ => t

/-- Whether a row of digits and underscores has a digit behind every underscore. -/
def isWellBarred : Text → Bool
  | [] => true
  | '_' :: r => r.head?.any (· != '_') && isWellBarred r
  | _ :: r => isWellBarred r

/-- Reads a whole number. The digits are looked at before what follows them: too many are refused
even where the text goes on with something else. Only digits in base ten can be too many, because in
the other bases they are read in time that grows with their number alone. -/
def intIn (base : Nat) (t : Text) : Except LiteralFault Int :=
  let (negative, body) := takeSign (t.dropWhile isPadding)
  let body := dropBaseMark base body
  let inRow (c : Char) : Bool := c == '_' || (digit? base c).isSome
  let row := body.takeWhile inRow
  let rest := body.dropWhile inRow
  let digits := row.filterMap (digit? base)
  if row.head? = some '_' || !isWellBarred row then .error .malformed
  else if base = 10 ∧ Numeral.maxDigits < digits.length then .error (.overlong ⟨digits.length⟩)
  else if digits.isEmpty || !rest.all isPadding then .error .malformed
  else
    let n := digits.foldl (fun n d => base * n + d) 0
    .ok (if negative then -n else n)

/-- Reads a whole number in base ten. -/
def int (t : Text) : Except LiteralFault Int :=
  intIn 10 t

/-- The text that reports a whole number that cannot be read; a long one is cut. -/
def notIntegerMessage (base : Nat) (t : Text) : Text :=
  s!"invalid literal for int() with base {base}: ".toList ++ Text.quoteUpTo 200 t

/-! ## Doubles -/

/-- The values of a row of digits that may be empty. -/
def digitsOrNone? (t : Text) : Option (List Nat) :=
  if t.isEmpty then some [] else digits? 10 t

/-- Reads the power of ten behind a mantissa, which is zero where there is none. -/
def power? : Text → Option Int
  | [] => some 0
  | _ :: r =>
    let (negative, body) := takeSign r
    (digits? 10 body).map fun ds =>
      let n : Int := Numeral.ofDigits ds
      if negative then -n else n

/-- Reads digits, a fraction and a power of ten. -/
def decimal? (negative : Bool) (t : Text) : Option Float := do
  let isPowerMark (c : Char) : Bool := c == 'e' || c == 'E'
  let mantissa := t.takeWhile fun c => !isPowerMark c
  let power ← power? (t.dropWhile fun c => !isPowerMark c)
  let whole ← digitsOrNone? (mantissa.takeWhile (· != '.'))
  let fraction ← digitsOrNone? ((mantissa.dropWhile (· != '.')).drop 1)
  if whole.isEmpty && fraction.isEmpty then none
  else some (Double.ofDecimal negative (Numeral.ofDigits (whole ++ fraction))
    (power - fraction.length))

/-- Reads a double. -/
def float? (t : Text) : Option Float :=
  let (negative, body) := takeSign (unpadded t)
  let name := Text.lowerAscii body
  if name = "inf".toList ∨ name = "infinity".toList then
    some (Double.nearest negative (twoTo 1024) 1)
  else if name = "nan".toList then some (0 / 0)
  else decimal? negative body

/-- The text that reports a double that cannot be read. -/
def notNumberMessage (t : Text) : Text :=
  "could not convert string to float: ".toList ++ Text.quote t

end Literal

end Teletype
