import Teletype.Decimal.Notation
import Teletype.Decimal.Double

/-!
# Numbers

A setting or a parameter that is a number is a whole number, a double, or a truth value that counts
as zero or one. Numbers of different kinds are compared exactly, and each keeps its kind and its own
way of being written.
-/

namespace Teletype

/-- A number of one of three kinds. -/
inductive Number where
  | int (n : Int)
  | bool (b : Bool)
  | float (x : Float)

namespace Number

/-- The value of a number, exactly. -/
def value : Number → Double
  | int n => Double.ofInt n
  | bool b => Double.ofInt (if b then 1 else 0)
  | float x => Double.read x

/-- The order of numbers. -/
def lt (a b : Number) : Bool :=
  a.value.lt b.value

/-- Not greater than; false where one of the two is not a number. -/
def le (a b : Number) : Bool :=
  a.value.le b.value

/-- The nearest double. -/
def toFloat : Number → Float
  | int n => Double.nearest (decide (n < 0)) n.natAbs 1
  | bool b => if b then 1 else 0
  | float x => x

/-- Whether a whole number is so large that all finite doubles are below the one nearest to it. -/
def isBeyondDoubles : Number → Bool
  | int n => decide (Double.nearestBits n.natAbs 1 = Double.infinityBits)
  | _ => false

example : (int (2 ^ 1024 - 2 ^ 970)).isBeyondDoubles = true ∧
    (int (2 ^ 1024 - 2 ^ 970 - 1)).isBeyondDoubles = false := by decide +kernel

/-- The whole part, toward zero; none where there is no number. -/
def truncate? (n : Number) : Option Int :=
  n.value.truncate?

/-- Doubles have the fewest digits that read back; those of sixteen digits and more before the
point, or of more than three zeros behind it, have an exponent of at least two digits. -/
def floatNotation : FloatNotation where
  leastPlain := -4
  greatestPlain := 15
  exponentDigits := 2
  nan := ['n', 'a', 'n']
  infinity := ['i', 'n', 'f']

/-- A double as a text. -/
def floatText (x : Float) : Text :=
  floatNotation.write (Double.read x)

/-- A number as a text, unless it has too many digits. -/
def text : Number → Except Overlong Text
  | int n =>
    let digits := Text.ofNat n.natAbs
    if Numeral.maxDigits < digits.length then .error ⟨digits.length⟩ else .ok (Text.ofInt n)
  | bool b => .ok (if b then "True".toList else "False".toList)
  | float x => .ok (floatText x)

end Number

end Teletype
