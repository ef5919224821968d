import Teletype.Decimal.Shortest
import Teletype.Text.Basic

/-!
# How a decimal is written

A decimal is written with a point among its digits, or with one digit before the point and a power
of ten behind it when it is very large or very small. A `FloatNotation` says where one form ends and
the other begins, and how the power is written.
-/

namespace Teletype

/-- The choices in writing a double. -/
structure FloatNotation where
  /-- The least power of ten of the leading digit that is written without an exponent. -/
  leastPlain : Int
  /-- The greatest power of ten of the leading digit that is written without an exponent. -/
  greatestPlain : Int
  /-- The least number of digits of an exponent. -/
  exponentDigits : Nat
  nan : Text
  infinity : Text

namespace FloatNotation

/-- Digits around a point, with at least one on either side. -/
def plain (d : Decimal) : Text :=
  let digits := d.digits.map fun n => Char.ofNat (48 + n)
  if d.point ≤ 0 then '0' :: '.' :: List.replicate (-d.point).toNat '0' ++ digits
  else
    let whole := digits.take d.point.toNat
    let fraction := digits.drop d.point.toNat
    whole ++ List.replicate (d.point.toNat - whole.length) '0' ++
      '.' :: (if fraction.isEmpty then ['0'] else fraction)

/-- One digit, the others behind a point, and the power of ten of the first with its sign. -/
def scientific (f : FloatNotation) (d : Decimal) : Text :=
  let digits := d.digits.map fun n => Char.ofNat (48 + n)
  let power := d.point - 1
  let powerDigits := Text.ofNat power.natAbs
  digits.take 1 ++ (if digits.length ≤ 1 then [] else '.' :: digits.drop 1) ++
    ['e', if power < 0 then '-' else '+'] ++
    List.replicate (f.exponentDigits - powerDigits.length) '0' ++ powerDigits

/-- A double as a text. -/
def write (f : FloatNotation) : Double → Text
  | .nan => f.nan
  | .infinite negative => (if negative then ['-'] else []) ++ f.infinity
  | .finite negative m q =>
    let d : Decimal := if m = 0 then ⟨[0], 1⟩ else Decimal.shortest m q
    (if negative then ['-'] else []) ++
      (if f.leastPlain ≤ d.point - 1 ∧ d.point - 1 ≤ f.greatestPlain then plain d
      else f.scientific d)

end FloatNotation

end Teletype
