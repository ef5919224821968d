import Teletype.Decimal.Numeral

/-!
# Binary floating point, exactly

A double is read off its bits as a sign, a natural number `m` and a power of two `q`, so that its
magnitude is `m · 2 ^ q` (`Double.read`). In the other direction `Double.nearest` finds the double
nearest to a quotient of natural numbers, and an exact tie goes to the even neighbour. Both work in
natural numbers alone.
-/

namespace Teletype

/-- What the bits of a double stand for. -/
inductive Double where
  | nan
  | infinite (negative : Bool)
  /-- The number `m · 2 ^ q`, behind its sign. -/
  | finite (negative : Bool) (m : Nat) (q : Int)
deriving DecidableEq, Repr

namespace Double

/-- The least exponent of a double. -/
def minExponent : Int := -1074

/-- Reads a double off its bits. -/
def read (x : Float) : Double :=
  let bits := x.toBits.toNat
  let negative := decide (twoTo 63 ≤ bits)
  let exponent := bits / twoTo 52 % twoTo 11
  let fraction := bits % twoTo 52
  if exponent = 2047 then
    if fraction = 0 then infinite negative else nan
  else if exponent = 0 then finite negative fraction minExponent
  else finite negative (twoTo 52 + fraction) (minExponent + (exponent - 1 : Nat))

/-- An integer as a number with a power of two. -/
def ofInt (n : Int) : Double :=
  finite (decide (n < 0)) n.natAbs 0

/-- A finite number times a power of two that makes it whole. -/
def scaled (negative : Bool) (m : Nat) (shift : Int) : Int :=
  let magnitude : Int := (m * twoTo shift.toNat : Nat)
  if negative then -magnitude else magnitude

/-- The order of numbers. Nothing is less or greater than what is not a number. -/
def lt : Double → Double → Bool
  | nan, _ => false
  | _, nan => false
  | infinite a, infinite b => a && !b
  | infinite a, finite .. => a
  | finite .., infinite b => !b
  | finite a m p, finite b n q =>
    decide (scaled a m (p - min p q) < scaled b n (q - min p q))

/-- Not greater than, for what is a number. -/
def le (x y : Double) : Bool :=
  match x, y with
  | nan, _ => false
  | _, nan => false
  | _, _ => !lt y x

/-- The whole part of a number, toward zero; none where there is no number. -/
def truncate? : Double → Option Int
  | finite negative m q =>
    let magnitude : Int := if q < 0 then (m / twoTo (-q).toNat : Nat) else (m * twoTo q.toNat : Nat)
    some (if negative then -magnitude else magnitude)
  | _ => none

/-- A quotient rounded to the nearest natural number; a half goes to the even one. -/
def roundDiv (num den : Nat) : Nat :=
  let q := num / den
  let r := num % den
  if den < 2 * r ∨ (2 * r = den ∧ q % 2 = 1) then q + 1 else q

/-- The bits of the infinite double without a sign. -/
def infinityBits : Nat := 2047 * twoTo 52

/-- The bits of the double nearest to a positive quotient. Consecutive doubles have consecutive
bits, so rounding up to the next power of two carries into the exponent by itself. -/
def nearestBits (num den : Nat) : Nat :=
  let first : Int := max minExponent ((Nat.log2 num : Int) - Nat.log2 den - 53)
  let quotient (q : Int) : Nat × Nat :=
    if q < 0 then (num * twoTo (-q).toNat, den) else (num, den * twoTo q.toNat)
  let q := if twoTo 53 ≤ (quotient first).1 / (quotient first).2 then first + 1 else first
  let bits := roundDiv (quotient q).1 (quotient q).2 + (q - minExponent).toNat * twoTo 52
  min bits infinityBits

/-- The double nearest to a quotient behind a sign. -/
def nearest (negative : Bool) (num den : Nat) : Float :=
  let bits := if num = 0 then 0 else nearestBits num den
  Float.ofBits (UInt64.ofNat (if negative then twoTo 63 + bits else bits))

/-- The double nearest to `digits · 10 ^ exponent` behind a sign. A number whose size alone puts it
beyond all doubles, or below them, is not computed. -/
def ofDecimal (negative : Bool) (digits : Nat) (exponent : Int) : Float :=
  let size : Int := Nat.log2 digits
  if digits = 0 then nearest negative 0 1
  else if 400 < exponent + 3 * size / 10 then nearest negative (twoTo 1024) 1
  else if exponent + (size + 1) / 3 + 1 < -400 then nearest negative 0 1
  else if exponent < 0 then nearest negative digits (tenTo (-exponent).toNat)
  else nearest negative (digits * tenTo exponent.toNat) 1

end Double

end Teletype
