import Teletype.Decimal.Double

/-!
# The shortest decimal of a double

Of the decimals that read back as a double, `Decimal.shortest` takes those with the fewest digits,
and of them the one nearest to the double. All decimals of `n` digits lie on a grid; if one of them
reads back, so does one of the two neighbours of the double on that grid, and only these are looked
at.
-/

namespace Teletype

/-- A decimal `0.d₁d₂… · 10 ^ point`, with its digits in order. -/
structure Decimal where
  digits : List Nat
  point : Int
deriving DecidableEq, Repr

/-- The numbers that are nearest to one double, as numerators over one denominator. -/
structure Neighbourhood where
  low : Nat
  value : Nat
  high : Nat
  den : Nat
  /-- Whether the two ends belong to it. -/
  closed : Bool

namespace Neighbourhood

/-- The numbers that round to `m · 2 ^ q`. Half a unit to either side, but a quarter below a power
of two; the ends round to it when `m` is even. -/
def ofDouble (m : Nat) (q : Int) : Neighbourhood :=
  let unit := twoTo (q - 2).toNat
  { low := (if m = twoTo 52 ∧ Double.minExponent < q then 4 * m - 1 else 4 * m - 2) * unit
    value := 4 * m * unit
    high := (4 * m + 2) * unit
    den := twoTo (2 - q).toNat
    closed := m % 2 = 0 }

/-- Whether `num / scale` belongs to it. -/
def contains (s : Neighbourhood) (num scale : Nat) : Bool :=
  if s.closed then decide (s.low * scale ≤ num * s.den ∧ num * s.den ≤ s.high * scale)
  else decide (s.low * scale < num * s.den ∧ num * s.den < s.high * scale)

/-- The least `k` with the value below `10 ^ k`, looked for upward from `k`. -/
def pointFrom (s : Neighbourhood) : (steps : Nat) → (k : Int) → Int
  | 0, k => k
  | steps + 1, k =>
    if s.value * tenTo (-k).toNat < s.den * tenTo k.toNat then k else s.pointFrom steps (k + 1)

/-- The least `k` with the value below `10 ^ k`. -/
def point (s : Neighbourhood) : Int :=
  let log2 : Int := (Nat.log2 s.value : Int) - Nat.log2 s.den
  s.pointFrom 6 (Int.fdiv ((log2 - 1) * 30103) 100000 - 1)

/-- The multiple of `10 ^ unit` that belongs to it and is nearest to the value, as a factor; of two
that are equally near the even one. -/
def nearestMultiple? (s : Neighbourhood) (unit : Int) : Option Nat :=
  let up := tenTo (-unit).toNat
  let down := tenTo unit.toNat
  let floor := s.value * up / (s.den * down)
  let rest := s.value * up % (s.den * down)
  let preferFloor := decide (2 * rest < s.den * down ∨ (2 * rest = s.den * down ∧ floor % 2 = 0))
  match s.contains (floor * down) up, s.contains ((floor + 1) * down) up with
  | true, true => some (if preferFloor then floor else floor + 1)
  | true, false => some floor
  | false, true => some (floor + 1)
  | false, false => none

/-- The coarsest grid that has a member, from `n` digits on. -/
def shortestFrom (s : Neighbourhood) (point : Int) : (steps n : Nat) → Nat × Int
  | 0, _ => (0, 0)
  | steps + 1, n =>
    match s.nearestMultiple? (point - n) with
    | some k => (k, point - n)
    | none => s.shortestFrom point steps (n + 1)

end Neighbourhood

namespace Decimal

/-- The digits of a natural number. -/
def digitsOf (n : Nat) : List Nat :=
  (Nat.toDigits 10 n).map fun c => c.toNat - 48

/-- The decimal `n · 10 ^ unit`, without zeros at its end. -/
def ofScaled (n : Nat) (unit : Int) : Decimal :=
  let ds := digitsOf n
  ⟨(ds.reverse.dropWhile (· == 0)).reverse, unit + ds.length⟩

/-- The shortest decimal of `m · 2 ^ q`, for a positive `m`; seventeen digits always suffice. -/
def shortest (m : Nat) (q : Int) : Decimal :=
  let s := Neighbourhood.ofDouble m q
  let (n, unit) := s.shortestFrom s.point 17 1
  ofScaled n unit

end Decimal

end Teletype
