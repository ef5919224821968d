import Teletype.Number

/-!
# Time

Sessions measure time on any scale that can be added, subtracted and compared, and on which a number
of seconds has a place, unless it is too large. The scale that runs is that of doubles.
-/

namespace Teletype

/-- A scale for points in time and for the seconds between them. -/
class TimeScale (τ : Type) where
  add : τ → τ → τ
  sub : τ → τ → τ
  lt : τ → τ → Bool
  /-- A number of seconds, as near as the scale comes to it. -/
  ofNumber : Number → τ
  /-- Whether a number of seconds is too large to be added to a point in time. -/
  overflows : τ → Number → Bool
  /-- Whether a time is longer than a number of seconds, which counts as exactly what it is. -/
  exceeds : τ → Number → Bool
  /-- The nearest tenth of a second; of two that are equally near, the even one. -/
  roundTenth : τ → τ

namespace Double

/-- A double rounded to tenths; a tie goes to the even tenth. -/
def roundTenth (x : Float) : Float :=
  match read x with
  | finite negative m q =>
    let tenths := if q < 0 then roundDiv (10 * m) (twoTo (-q).toNat) else 10 * m * twoTo q.toNat
    nearest negative tenths 10
  | _ => x

end Double

instance : TimeScale Float where
  add := (· + ·)
  sub := (· - ·)
  lt a b := decide (a < b)
  ofNumber := Number.toFloat
  overflows _ := Number.isBeyondDoubles
  exceeds x n := n.lt (.float x)
  roundTenth := Double.roundTenth

end Teletype
