import Teletype.Text.Basic

/-!
# Bytes in base sixty-four

Four digits of base sixty-four stand for three bytes, and padding fills up the last group of four.
Characters that are no digits are passed over. `decode?` reads up to the padding that completes a
group, and fails where a group is left incomplete.
-/

namespace Teletype

namespace Base64

/-- The value of a digit. -/
def digit? (c : Char) : Option Nat :=
  if 'A' ≤ c ∧ c ≤ 'Z' then some (c.toNat - 65)
  else if 'a' ≤ c ∧ c ≤ 'z' then some (c.toNat - 71)
  else if '0' ≤ c ∧ c ≤ '9' then some (c.toNat + 4)
  else if c = '+' then some 62
  else if c = '/' then some 63
  else none

/-- The digits up to the padding that completes a group, or up to the end; `phase` counts the digits
of the current group and `pads` the padding behind the last of them. -/
def digits? : (phase pads : Nat) → Text → Option (List Nat)
  | phase, _, [] => if phase = 0 then some [] else none
  | phase, pads, c :: r =>
    if c = '=' then
      if phase < 2 then digits? phase pads r
      else if 4 ≤ phase + (pads + 1) then some []
      else digits? phase (pads + 1) r
    else
      match digit? c with
      | some d => (digits? ((phase + 1) % 4) 0 r).map (d :: ·)
      | none => digits? phase pads r

/-- The bytes of a row of digits; digits that fill no byte are dropped. -/
def bytes : List Nat → List UInt8
  | a :: b :: c :: d :: r =>
    UInt8.ofNat (4 * a + b / 16) :: UInt8.ofNat (b % 16 * 16 + c / 4) ::
      UInt8.ofNat (c % 4 * 64 + d) :: bytes r
  | [a, b, c] => [UInt8.ofNat (4 * a + b / 16), UInt8.ofNat (b % 16 * 16 + c / 4)]
  | [a, b] => [UInt8.ofNat (4 * a + b / 16)]
  | _ => []

/-- Reads bytes. -/
def decode? (t : Text) : Option (List UInt8) :=
  (digits? 0 0 t).map bytes

example : decode? "TWFu".toList = some [77, 97, 110] ∧ decode? "TQ==".toList = some [77] ∧
    decode? "TQ".toList = none := by decide +kernel

end Base64

end Teletype
