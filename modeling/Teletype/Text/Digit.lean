import Teletype.Text.Basic

/-!
# Decimal digits of every script

Unicode gives each decimal digit a value and lays the ten digits of a script out in a row, from
zero to nine. The table `zeros` lists where each row starts, and the value of a digit is its
distance from the start of its row (`decimal?`). A terminal's own parameters are written in the
first row only (`isAsciiDigit`).
-/

namespace Teletype

namespace Text

/-- The digit zero of each script. -/
def zeros : List Nat :=
  [0x30, 0x660, 0x6f0, 0x7c0, 0x966, 0x9e6, 0xa66, 0xae6, 0xb66, 0xbe6, 0xc66, 0xce6,
    0xd66, 0xde6, 0xe50, 0xed0, 0xf20, 0x1040, 0x1090, 0x17e0, 0x1810, 0x1946, 0x19d0,
    0x1a80, 0x1a90, 0x1b50, 0x1bb0, 0x1c40, 0x1c50, 0xa620, 0xa8d0, 0xa900, 0xa9d0, 0xa9f0,
    0xaa50, 0xabf0, 0xff10, 0x104a0, 0x10d30, 0x11066, 0x110f0, 0x11136, 0x111d0, 0x112f0,
    0x11450, 0x114d0, 0x11650, 0x116c0, 0x11730, 0x118e0, 0x11950, 0x11c50, 0x11d50,
    0x11da0, 0x16a60, 0x16ac0, 0x16b50, 0x1d7ce, 0x1d7d8, 0x1d7e2, 0x1d7ec, 0x1d7f6,
    0x1e140, 0x1e2f0, 0x1e950, 0x1fbf0]

/-- One of the ten digits `0` to `9`. -/
def isAsciiDigit (c : Char) : Bool :=
  decide ('0' ≤ c ∧ c ≤ '9')

/-- The value of a decimal digit of any script. -/
def decimal? (c : Char) : Option Nat :=
  if isAsciiDigit c then some (c.toNat - 48)
  else if c.toNat < 0x80 then none
  else (zeros.find? fun z => decide (z ≤ c.toNat ∧ c.toNat < z + 10)).map (c.toNat - ·)

/-- A decimal digit of some script. -/
def isDecimal (c : Char) : Bool :=
  (decimal? c).isSome

/-- An ASCII digit is a decimal digit. -/
theorem isDecimal_of_isAsciiDigit {c : Char} (h : isAsciiDigit c = true) :
    isDecimal c = true := by
  simp [isDecimal, decimal?, h]

example : decimal? '7' = some 7 ∧ decimal? '٣' = some 3 ∧ decimal? 'x' = none := by decide

end Text

end Teletype
