import Teletype.Text.Digit

/-!
# Numerals

A numeral is a row of decimal digits, the most significant first. Reading one takes time that grows
with the square of its length, so no numeral of more than `maxDigits` digits is read or written;
such a one is `Overlong`.
-/

namespace Teletype

/-- A power of two. -/
def twoTo (k : Nat) : Nat :=
  Nat.pow 2 k

/-- A power of ten. -/
def tenTo (k : Nat) : Nat :=
  Nat.pow 10 k

/-- A numeral that has more digits than are read. -/
structure Overlong where
  /-- How many digits it has, leading zeros included. -/
  digits : Nat
deriving DecidableEq, Repr

namespace Numeral

/-- The most digits that a numeral may have. -/
def maxDigits : Nat := 4300

/-- The number that a row of digit values stands for. -/
def ofDigits (ds : List Nat) : Nat :=
  ds.foldl (fun n d => 10 * n + d) 0

/-- The number that a row of digit values stands for, unless there are too many of them. -/
def read (ds : List Nat) : Except Overlong Nat :=
  if maxDigits < ds.length then .error ⟨ds.length⟩ else .ok (ofDigits ds)

/-- The values of the decimal digits of a text; other characters are passed over. -/
def digitValues (t : Text) : List Nat :=
  t.filterMap Text.decimal?

end Numeral

namespace Overlong

/-- The text that reports a numeral too long to be read. -/
def message (e : Overlong) : String :=
  s!"Exceeds the limit ({Numeral.maxDigits} digits) for integer string conversion: " ++
    s!"value has {e.digits} digits; use sys.set_int_max_str_digits() to increase the limit"

/-- The text that reports a number too long to be written. -/
def writtenMessage : String :=
  s!"Exceeds the limit ({Numeral.maxDigits} digits) for integer string conversion; " ++
    "use sys.set_int_max_str_digits() to increase the limit"

end Overlong

end Teletype
