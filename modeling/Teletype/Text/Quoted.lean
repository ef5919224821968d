import Teletype.Text.Printable

/-!
# Quoted texts

A text inside a message stands in quotes, with the characters that would blur it written as escapes:
the quote itself, the backslash, and every character without a visible form. The quote is an
apostrophe, unless the text holds apostrophes and no double quote.
-/

namespace Teletype

namespace Text

/-- A number in hexadecimal, with at least `width` digits. -/
def hex (width n : Nat) : Text :=
  let digits := Nat.toDigits 16 n
  List.replicate (width - digits.length) '0' ++ digits

/-- How a character is written between quotes of the kind `mark`. -/
def escaped (mark c : Char) : Text :=
  if c = mark ∨ c = '\\' then ['\\', c]
  else if c = '\n' then ['\\', 'n']
  else if c = '\r' then ['\\', 'r']
  else if c = '\t' then ['\\', 't']
  else if isPrintable c then [c]
  else if c.toNat < 0x100 then '\\' :: 'x' :: hex 2 c.toNat
  else if c.toNat < 0x10000 then '\\' :: 'u' :: hex 4 c.toNat
  else '\\' :: 'U' :: hex 8 c.toNat

/-- The quote that a text is put in. -/
def quoteMark (t : Text) : Char :=
  if t.contains '\x27' && !t.contains '\x22' then '\x22' else '\x27'

/-- A text in quotes. -/
def quote (t : Text) : Text :=
  quoteMark t :: t.flatMap (escaped (quoteMark t)) ++ [quoteMark t]

/-- A text in quotes, of which at most `limit` characters are kept; that can cut off the closing
quote. -/
def quoteUpTo (limit : Nat) (t : Text) : Text :=
  (quote t).take limit

example : quote ['a', '\n', '\x7f', '\u2028'] = "'a\\n\\x7f\\u2028'".toList := by decide +kernel

end Text

end Teletype
