/-!
# Texts

A text is a list of characters, one for each Unicode code point. Lines are what stands between line
feeds; the *tail lines* of a text are cut at every kind of line end, a carriage return before a line
feed counting with it. Blank characters are those that trimming removes.
-/

namespace Teletype

/-- A text, character by character. -/
abbrev Text := List Char

namespace Text

/-- The characters that trimming removes: the spaces, tabs and line ends of every script, and the
four information separators. -/
def isBlank (c : Char) : Bool :=
  let n := c.toNat
  decide ((9 ≤ n ∧ n ≤ 13) ∨ (28 ≤ n ∧ n ≤ 32) ∨ n = 0x85 ∨ n = 0xa0 ∨ n = 0x1680 ∨
    (0x2000 ≤ n ∧ n ≤ 0x200a) ∨ n = 0x2028 ∨ n = 0x2029 ∨ n = 0x202f ∨ n = 0x205f ∨ n = 0x3000)

/-- A text without the characters at its end that satisfy `p`. -/
def dropEndWhile (p : Char → Bool) (t : Text) : Text :=
  (t.reverse.dropWhile p).reverse

/-- A text without the blanks at its end. -/
def trimEnd (t : Text) : Text :=
  dropEndWhile isBlank t

/-- Nothing but blanks. -/
def blank (t : Text) : Bool :=
  t.all isBlank

/-- The pieces of a text between line feeds, of which there is always at least one. -/
def lines (t : Text) : List Text :=
  t.splitOn '\n'

/-- Puts a character before the first piece. -/
def consFirst (c : Char) : List Text → List Text
  | [] => [[c]]
  | l :: ls => (c :: l) :: ls

/-- The pieces of a text between line ends of any kind: a line feed, a carriage return, or the pair
of them. -/
def anyLines : Text → List Text
  | [] => [[]]
  | '\r' :: '\n' :: r => [] :: anyLines r
  | c :: r => if c = '\n' ∨ c = '\r' then [] :: anyLines r else consFirst c (anyLines r)

/-- The end of a text that a look-back of `n` characters sees. A look-back of zero sees all of it,
and a negative one leaves out that many characters at the front. -/
def tail (n : Int) (t : Text) : Text :=
  if 0 < n then t.drop (t.length - n.toNat) else t.drop (-n).toNat

/-- Every line end written as a single line feed. -/
def unifyLineEnds : Text → Text
  | [] => []
  | '\r' :: '\n' :: r => '\n' :: unifyLineEnds r
  | c :: r => (if c = '\r' then '\n' else c) :: unifyLineEnds r

/-- A text with its ASCII letters in lower case. -/
def lowerAscii (t : Text) : Text :=
  t.map Char.toLower

/-- The digits of a natural number. -/
def ofNat (n : Nat) : Text :=
  Nat.toDigits 10 n

/-- The digits of an integer behind its sign. -/
def ofInt : Int → Text
  | .ofNat n => ofNat n
  | .negSucc n => '-' :: ofNat (n + 1)

example : anyLines "a\r\nb\rc\n".toList = [['a'], ['b'], ['c'], []] := by decide

example : tail 2 "abc".toList = ['b', 'c'] ∧ tail 9 ['a'] = ['a'] ∧ tail 0 ['a'] = ['a'] ∧
    tail (-1) "abc".toList = ['b', 'c'] := by decide

end Text

end Teletype
