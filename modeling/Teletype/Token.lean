import Teletype.Escape

/-!
# Tokens of raw output

Raw output is a row of tokens: escape sequences and the single characters between them. `Token.scan`
cuts a text into its tokens, from left to right. Rendering replays them on a line; stripping keeps
the characters only (`Token.plain`), so what one of the two consumes as a sequence the other does
too. A sequence that cannot be read ends the row, because where it ends is not known; without one
the tokens hold all of the text (`Token.flatMap_source_scan`).
-/

namespace Teletype

/-- One step of raw output. -/
inductive Token where
  /-- A character outside all escape sequences. -/
  | char (c : Char)
  /-- An escape sequence and the characters it was read from. -/
  | sequence (source : Text) (e : Escape)
  /-- A sequence with a parameter too long to be read. -/
  | unreadable (e : Overlong)
deriving DecidableEq, Repr

namespace Token

/-- Cuts a text into tokens. -/
def scan : Text → List Token
  | [] => []
  | c :: r =>
    if c = Control.escape then
      match Escape.parse r with
      | .ok e => .sequence (c :: r.take (e.length - 1)) e :: scan (r.drop (e.length - 1))
      | .error x => [.unreadable x]
    else .char c :: scan r
termination_by t => t.length
decreasing_by all_goals simp only [List.length_drop, List.length_cons]; omega

/-- The characters of a row of tokens outside its sequences. -/
def plain : List Token → Except Overlong Text
  | [] => .ok []
  | .char c :: ts => (plain ts).map (c :: ·)
  | .sequence _ _ :: ts => plain ts
  | .unreadable x :: _ => .error x

/-- The characters that a token was read from; none for one that could not be read. -/
def source : Token → Text
  | char c => [c]
  | sequence t _ => t
  | unreadable _ => []

/-- A row of tokens without an unreadable one holds all characters of its text, in order. -/
theorem flatMap_source_scan (t : Text) (h : ∀ x, unreadable x ∉ scan t) :
    (scan t).flatMap source = t := by
  fun_induction scan t with
  | case1 => rfl
  | case2 r e he ih =>
    have rest : ∀ x, unreadable x ∉ scan (r.drop (e.length - 1)) :=
      fun x hx => h x (List.mem_cons_of_mem _ hx)
    rw [List.flatMap_cons, ih rest, source, List.cons_append, List.take_append_drop]
  | case3 r x he => exact absurd List.mem_cons_self (h x)
  | case4 c r hc ih =>
    rw [List.flatMap_cons, ih fun x hx => h x (List.mem_cons_of_mem _ hx), source]
    rfl

end Token

/-- A text without its escape sequences. -/
def stripEscapes (t : Text) : Except Overlong Text :=
  Token.plain (Token.scan t)

end Teletype
