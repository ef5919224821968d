import Teletype.Text.Digit

/-!
# Patterns

A pattern describes a stretch of text, read at a place of which the character before is known. Of
the ways in which a pattern can match at a place there is a first one: the left alternative goes
before the right one, and a repetition takes as many characters as it can before it takes fewer.
`Pattern.match?` finds the first way, `Pattern.search` the leftmost place, and `Pattern.pieces` cuts
out the matches of a text from left to right, without overlap and without a loss
(`Pattern.flatMap_text_pieces`).
-/

namespace Teletype

/-- A pattern over single characters. -/
inductive Pattern where
  /-- Nothing. -/
  | empty
  /-- One character of a set. -/
  | one (set : Char → Bool)
  /-- Any number of characters of a set, as many as possible. -/
  | many (set : Char → Bool)
  /-- One pattern and then another. -/
  | seq (p q : Pattern)
  /-- One pattern, or else another. -/
  | alt (p q : Pattern)
  /-- The character before is not in a set. -/
  | notAfter (set : Char → Bool)
  /-- The character that follows is not in a set. -/
  | notBefore (set : Char → Bool)
  /-- The start of a line. -/
  | lineStart
  /-- The end of a line. -/
  | lineEnd

namespace Pattern

/-- Patterns in a row. -/
def row : List Pattern → Pattern
  | [] => empty
  | [p] => p
  | p :: ps => seq p (row ps)

/-- The first of several patterns that leads to a match. -/
def oneOf : List Pattern → Pattern
  | [] => empty
  | [p] => p
  | p :: ps => alt p (oneOf ps)

/-- A pattern, if it is there. -/
def optional (p : Pattern) : Pattern :=
  alt p empty

/-- At least one character of a set, as many as possible. -/
def atLeastOne (set : Char → Bool) : Pattern :=
  seq (one set) (many set)

/-- A given character. -/
def char (c : Char) : Pattern :=
  one (· == c)

/-- A given text. -/
def literal (t : Text) : Pattern :=
  row (t.map char)

/-- Whether two characters are the same letter, whatever their case. Four letters beyond ASCII have
the case of an ASCII letter: the dotted and dotless `i`, the long `s` and the Kelvin sign. -/
def sameLetter (c x : Char) : Bool :=
  decide (x.toLower = c.toLower) ||
    (c.toLower == 'i' && (x == '\u0130' || x == '\u0131')) ||
    (c.toLower == 's' && x == '\u017f') ||
    (c.toLower == 'k' && x == '\u212a')

/-- A given text in any case. -/
def word (t : Text) : Pattern :=
  row (t.map fun c => one (sameLetter c))

/-- The letters of ASCII in any case. -/
def isLetter (c : Char) : Bool :=
  c.isAlpha || c == '\u0130' || c == '\u0131' || c == '\u017f' || c == '\u212a'

/-- Takes characters of a set and goes on, with as many of them as possible first. -/
def takeMany {α : Type} (set : Char → Bool) (next : Option Char → Text → Option α)
    (before : Option Char) : Text → Option α
  | [] => next before []
  | c :: r =>
    if set c then
      match takeMany set next (some c) r with
      | some a => some a
      | none => next before (c :: r)
    else next before (c :: r)

/-- Matches a pattern at a place and goes on behind it, trying its ways in order until what follows
succeeds too. -/
def run {α : Type} : Pattern → (next : Option Char → Text → Option α) →
    (before : Option Char) → Text → Option α
  | empty, next, before, t => next before t
  | one set, next, _, t =>
    match t with
    | c :: r => if set c then next (some c) r else none
    | [] => none
  | many set, next, before, t => takeMany set next before t
  | seq p q, next, before, t => p.run (q.run next) before t
  | alt p q, next, before, t =>
    match p.run next before t with
    | some a => some a
    | none => q.run next before t
  | notAfter set, next, before, t => if before.any set then none else next before t
  | notBefore set, next, before, t => if t.head?.any set then none else next before t
  | lineStart, next, before, t => if before.all (· == '\n') then next before t else none
  | lineEnd, next, before, t => if t.head?.all (· == '\n') then next before t else none

/-- What follows the first match of a pattern at a place. -/
def match? (p : Pattern) (before : Option Char) (t : Text) : Option Text :=
  p.run (fun _ r => some r) before t

/-- Whether a text as a whole is a match. -/
def describes (p : Pattern) (t : Text) : Bool :=
  (p.run (fun _ r => if r.isEmpty then some () else none) none t).isSome

/-- Where the leftmost match starts and ends. -/
def searchFrom (p : Pattern) (before : Option Char) (t : Text) : Option (Nat × Nat) :=
  match p.match? before t, t with
  | some r, _ => some (0, t.length - r.length)
  | none, [] => none
  | none, c :: r => (p.searchFrom (some c) r).map fun (i, j) => (i + 1, j + 1)
termination_by t.length

/-- Where the leftmost match in a text starts and ends. -/
def search (p : Pattern) (t : Text) : Option (Nat × Nat) :=
  p.searchFrom none t

/-- Whether a text holds a match. -/
def occursIn (p : Pattern) (t : Text) : Bool :=
  (p.search t).isSome

/-- A piece of a text out of which matches are cut. -/
inductive Piece where
  /-- A character that stays. -/
  | kept (c : Char)
  /-- A match. -/
  | cut (t : Text)
deriving DecidableEq, Repr

/-- Cuts the matches out of a text. A match that takes no character cuts nothing. -/
def pieces (p : Pattern) (before : Option Char) : Text → List Piece
  | [] => []
  | c :: r =>
    match p.match? before (c :: r) with
    | some rest =>
      if rest.length ≤ r.length then
        let m := (c :: r).take (r.length + 1 - rest.length)
        .cut m :: p.pieces m.getLast? ((c :: r).drop (r.length + 1 - rest.length))
      else .kept c :: p.pieces (some c) r
    | none => .kept c :: p.pieces (some c) r
termination_by t => t.length
decreasing_by all_goals simp only [List.length_drop, List.length_cons]; omega

/-- What stays of a text when its matches are cut out. -/
def keptText : List Piece → Text
  | [] => []
  | .kept c :: ps => c :: keptText ps
  | .cut _ :: ps => keptText ps

/-- Whether anything was cut. -/
def anyCut (ps : List Piece) : Bool :=
  ps.any fun
    | .kept _ => false
    | .cut _ => true

/-- The characters of a piece. -/
def Piece.text : Piece → Text
  | .kept c => [c]
  | .cut t => t

/-- The pieces of a text hold all of it, in order. -/
theorem flatMap_text_pieces (p : Pattern) (before : Option Char) (t : Text) :
    (p.pieces before t).flatMap Piece.text = t := by
  fun_induction pieces p before t with
  | case1 => rfl
  | case2 before c r rest h hle m ih =>
    rw [List.flatMap_cons, ih]
    exact List.take_append_drop _ _
  | case3 before c r rest h hle ih => rw [List.flatMap_cons, ih]; rfl
  | case4 before c r h ih => rw [List.flatMap_cons, ih]; rfl

/-- Without a match the whole text stays. -/
theorem keptText_eq (ps : List Piece) (h : anyCut ps = false) :
    keptText ps = ps.flatMap Piece.text := by
  induction ps with
  | nil => rfl
  | cons a ps ih =>
    cases a with
    | kept c =>
      rw [keptText, List.flatMap_cons, ih (by simpa [anyCut] using h)]
      rfl
    | cut t => simp [anyCut] at h

end Pattern

end Teletype
