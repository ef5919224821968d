import Teletype.Pattern

/-!
# Pager prompts

A device that pages its output stops at a prompt such as `--More--` until a key is pressed, and
redraws its line when it was. `Pager.isPaused` says whether a text holds a prompt of any known kind.
`Pager.strip` removes the prompts around the word *more* with the dashes, spaces and carriage
returns that belong to them; a dash on at least one side tells the prompt from prose.
`Pager.stripRedraw` removes the redraw that follows a key.
-/

namespace Teletype

namespace Pager

open Pattern

/-- The word *more* with no letter beside it. -/
def moreWord : Pattern :=
  row [notAfter isLetter, word ['m', 'o', 'r', 'e'], notBefore isLetter]

/-- A `--More--` prompt: dashes on one side at least, spaces inside, and around it a carriage
return, an echoed space and another carriage return, where they are present. -/
def morePrompt : Pattern :=
  let dashes := many (· == '-')
  let someDashes := atLeastOne (· == '-')
  let spaces := many (· == ' ')
  row [
    optional (char '\r'),
    oneOf [
      row [someDashes, spaces, moreWord, spaces, dashes],
      row [dashes, spaces, moreWord, spaces, someDashes]],
    optional (char ' '),
    optional (char '\r')]

/-- Every known prompt that says that output waits for a key. -/
def anyPrompt : Pattern :=
  let blanks := many Text.isBlank
  let someBlanks := atLeastOne Text.isBlank
  let someDashes := atLeastOne (· == '-')
  let digits := atLeastOne Text.isDecimal
  oneOf [
    row [someDashes, blanks, word ['m', 'o', 'r', 'e'], blanks, someDashes],
    row [char '-', char '-', blanks, word ['p', 'r', 'e', 's', 's'], someBlanks],
    row [char '(', word ['e', 'n', 'd'], char ')'],
    row [word ['l', 'i', 'n', 'e', 's'], someBlanks, digits, char '-', digits],
    row [word ['p', 'r', 'e', 's', 's'], someBlanks,
      oneOf [
        word ['s', 'p', 'a', 'c', 'e'],
        row [word ['a', 'n', 'y'], someBlanks, word ['k', 'e', 'y']]]]]

/-- Whether a text holds a prompt of a pager. -/
def isPaused (t : Text) : Bool :=
  anyPrompt.occursIn t

/-- A text without its `--More--` prompts, and whether there were any. -/
def strip (t : Text) : Text × Bool :=
  let ps := morePrompt.pieces none t
  (keptText ps, anyCut ps)

/-- A text without the redraw at its front: a carriage return, spaces and a carriage return. -/
def stripRedraw (t : Text) : Text :=
  match t with
  | '\r' :: r =>
    match r.dropWhile (· == ' ') with
    | '\r' :: rest => rest
    | _ => t
  | _ => t

end Pager

end Teletype
