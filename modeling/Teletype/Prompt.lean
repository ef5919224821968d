import Teletype.Pattern
import Teletype.Token

/-!
# Shell prompts

A command has finished when the last line of its output is the prompt again. A line looks like a
prompt when it ends in one of the `terminators`. From a prompt that was seen,
`PromptPattern.ofPrompt` makes the pattern of the same prompt in any mode of the device: `fw01>` and
`fw01 (config)#` go with `fw01#`. Where no host can be read off, every line that ends like a prompt
will do (`PromptPattern.generic`).

Only the end of the output is looked at, as far as a look-back goes, line by line from the last one.
-/

namespace Teletype

namespace Prompt

/-- The characters that a prompt ends in. -/
def terminators : List Char := ['#', '>', '$', '%']

/-- Whether a prompt ends in a character. -/
def isTerminator (c : Char) : Bool :=
  terminators.contains c

/-- How many characters of the output are looked at unless something else is asked for. -/
def usualLookback : Int := 4096

/-- Whether a line looks like a prompt: its last character but for blanks is a terminator. -/
def isLikely (line : Text) : Bool :=
  (Text.trimEnd line).getLast?.any isTerminator

/-- The lines at the end of a text, the last one first. -/
def lastLines (lookback : Int) (t : Text) : List Text :=
  (Text.anyLines (Text.tail lookback t)).reverse

/-- The last line that looks like a prompt, without the blanks at its end. -/
def detect (lookback : Int) (t : Text) : Option Text :=
  ((lastLines lookback t).map Text.trimEnd).find? isLikely

end Prompt

/-- The prompts that end a command. -/
inductive PromptPattern where
  /-- Any line that ends like a prompt. -/
  | generic
  /-- The prompts of a host in any of its modes. -/
  | ofHost (host : Text)
deriving DecidableEq, Repr

namespace PromptPattern

open Pattern

/-- Characters that a pattern's notation writes behind a backslash. -/
def isReserved (c : Char) : Bool :=
  decide (('\t' ≤ c ∧ c ≤ '\r') ∨ c = ' ') || "#$&()*+-.?[\\]^\x7b|\x7d~".toList.contains c

/-- A text in the notation of patterns. -/
def notated (t : Text) : Text :=
  t.flatMap fun c => if isReserved c then ['\\', c] else [c]

/-- The usual notation of a pattern. -/
def notate : PromptPattern → Text
  | generic => "^.*[#>$%][ \\t]*$".toList
  | ofHost host =>
    '^' :: notated host ++ "(?:\\s*\\([^)]+\\))?\\s*[\\#>\\$%]\\s*$".toList

/-- The modes in which the notation is meant: line by line (8) and over all of Unicode (32). -/
def modes : Nat := 8 + 32

/-- The pattern itself. The mode of a host stands in parentheses behind its name. -/
def pattern : PromptPattern → Pattern
  | generic =>
    row [lineStart, many (· != '\n'), one Prompt.isTerminator,
      many (fun c => c == ' ' || c == '\t'), lineEnd]
  | ofHost host =>
    let blanks := many Text.isBlank
    let mode := row [blanks, char '(', atLeastOne (· != ')'), char ')']
    row [lineStart, literal host, optional mode, blanks, one Prompt.isTerminator, blanks, lineEnd]

/-- The host of a prompt without its terminator: what stands before the first parenthesis, unless
that is blank. -/
def hostOf (body : Text) : Text :=
  let host := Text.trimEnd (body.takeWhile (· != '('))
  if Text.blank host then body else host

/-- The pattern of a prompt that was seen. Its escape sequences and the blanks at its end do not
count; without a terminator, or without a prompt, the pattern is generic. -/
def ofPrompt (prompt : Option Text) : Except Overlong PromptPattern :=
  match prompt with
  | none => .ok generic
  | some p =>
    if Text.blank p then .ok generic
    else (stripEscapes p).map fun plain =>
      let trimmed := Text.trimEnd plain
      if trimmed.getLast?.any Prompt.isTerminator then
        ofHost (hostOf (Text.trimEnd trimmed.dropLast))
      else generic

/-- Whether a line holds a match of the pattern. -/
def isIn (p : PromptPattern) (line : Text) : Bool :=
  p.pattern.occursIn line

end PromptPattern

namespace Prompt

/-- Whether the last line that is not empty matches. -/
def ends (p : PromptPattern) (lookback : Int) (t : Text) : Bool :=
  ((lastLines lookback t).find? fun line => !line.isEmpty).any p.isIn

/-- A prompt of another kind at the end of the output: the last line that is not blank, when it
looks like a prompt and does not match. -/
def changed (p : PromptPattern) (lookback : Int) (t : Text) : Option Text :=
  (((lastLines lookback t).map Text.trimEnd).find? fun line => !line.isEmpty).filter fun line =>
    isLikely line && !p.isIn line

end Prompt

end Teletype
