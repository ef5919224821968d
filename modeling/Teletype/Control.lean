import Teletype.Text.Basic

/-!
# Control characters

The characters below the space and the delete character have no form of their own. Three of them
move the cursor along a line (carriage return, backspace and tab), one ends a line, one begins an
escape, and the bell can end a string that an escape carries.
-/

namespace Teletype

namespace Control

def bell : Char := '\x07'
def backspace : Char := '\x08'
def tab : Char := '\x09'
def lineFeed : Char := '\x0a'
def carriageReturn : Char := '\x0d'
def escape : Char := '\x1b'
def delete : Char := '\x7f'

/-- A character below the space, or the delete character. -/
def isControl (c : Char) : Bool :=
  decide (c < ' ' ∨ c = delete)

end Control

/-! ## What is kept of raw output

Raw output may hold bytes that are unsafe to store or show. Those with a meaning to the renderer
are kept: `sanitize` removes the other control characters and nothing else. -/

/-- A control character that rendering has no use for. The delete character is not one of them. -/
def isNoise (c : Char) : Bool :=
  decide (c < ' ' ∧ c ≠ Control.backspace ∧ c ≠ Control.tab ∧ c ≠ Control.lineFeed ∧
    c ≠ Control.carriageReturn ∧ c ≠ Control.escape)

/-- A text without the control characters that rendering has no use for. -/
def sanitize (t : Text) : Text :=
  t.filter fun c => !isNoise c

end Teletype
