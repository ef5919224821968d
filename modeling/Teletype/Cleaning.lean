import Teletype.Screen
import Teletype.Pager

/-!
# Clean output

The whole way from raw output to text for a reader: rendering, then removal of unsafe characters and
of pager prompts, as far as they are wanted.
-/

namespace Teletype

/-- What is done to raw output. -/
structure Cleaning where
  /-- The distance of tab stops. -/
  tabWidth : Int := TabStops.usual
  /-- Whether unsafe characters are removed. -/
  sanitized : Bool := true
  /-- Whether pager prompts are removed. -/
  unpaged : Bool := true

namespace Cleaning

/-- Raw output made clean, and whether pager prompts were removed from it. -/
def clean (w : Cleaning) (t : Text) : Except RenderFault (Text × Bool) :=
  (Screen.normalize w.tabWidth t).map fun rendered =>
    let safe := if w.sanitized then sanitize rendered else rendered
    if w.unpaged then Pager.strip safe else (safe, false)

/-- The same for output that may be absent; the tab width is looked at first. -/
def clean? (w : Cleaning) : Option Text → Except RenderFault (Option Text × Bool)
  | none => (TabStops.every? w.tabWidth).map fun _ => (none, false)
  | some t => (w.clean t).map fun (text, paged) => (some text, paged)

end Cleaning

end Teletype
