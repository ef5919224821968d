/-!
# Environments

The variables that a process is started with. A later value of a variable takes the place of an
earlier one.
-/

namespace Teletype

/-- Variables and their values. -/
abbrev Environment := List (String × String)

namespace Environment

/-- The value of a variable. -/
def get? (env : Environment) (name : String) : Option String :=
  env.lookup name

/-- Sets a variable. -/
def set (name value : String) : Environment → Environment
  | [] => [(name, value)]
  | (n, v) :: rest => if n = name then (n, value) :: rest else (n, v) :: set name value rest

/-- Sets all variables of another environment. -/
def update (env more : Environment) : Environment :=
  more.foldl (fun e (n, v) => set n v e) env

end Environment

end Teletype
