/-!
# The roster of a pool

A roster holds the sessions of a pool by their names, in the order in which they were registered,
and the names that are *reserved* for sessions that are still being started. A name is taken when it
is registered or reserved. Each operation here is one indivisible step: callers that overlap take
turns between them and never within one.
-/

namespace Teletype

/-- Registered sessions by name, reserved names, and how many names were made up. A session is known
by its number. -/
structure Roster where
  entries : List (String × Nat)
  reserved : List String
  counter : Nat
deriving DecidableEq, Repr

namespace Roster

/-- The roster without sessions. -/
def empty : Roster := ⟨[], [], 0⟩

/-- The registered names, in order. -/
def names (r : Roster) : List String :=
  r.entries.map (·.1)

/-- The session registered under a name. -/
def find? (r : Roster) (name : String) : Option Nat :=
  r.entries.lookup name

/-- Whether a name is registered or reserved. -/
def isTaken (r : Roster) (name : String) : Bool :=
  r.names.contains name || r.reserved.contains name

/-- A name with a number behind it. -/
def suffixed (name : String) (n : Nat) : String :=
  name ++ "_" ++ toString n

/-- The least number from `n` on with which a name is not taken, looked for in `steps` steps. -/
def freeSuffix (r : Roster) (name : String) : (steps n : Nat) → Nat
  | 0, n => n
  | steps + 1, n =>
    if r.isTaken (suffixed name n) then freeSuffix r name steps (n + 1) else n

/-- A name if it is not taken, or else with the least number from one on with which it is not
taken. There are no more taken names than registered and reserved ones together. -/
def freeName (r : Roster) (name : String) : String :=
  if r.isTaken name then
    suffixed name (r.freeSuffix name (r.entries.length + r.reserved.length) 1)
  else name

/-- The name that a new session gets: the one that is asked for, made free, or else one that is made
up. -/
def nameFor (r : Roster) (wanted : Option String) : String × Roster :=
  match wanted.filter fun name => !name.isEmpty with
  | some name => (r.freeName name, r)
  | none => ("session_" ++ toString r.counter, { r with counter := r.counter + 1 })

/-- Reserves a name. -/
def reserve (r : Roster) (name : String) : Roster :=
  { r with reserved := if r.reserved.contains name then r.reserved else r.reserved ++ [name] }

/-- Gives a reserved name back. -/
def release (r : Roster) (name : String) : Roster :=
  { r with reserved := r.reserved.filter (· != name) }

/-- Puts a session under a name; one that stands there is replaced in its place. -/
def put (name : String) (session : Nat) : List (String × Nat) → List (String × Nat)
  | [] => [(name, session)]
  | (n, s) :: rest => if n = name then (n, session) :: rest else (n, s) :: put name session rest

/-- Registers a session under a name that was reserved for it. -/
def register (r : Roster) (name : String) (session : Nat) : Roster :=
  { r.release name with entries := put name session r.entries }

/-- Takes a name off the roster, if it is registered. -/
def drop (r : Roster) (name : String) : Roster :=
  { r with entries := r.entries.filter fun e => e.1 != name }

/-- Takes all registered names off the roster. -/
def clear (r : Roster) : Roster :=
  { r with entries := [] }

/-- The reserved names in order of the alphabet. -/
def reservedInOrder (r : Roster) : List String :=
  r.reserved.mergeSort fun a b => !decide (b < a)

/-! ## What each step changes -/

/-- A name is taken when it is registered or reserved. -/
theorem isTaken_eq_true (r : Roster) (name : String) :
    r.isTaken name = true ↔ name ∈ r.names ∨ name ∈ r.reserved := by
  simp [isTaken]

/-- Reserving adds one name. -/
theorem mem_reserved_reserve (r : Roster) (name x : String) :
    x ∈ (r.reserve name).reserved ↔ x = name ∨ x ∈ r.reserved := by
  unfold reserve
  split
  · rename_i h
    have : name ∈ r.reserved := List.contains_iff_mem.1 h
    grind
  · simp only [List.mem_append, List.mem_singleton]
    grind

/-- Giving back takes one name away. -/
theorem mem_reserved_release (r : Roster) (name x : String) :
    x ∈ (r.release name).reserved ↔ x ∈ r.reserved ∧ x ≠ name := by
  simp [release]

theorem lookup_put (name x : String) (session : Nat) (entries : List (String × Nat)) :
    (put name session entries).lookup x = if x = name then some session else entries.lookup x := by
  induction entries with
  | nil => simp only [put, List.lookup_cons, List.lookup_nil]; grind
  | cons e rest ih =>
    obtain ⟨n, s⟩ := e
    simp only [put]
    split <;> simp only [List.lookup_cons, ih] <;> grind

/-- Registering changes what stands under one name. -/
theorem find?_register (r : Roster) (name x : String) (session : Nat) :
    (r.register name session).find? x = if x = name then some session else r.find? x :=
  lookup_put name x session r.entries

theorem map_fst_put (name : String) (session : Nat) (entries : List (String × Nat)) :
    (put name session entries).map (·.1) =
      if name ∈ entries.map (·.1) then entries.map (·.1) else entries.map (·.1) ++ [name] := by
  induction entries with
  | nil => simp [put]
  | cons e rest ih =>
    obtain ⟨n, s⟩ := e
    simp only [put]
    split
    · simp [*]
    · simp only [List.map_cons, ih, List.mem_cons]
      grind

/-- A new name goes to the end, and a known one keeps its place. -/
theorem names_register (r : Roster) (name : String) (session : Nat) :
    (r.register name session).names =
      if name ∈ r.names then r.names else r.names ++ [name] :=
  map_fst_put name session r.entries

/-- The other names keep their order. -/
theorem names_drop (r : Roster) (name : String) :
    (r.drop name).names = r.names.filter (· != name) := by
  simp only [drop, names, List.filter_map]
  rfl

end Roster

end Teletype
