import Teletype.Calendar
import Teletype.Number

/-!
# Values

A settings document holds values of any kind, and the keys of its mappings need not be texts. Values
of some kinds have an order; `Value.lt` is their strict order, which fails where two values have no
order between them. Keys that are equal as numbers are the same key, whatever their kind.
-/

namespace Teletype

/-- A value of a document. A mapping keeps its entries in the order of their keys' first
occurrence. -/
inductive Value where
  | null
  | number (n : Number)
  | text (t : Text)
  | bytes (bs : List UInt8)
  | day (d : Day)
  | moment (m : Moment)
  | list (vs : List Value)
  | set (vs : List Value)
  | mapping (entries : List (Value × Value))
deriving Inhabited

/-- Why two values have no order between them. -/
inductive OrderFault where
  /-- Their kinds have none. -/
  | kinds (left right : String)
  /-- One is a day and the other a moment. -/
  | dayAndMoment
  /-- Only one of two moments says how its clock was set. -/
  | clocks
deriving DecidableEq, Repr

/-- The text that reports that a relation cannot be decided. -/
def OrderFault.message (relation : String) : OrderFault → String
  | kinds left right =>
    s!"'{relation}' not supported between instances of '{left}' and '{right}'"
  | dayAndMoment => "can't compare datetime.datetime to datetime.date"
  | clocks => "can't compare offset-naive and offset-aware datetimes"

namespace Value

/-- A whole number. -/
abbrev int (n : Int) : Value := number (.int n)

/-- A truth value. -/
abbrev bool (b : Bool) : Value := number (.bool b)

/-- A double. -/
abbrev float (x : Float) : Value := number (.float x)

/-- The name of a value's kind in messages. -/
def kindName : Value → String
  | null => "NoneType"
  | number (.int _) => "int"
  | number (.bool _) => "bool"
  | number (.float _) => "float"
  | text _ => "str"
  | bytes _ => "bytes"
  | day _ => "datetime.date"
  | moment _ => "datetime.datetime"
  | list _ => "list"
  | set _ => "set"
  | mapping _ => "dict"

/-- Whether a value counts as true: zero, and what is empty or absent, does not. -/
def isTrue : Value → Bool
  | null => false
  | number n => n.value.lt (Double.ofInt 0) || (Double.ofInt 0).lt n.value || n.value == .nan
  | text t => !t.isEmpty
  | bytes bs => !bs.isEmpty
  | day _ => true
  | moment _ => true
  | list vs => !vs.isEmpty
  | set vs => !vs.isEmpty
  | mapping entries => !entries.isEmpty

/-- The strict order of two values, where there is one. -/
def lt : Value → Value → Except OrderFault Bool
  | number a, number b => .ok (a.lt b)
  | text a, text b => .ok (decide (a < b))
  | bytes a, bytes b => .ok (decide (a < b))
  | day a, day b => .ok (a.lt b)
  | moment a, moment b => if Moment.isComparable a b then .ok (a.lt b) else .error .clocks
  | day _, moment _ => .error .dayAndMoment
  | moment _, day _ => .error .dayAndMoment
  | a, b => .error (.kinds a.kindName b.kindName)

/-- Whether two values are the same key of a mapping. -/
def sameKey : Value → Value → Bool
  | null, null => true
  | number a, number b => a.le b && b.le a
  | text a, text b => a == b
  | bytes a, bytes b => a == b
  | day a, day b => a == b
  | moment a, moment b => a.same b
  | _, _ => false

/-- Adds an entry to a row of entries; an entry under the same key is replaced in its place. -/
def insert {α : Type} (key : Value) (value : α) : List (Value × α) → List (Value × α)
  | [] => [(key, value)]
  | (k, v) :: rest => if sameKey k key then (k, value) :: rest else (k, v) :: insert key value rest

/-- Entries of which a later one replaces an earlier one under the same key. -/
def distinct {α : Type} (entries : List (Value × α)) : List (Value × α) :=
  entries.foldl (fun m (k, v) => insert k v m) []

/-- The value under a text key. -/
def lookup (key : Text) (entries : List (Value × Value)) : Option Value :=
  (entries.find? fun (k, _) => sameKey k (text key)).map (·.2)

end Value

end Teletype
