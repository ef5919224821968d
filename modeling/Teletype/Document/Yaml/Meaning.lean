import Teletype.Document.Yaml.Graph

/-!
# The value of a YAML document

What the outermost node of a graph stands for (`Graph.value`). A scalar is read as soon as it is
met; a list, a set or a mapping waits until all that were met before it had their turn, and then
meets its own parts. So a fault near the surface of a document goes before one that lies deeper. A
node that is met again, under an alias, is not read again.

A mapping takes over the entries of the mappings under its merge keys when its turn comes; its own
entries come after them and replace those under the same key. A key is a value that can be told from
others, which lists, mappings and sets cannot. Of a node that contains itself only the outside is
kept: where it stands inside itself there is no value.
-/

namespace Teletype

namespace Yaml

/-- What a node is known to stand for; its parts are given by the numbers of their nodes. -/
inductive Content where
  /-- A value that has no parts. -/
  | whole (v : Value)
  | list (items : List Nat)
  | pairs (items : List (Nat × Nat))
  | set (keys : List Value)
  | mapping (entries : List (Value × Nat))

/-- The nodes of a document, what those that were met stand for, and the numbers of those with parts
in the order in which they were met. -/
structure Assembly where
  nodes : Array Node
  contents : Array (Option Content)
  met : Array Nat

/-- A step that finds out what nodes stand for. -/
abbrev Assemble (α : Type) := Action Assembly DocumentFault α

namespace Assemble

/-- Fails, because the parts of the document do not fit together. -/
def fail {α : Type} : Assemble α := throw .malformed

/-- The node with a number. -/
def nodeAt (id : Nat) : Assemble Node := do
  match ← Action.look fun s => s.nodes[id]? with
  | some n => return n
  | none => fail

/-- The entries of a mapping. -/
def entriesAt (id : Nat) : Assemble (List (Nat × Nat)) := do
  match ← nodeAt id with
  | .map _ entries => return entries
  | _ => fail

/-- Replaces a node. -/
def setNode (id : Nat) (n : Node) : Assemble Unit :=
  Action.change fun ⟨nodes, contents, met⟩ => ⟨nodes.setIfInBounds id n, contents, met⟩

/-- Says what a node stands for. -/
def setContent (id : Nat) (c : Content) : Assemble Unit :=
  Action.change fun ⟨nodes, contents, met⟩ => ⟨nodes, contents.setIfInBounds id (some c), met⟩

/-- Lets a node wait for its turn. -/
def enqueue (id : Nat) : Assemble Unit :=
  Action.change fun ⟨nodes, contents, met⟩ => ⟨nodes, contents, met.push id⟩

end Assemble

open Assemble

/-! ## Scalars -/

/-- The text that a node stands for as a scalar: its own, or that of the node under the key `=`,
looked for through no more than `fuel` mappings. -/
def scalarText (nodes : Array Node) : (fuel : Nat) → (id : Nat) → Option Text
  | 0, _ => none
  | fuel + 1, id =>
    match nodes[id]? with
    | some (.scalar _ t) => some t
    | some (.map _ entries) =>
      match entries.find? fun (k, _) => nodes[k]?.any fun n => n.tag == .value with
      | some (_, v) => scalarText nodes fuel v
      | none => none
    | _ => none

/-- The value of a scalar; `isOwn` says whether the text is the node's own. -/
def scalarValue (tag : Tag) (isOwn : Bool) (t : Text) : Except DocumentFault Value :=
  match tag with
  | .null => .ok .null
  | .bool => (boolValue t).map .bool
  | .int => (intValue t).map .int
  | .float => (floatValue t).map .float
  | .binary => binaryValue t
  | .timestamp => if isOwn then timestampValue t else .error .mappingForMoment
  | .str => .ok (.text t)
  | _ => .error .malformed

/-- Reads a scalar. -/
def readScalar (id : Nat) (n : Node) : Assemble Content := do
  let isOwn := match n with
    | .scalar .. => true
    | _ => false
  match ← Action.look fun s => scalarText s.nodes (s.nodes.size + 1) id with
  | some t => return .whole (← Action.ofExcept (scalarValue n.tag isOwn t))
  | none => fail

/-! ## Merge keys -/

/-- The entries that a merge key takes over from a mapping, or from a list of mappings, of which the
first goes before the others and so comes last. `prepare` brings a mapping into a state without
merge keys. -/
def mergedEntries (prepare : Nat → Assemble Unit) (id : Nat) : Assemble (List (Nat × Nat)) := do
  match ← nodeAt id with
  | .map .. =>
    prepare id
    entriesAt id
  | .list _ items =>
    let groups ← items.mapM fun i => do
      match ← nodeAt i with
      | .map .. =>
        prepare i
        entriesAt i
      | _ => fail
    return groups.reverse.flatten
  | .scalar .. => fail

/-- The first entry of a mapping, from a position on, whose key is a merge key or `=`, and where it
stands. -/
def nextSpecial (id position : Nat) : Assemble (Option (Nat × Nat × Nat)) := do
  let entries ← entriesAt id
  let nodes ← Action.look Assembly.nodes
  let isSpecial (k : Nat) : Bool := nodes[k]?.any fun n => n.tag == .merge || n.tag == .value
  let rest := entries.drop position
  match rest.findIdx? fun (k, _) => isSpecial k with
  | some i => return rest[i]?.map fun entry => (position + i, entry)
  | none => return none

/-- Goes over the entries of a mapping from a position on: removes its merge keys, makes a text of
the keys `=`, and returns the entries taken over, behind those that were taken over before. -/
def removeMergeKeys (prepare : Nat → Assemble Unit) (id : Nat) :
    (steps position : Nat) → (merged : List (Nat × Nat)) → Assemble (List (Nat × Nat))
  | 0, _, merged => return merged
  | steps + 1, position, merged => do
    match ← nextSpecial id position with
    | none => return merged
    | some (position, k, v) =>
      let key ← nodeAt k
      if key.tag = .merge then
        setNode id (.map (← nodeAt id).tag ((← entriesAt id).eraseIdx position))
        let more ← mergedEntries prepare v
        removeMergeKeys prepare id steps position (merged ++ more)
      else
        setNode k (key.withTag .str)
        removeMergeKeys prepare id steps (position + 1) merged

/-- Takes over the entries under the merge keys of a mapping. A mapping can be met again on the way,
inside itself; then its remaining merge keys are dealt with there. Every level removes a merge key,
so `depth` need not be greater than their number. -/
def takeOver : (depth id : Nat) → Assemble Unit
  | 0, _ => fail
  | depth + 1, id => do
    let steps := (← entriesAt id).length
    let merged ← removeMergeKeys (takeOver depth) id steps 0 []
    if merged.isEmpty then return
    else setNode id (.map (← nodeAt id).tag (merged ++ (← entriesAt id)))

/-! ## All nodes -/

/-- Meets a node. -/
def meet (id : Nat) : Assemble Content := do
  match ← Action.look fun s => s.contents[id]? with
  | some (some c) => return c
  | _ =>
    let n ← nodeAt id
    let wait (c : Content) : Assemble Content := do
      enqueue id
      return c
    let c ← match n.tag with
      | .seq => wait (.list [])
      | .omap | .pairs => wait (.pairs [])
      | .set => wait (.set [])
      | .map => wait (.mapping [])
      | _ => readScalar id n
    setContent id c
    return c

/-- Meets the parts of the entries of a mapping; their keys have to be values without parts. -/
def meetEntries (depth id : Nat) : Assemble (List (Value × Nat)) := do
  takeOver depth id
  (← entriesAt id).mapM fun (k, v) => do
    match ← meet k with
    | .whole key =>
      let _ ← meet v
      return (key, v)
    | _ => fail

/-- Meets the parts of an item of a list of pairs, which is a mapping of one entry. -/
def meetPair (id : Nat) : Assemble (Nat × Nat) := do
  match ← nodeAt id with
  | .map _ [(k, v)] =>
    let _ ← meet k
    let _ ← meet v
    return (k, v)
  | _ => fail

/-- The items of a list. -/
def itemsAt (id : Nat) : Assemble (List Nat) := do
  match ← nodeAt id with
  | .list _ items => return items
  | _ => fail

/-- Meets the parts of a node when its turn has come. -/
def meetParts (depth id : Nat) : Assemble Unit := do
  match ← meet id with
  | .whole _ => return
  | .list _ =>
    let items ← itemsAt id
    for i in items do
      let _ ← meet i
    setContent id (.list items)
  | .pairs _ => setContent id (.pairs (← (← itemsAt id).mapM meetPair))
  | .set _ => setContent id (.set ((Value.distinct (← meetEntries depth id)).map (·.1)))
  | .mapping _ => setContent id (.mapping (Value.distinct (← meetEntries depth id)))

/-- Gives every node that was met its turn, from the one at a position on. No node is met for the
first time twice, so `fuel` need not be greater than the number of nodes. -/
def meetAll (depth : Nat) : (fuel position : Nat) → Assemble Unit
  | 0, _ => return
  | fuel + 1, position => do
    match ← Action.look fun s => s.met[position]? with
    | none => return
    | some id =>
      meetParts depth id
      meetAll depth fuel (position + 1)

/-! ## Values -/

/-- Finds the value of a node and keeps it for the next time. Until it is found there is no value,
so that a node inside itself has none. -/
def remember (id : Nat) (find : StateM (Array (Option Value)) Value) :
    StateM (Array (Option Value)) Value := do
  match (← get)[id]? with
  | some (some v) => return v
  | _ =>
    modify fun values => values.setIfInBounds id (some .null)
    let v ← find
    modify fun values => values.setIfInBounds id (some v)
    return v

/-- The value of a node. -/
def assemble (contents : Array (Option Content)) :
    (fuel id : Nat) → StateM (Array (Option Value)) Value
  | 0, _ => return .null
  | fuel + 1, id => remember id do
    match contents[id]? with
    | some (some (.whole v)) => return v
    | some (some (.list items)) => return .list (← items.mapM (assemble contents fuel))
    | some (some (.pairs items)) =>
      let pairs ← items.mapM fun (k, v) => do
        return .list [← assemble contents fuel k, ← assemble contents fuel v]
      return .list pairs
    | some (some (.set keys)) => return .set keys
    | some (some (.mapping entries)) =>
      let values ← entries.mapM fun (k, v) => do return (k, ← assemble contents fuel v)
      return .mapping values
    | _ => return .null

/-- How many keys the mappings of a graph have together. -/
def Graph.keyCount (g : Graph) : Nat :=
  g.nodes.foldl (fun n node => match node with
    | .map _ entries => n + entries.length
    | _ => n) 0

/-- The value that a graph stands for, which is nothing at all without a document. -/
def Graph.value (g : Graph) : Except DocumentFault Value :=
  match g.root with
  | none => .ok .null
  | some root =>
    let size := g.nodes.size
    let all : Assemble Unit := do
      let _ ← meet root
      meetAll (g.keyCount + 1) (size + 1) 0
    match all.runFrom ⟨g.nodes, Array.replicate size none, #[]⟩ with
    | (.error f, _) => .error f
    | (.ok _, s) =>
      .ok ((assemble s.contents (size + 1) root).run (Array.replicate size none)).1

/-- Reads a document, which is nothing at all in a text without one. -/
def read (t : Text) : Except DocumentFault Value := do
  (← Graph.read t).value

end Yaml

end Teletype
