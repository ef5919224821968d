import Teletype.Action
import Teletype.Document.Yaml.Schema
import Teletype.Document.Yaml.Token

/-!
# The nodes of a YAML document

A document is a graph of scalars, lists and mappings, each with a tag that says what kind of value
it stands for. A node without a tag gets one from its form, and a plain scalar from its text. An
alias is one more edge to the node that its anchor is put to, which can be a node that the alias
stands in.

`Graph.read` builds the graph of the only document of a text; it fails where the tokens do not fit
together, and where there is a second document.
-/

namespace Teletype

namespace Yaml

/-- A node; the nodes that it is made of are given by their numbers. -/
inductive Node where
  | scalar (tag : Tag) (t : Text)
  | list (tag : Tag) (items : List Nat)
  | map (tag : Tag) (entries : List (Nat × Nat))

/-- The tag of a node. -/
def Node.tag : Node → Tag
  | scalar tag _ => tag
  | list tag _ => tag
  | map tag _ => tag

/-- A node with another tag. -/
def Node.withTag (tag : Tag) : Node → Node
  | scalar _ t => scalar tag t
  | list _ items => list tag items
  | map _ entries => map tag entries

/-- The nodes of a document, each under its number, and the outermost one, which a text without a
document does not have. -/
structure Graph where
  nodes : Array Node
  root : Option Nat

/-- What is left of the tokens, what handles of tags stand for, the anchors so far with the numbers
of their nodes, and the nodes so far. -/
structure Builder where
  layout : Layout
  handles : List (Text × Text)
  anchors : List (Text × Nat)
  nodes : Array Node

/-- A step that builds something or fails. -/
abbrev Build (α : Type) := Action Builder DocumentFault α

namespace Build

/-- Fails, because the tokens do not fit together. -/
def fail {α : Type} : Build α := throw .malformed

/-- The next token, if there is one; `fuel` bounds the tokens that have to be read for that. -/
def peek (fuel : Nat) : Build (Option Token) :=
  Action.ofRun fun b =>
    match b.layout.settle fuel with
    | .ok l => (.ok l.found.head?, { b with layout := l })
    | .error f => (.error f, b)

/-- Steps over the next token. -/
def drop : Build Unit :=
  Action.change fun b => { b with layout := b.layout.drop }

/-- Whether one of some tokens comes next. -/
def nextIn (fuel : Nat) (ts : List Token) : Build Bool := do
  return (← peek fuel).any ts.contains

/-- Adds a node, and puts an anchor to it. -/
def add (anchor : Option Text) (n : Node) : Build Nat :=
  Action.ofRun fun ⟨layout, handles, anchors, nodes⟩ =>
    let id := nodes.size
    match anchor with
    | none => (.ok id, ⟨layout, handles, anchors, nodes.push n⟩)
    | some a =>
      if (anchors.lookup a).isSome then (.error .malformed, ⟨layout, handles, anchors, nodes⟩)
      else (.ok id, ⟨layout, handles, (a, id) :: anchors, nodes.push n⟩)

/-- Replaces a node. -/
def put (id : Nat) (n : Node) : Build Unit :=
  Action.change fun ⟨layout, handles, anchors, nodes⟩ =>
    ⟨layout, handles, anchors, nodes.setIfInBounds id n⟩

/-- The node that an anchor is put to. -/
def find (anchor : Text) : Build Nat := do
  match (← Action.look Builder.anchors).lookup anchor with
  | some id => return id
  | none => fail

/-- What a tag says in full, if its handle has a meaning. -/
def fullTag (handle : Option Text) (suffix : Text) : Build Text := do
  match handle with
  | none => return suffix
  | some h =>
    match (← Action.look Builder.handles).lookup h with
    | some meaning => return meaning ++ suffix
    | none => fail

end Build

open Build

/-- What stands in front of a node: an anchor and a tag, in either order. -/
structure Properties where
  anchor : Option Text
  tag : Option Text

/-- Reads what stands in front of a node. -/
def properties (fuel : Nat) : Build Properties := do
  match ← peek fuel with
  | some (.anchor a) =>
    drop
    match ← peek fuel with
    | some (.tag h s) =>
      drop
      return ⟨some a, some (← fullTag h s)⟩
    | _ => return ⟨some a, none⟩
  | some (.tag h s) =>
    drop
    match ← peek fuel with
    | some (.anchor a) =>
      drop
      return ⟨some a, some (← fullTag h s)⟩
    | _ => return ⟨none, some (← fullTag h s)⟩
  | _ => return ⟨none, none⟩

namespace Properties

/-- Whether the tag is left to the form of the node. -/
def isOpen (p : Properties) : Bool := p.tag.all (· == ['!'])

/-- The tag of a list or mapping whose form stands for a tag. -/
def tagOr (p : Properties) (form : Tag) : Tag :=
  match p.tag with
  | some t => if p.isOpen then form else Tag.ofText t
  | none => form

/-- The tag of a scalar. -/
def scalarTag (p : Properties) (isPlain : Bool) (t : Text) : Tag :=
  match p.tag with
  | some tag => if p.isOpen then Tag.ofPlain t else Tag.ofText tag
  | none => if isPlain then Tag.ofPlain t else .str

end Properties

/-- Adds the node that stands where nothing is written. -/
def absent : Build Nat := add none (.scalar (Tag.ofPlain []) [])

/-- Adds an empty node, which needs an anchor or a tag. -/
def nothing (p : Properties) : Build Nat :=
  if p.anchor.isSome || p.tag.isSome then
    add p.anchor (.scalar (if p.isOpen then Tag.ofPlain [] else p.tagOr .str) [])
  else fail

/-- Adds a list with the items that a step reads. The list is there before its items are, so that an
alias among them can stand for it. -/
def listOf (p : Properties) (items : Build (List Nat)) : Build Nat := do
  let id ← add p.anchor (.list (p.tagOr .seq) [])
  put id (.list (p.tagOr .seq) (← items))
  return id

/-- Adds a mapping with the entries that a step reads; it is there before its entries are. -/
def mapOf (p : Properties) (entries : Build (List (Nat × Nat))) : Build Nat := do
  let id ← add p.anchor (.map (p.tagOr .map) [])
  put id (.map (p.tagOr .map) (← entries))
  return id

/-- Reads the comma in front of all items or entries but the first. -/
def comma (fuel : Nat) (isFirst : Bool) : Build Unit := do
  if isFirst then return
  else if ← nextIn fuel [.comma] then drop
  else fail

/-! ## Nodes

The argument `fuel` bounds how deep the steps below are nested, where every further item or entry
counts as a level; there are no more levels than a few for each token. -/

mutual

/-- Reads a node. Outside brackets it can be a block; behind a key it can also be a list whose
dashes stand no further in than the key. -/
def node : (fuel : Nat) → (inBlock behindKey : Bool) → Build Nat
  | 0, _, _ => fail
  | fuel + 1, inBlock, behindKey => do
    match ← peek fuel with
    | some (.alias a) =>
      drop
      find a
    | _ => content fuel inBlock behindKey (← properties fuel)

/-- Reads a node behind its properties. -/
def content : (fuel : Nat) → (inBlock behindKey : Bool) → Properties → Build Nat
  | 0, _, _, _ => fail
  | fuel + 1, inBlock, behindKey, p => do
    match ← peek fuel with
    | some .dash => if behindKey then listOf p (flushItems fuel []) else nothing p
    | some (.scalar isPlain t) =>
      drop
      add p.anchor (.scalar (p.scalarTag isPlain t) t)
    | some .flowListStart =>
      listOf p do
        drop
        flowItems fuel true []
    | some .flowMapStart =>
      mapOf p do
        drop
        flowEntries fuel true []
    | some .blockListStart =>
      if inBlock then
        listOf p do
          drop
          blockItems fuel []
      else nothing p
    | some .blockMapStart =>
      if inBlock then
        mapOf p do
          drop
          blockEntries fuel []
      else nothing p
    | _ => nothing p

/-- Reads a node, or nothing where one of some tokens comes next. -/
def nodeUnless : (fuel : Nat) → (inBlock behindKey : Bool) → List Token → Build Nat
  | 0, _, _, _ => fail
  | fuel + 1, inBlock, behindKey, ends => do
    if ← nextIn fuel ends then absent else node fuel inBlock behindKey

/-- Reads the items of a block behind those before, the last of which comes first. -/
def blockItems : (fuel : Nat) → (before : List Nat) → Build (List Nat)
  | 0, _ => fail
  | fuel + 1, before => do
    match ← peek fuel with
    | some .dash =>
      drop
      let n ← nodeUnless fuel true false [.dash, .blockEnd]
      blockItems fuel (n :: before)
    | some .blockEnd =>
      drop
      return before.reverse
    | _ => fail

/-- Reads items that stand no further in than the key before them. -/
def flushItems : (fuel : Nat) → (before : List Nat) → Build (List Nat)
  | 0, _ => fail
  | fuel + 1, before => do
    match ← peek fuel with
    | some .dash =>
      drop
      let n ← nodeUnless fuel true false [.dash, .key, .colon, .blockEnd]
      flushItems fuel (n :: before)
    | _ => return before.reverse

/-- Reads the value behind a key, which is absent where no colon stands. -/
def valueUnless : (fuel : Nat) → (inBlock : Bool) → List Token → Build Nat
  | 0, _, _ => fail
  | fuel + 1, inBlock, ends => do
    match ← peek fuel with
    | some .colon =>
      drop
      nodeUnless fuel inBlock inBlock ends
    | _ => absent

/-- Reads the entries of a block. -/
def blockEntries : (fuel : Nat) → (before : List (Nat × Nat)) → Build (List (Nat × Nat))
  | 0, _ => fail
  | fuel + 1, before => do
    match ← peek fuel with
    | some .key =>
      drop
      let ends := [.key, .colon, .blockEnd]
      let k ← nodeUnless fuel true true ends
      let v ← valueUnless fuel true ends
      blockEntries fuel ((k, v) :: before)
    | some .blockEnd =>
      drop
      return before.reverse
    | _ => fail

/-- Reads the items between brackets; a key there begins a mapping of one entry. -/
def flowItems : (fuel : Nat) → (isFirst : Bool) → (before : List Nat) → Build (List Nat)
  | 0, _, _ => fail
  | fuel + 1, isFirst, before => do
    if ← nextIn fuel [.flowListEnd] then
      drop
      return before.reverse
    else
      comma fuel isFirst
      match ← peek fuel with
      | some .key =>
        let n ← mapOf ⟨none, none⟩ do
          drop
          let k ← nodeUnless fuel false false [.colon, .comma, .flowListEnd]
          let v ← valueUnless fuel false [.comma, .flowListEnd]
          return [(k, v)]
        flowItems fuel false (n :: before)
      | some .flowListEnd =>
        drop
        return before.reverse
      | _ =>
        let n ← node fuel false false
        flowItems fuel false (n :: before)

/-- Reads the entries between braces; a node there without a colon is a key without a value. -/
def flowEntries : (fuel : Nat) → (isFirst : Bool) → (before : List (Nat × Nat)) →
    Build (List (Nat × Nat))
  | 0, _, _ => fail
  | fuel + 1, isFirst, before => do
    if ← nextIn fuel [.flowMapEnd] then
      drop
      return before.reverse
    else
      comma fuel isFirst
      match ← peek fuel with
      | some .key =>
        drop
        let k ← nodeUnless fuel false false [.colon, .comma, .flowMapEnd]
        let v ← valueUnless fuel false [.comma, .flowMapEnd]
        flowEntries fuel false ((k, v) :: before)
      | some .flowMapEnd =>
        drop
        return before.reverse
      | _ =>
        let k ← node fuel false false
        let v ← absent
        flowEntries fuel false ((k, v) :: before)

end

/-! ## Documents -/

/-- What the handles of tags stand for unless a directive says otherwise. -/
def usualHandles : List (Text × Text) :=
  [(['!'], ['!']), (['!', '!'], Tag.family)]

/-- Reads the directives of a document, and what they say about handles; each may stand there once,
and the version has to be 1. -/
def directives : (fuel : Nat) → (hasVersion : Bool) → (handles : List (Text × Text)) →
    Build (List (Text × Text))
  | 0, _, _ => fail
  | fuel + 1, hasVersion, handles => do
    match ← peek fuel with
    | some (.directive d) =>
      drop
      match d with
      | .version major =>
        if hasVersion || major != 1 then fail else directives fuel true handles
      | .handle h meaning =>
        if (handles.lookup h).isSome then fail
        else directives fuel hasVersion ((h, meaning) :: handles)
      | .other => directives fuel hasVersion handles
    | _ => return handles

/-- Reads the marks behind a document, and finds out whether anything follows them. Directives are
read there too before what follows is refused. -/
def finish : (fuel : Nat) → Build Unit
  | 0 => fail
  | fuel + 1 => do
    match ← peek fuel with
    | none => return
    | some .documentEnd =>
      drop
      finish fuel
    | _ =>
      let _ ← directives fuel false []
      fail

/-- Whether a token can only stand outside a document. -/
def Token.isOuter : Token → Bool
  | directive _ | documentStart | documentEnd => true
  | _ => false

/-- Reads a document whose start is marked. -/
def markedDocument (fuel : Nat) : Build Nat := do
  let handles ← directives fuel false []
  if ← nextIn fuel [.documentStart] then
    drop
    Action.change fun b => { b with handles := handles ++ usualHandles }
    if (← peek fuel).all Token.isOuter then absent else node fuel true false
  else fail

/-- Reads the only document of a text, if there is one. -/
def document (fuel : Nat) : Build (Option Nat) := do
  match ← peek fuel with
  | none => return none
  | some t =>
    let isMarked := match t with
      | .directive _ | .documentStart => true
      | _ => false
    let root ← if isMarked then markedDocument fuel else node fuel true false
    finish fuel
    return some root

/-- Builds the graph of the only document of a text. A character gives rise to four tokens at most,
and a token to four levels of steps. -/
def Graph.read (t : Text) : Except DocumentFault Graph :=
  if !t.all isAllowed then .error .malformed
  else
    let fuel := 16 * t.length + 64
    match (document fuel).runFrom ⟨Layout.start t, usualHandles, [], #[]⟩ with
    | (.ok root, b) => .ok ⟨b.nodes, root⟩
    | (.error f, _) => .error f

end Yaml

end Teletype
