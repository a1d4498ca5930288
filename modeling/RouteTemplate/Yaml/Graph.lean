/-
The nodes of a YAML document.

Nodes refer to each other by number, since the same node may stand in several
places, and a collection may even be found inside itself.  A collection has its
number and its anchor before its items are read.

Each reader takes nodes off the front of the tokens.  All of them are bounded by
one amount of fuel, which goes down on every call and is set from the number of
tokens: between two calls that take no token there are at most three others.  A
second bound, the room, limits how deep collections are nested.
-/
import RouteTemplate.Yaml.Scalar
import RouteTemplate.Yaml.Token

namespace RouteTemplate
namespace Yaml

inductive Content where
  /-- A text, and whether it is whole. -/
  | scalar (text : String) (whole : Bool)
  | sequence (items : List Nat)
  | mapping (entries : List (Nat × Nat))
deriving Repr

structure Node where
  tag : String
  content : Content
deriving Repr

/-- The nodes of a document by their numbers, and which of them is the whole. -/
structure Graph where
  nodes : Array Node
  root : Nat
deriving Repr

namespace Graph

/-- How deep collections may be nested. -/
def maxDepth : Nat := 490

/-- What is being read, and what has been said in the document so far. -/
structure Context where
  tokens : List Token
  nodes : Array Node
  anchors : List (String × Nat)
  handles : List (String × String)

abbrev Read (α : Type) := StateT Context (Except Fault) α

def fail {α : Type} : Read α := throw .malformed

def next : Read Token := do
  match (← get).tokens.headD .streamEnd with
  | .fault f => throw f
  | t => return t

def drop : Read Unit := modify fun s => { s with tokens := s.tokens.tail }

/-! ## Nodes -/

/-- An anchor can be set only once in a document. -/
def checkAnchor : Option String → Read Unit
  | none => pure ()
  | some a => do if ((← get).anchors.lookup a).isSome then fail

/-- A new node, under its anchor if it has one. -/
def addNode (anchor : Option String) (n : Node) : Read Nat := do
  checkAnchor anchor
  let s ← get
  let id := s.nodes.size
  set { s with
    nodes := s.nodes.push n
    anchors := (anchor.map fun a => (a, id)).toList ++ s.anchors }
  return id

/-- What nothing at all is read as. -/
def empty : Read Nat := addNode none ⟨ScalarKind.null.tag, .scalar "" true⟩

/-- A new collection, before its items are known. -/
def openNode (room : Nat) (anchor : Option String) (tag : String) : Read Nat := do
  let id ← addNode anchor ⟨tag, .sequence []⟩
  if room = 0 then throw .tooDeep
  return id

def closeNode (id : Nat) (content : Content) : Read Nat := do
  modify fun s => { s with nodes := s.nodes.modify id fun n => { n with content := content } }
  return id

/-! ## Properties -/

def standardHandles : List (String × String) := [("!", "!"), ("!!", standardTag "")]

/-- A tag with its handle written out. -/
def fullTag (handle : Option String) (suffix : String) : Read String := do
  match handle with
  | none => return suffix
  | some h =>
    match (← get).handles.lookup h with
    | some target => return target ++ suffix
    | none => fail

/-- The tag and the anchor in front of a node, in either order. -/
def properties : Read (Option String × Option String) := do
  let readTag : Read (Option (Option String × String)) := do
    match ← next with
    | .tag h s => drop; return some (h, s)
    | _ => return none
  let readAnchor : Read (Option String) := do
    match ← next with
    | .anchor a => drop; return some a
    | _ => return none
  let first ← readAnchor
  let tag ← readTag
  let anchor ← if first.isNone && tag.isSome then readAnchor else pure first
  match tag with
  | some (h, s) => return (some (← fullTag h s), anchor)
  | none => return (none, anchor)

/-- A tag that only says that there is one is no tag. -/
def properTag : Option String → Option String
  | some "!" => none
  | t => t

/-- The tag of a scalar.  Its type may be told from its form where it is plain or
where it has a tag that is none. -/
def scalarTag (tag : Option String) (plain : Bool) (text : String) : String :=
  match properTag tag with
  | some t => t
  | none =>
    if plain || tag.isSome then (Scalar.kind text).tag else ScalarKind.text.tag

def sequenceTag (tag : Option String) : String := (properTag tag).getD (standardTag "seq")

def mappingTag (tag : Option String) : String := (properTag tag).getD (standardTag "map")

mutual

/-- A node.  In a block it may be a collection told by indentation, and in the
place of a key or a value a sequence that is not indented. -/
def node : Nat → Nat → Bool → Bool → Read Nat
  | 0, _, _, _ => fail
  | fuel + 1, room, block, flush => do
    match ← next with
    | .reference name => do
      drop
      match (← get).anchors.lookup name with
      | some id => return id
      | none => fail
    | _ => do
      let (tag, anchor) ← properties
      let nothing : Read Nat :=
        if tag.isSome || anchor.isSome then
          addNode anchor ⟨scalarTag tag true "", .scalar "" true⟩
        else fail
      let openSequence := openNode room anchor (sequenceTag tag)
      let openMapping := openNode room anchor (mappingTag tag)
      match ← next with
      | .scalar plain whole text => do
        drop
        addNode anchor ⟨scalarTag tag (plain && tag.isNone) text, .scalar text whole⟩
      | .sequenceOpen => do
        let id ← openSequence
        drop
        closeNode id (.sequence (← flowItems fuel (room - 1) true))
      | .mappingOpen => do
        let id ← openMapping
        drop
        closeNode id (.mapping (← flowEntries fuel (room - 1) true))
      | .blockEntry =>
        if flush then do
          let id ← openSequence
          closeNode id (.sequence (← flushItems fuel (room - 1)))
        else nothing
      | .blockSequenceStart =>
        if block then do
          let id ← openSequence
          drop
          closeNode id (.sequence (← blockItems fuel (room - 1)))
        else nothing
      | .blockMappingStart =>
        if block then do
          let id ← openMapping
          drop
          closeNode id (.mapping (← blockEntries fuel (room - 1)))
        else nothing
      | _ => nothing

/-- The items of an indented sequence, up to and over its end. -/
def blockItems : Nat → Nat → Read (List Nat)
  | 0, _ => fail
  | fuel + 1, room => do
    match ← next with
    | .blockEntry => do
      drop
      let item ←
        match ← next with
        | .blockEntry | .blockEnd => empty
        | _ => node fuel room true false
      return item :: (← blockItems fuel room)
    | .blockEnd => do drop; return []
    | _ => fail

/-- The items of a sequence that is not indented, which just stops. -/
def flushItems : Nat → Nat → Read (List Nat)
  | 0, _ => fail
  | fuel + 1, room => do
    match ← next with
    | .blockEntry => do
      drop
      let item ←
        match ← next with
        | .blockEntry | .key | .value | .blockEnd => empty
        | _ => node fuel room true false
      return item :: (← flushItems fuel room)
    | _ => return []

/-- The entries of an indented mapping, up to and over its end. -/
def blockEntries : Nat → Nat → Read (List (Nat × Nat))
  | 0, _ => fail
  | fuel + 1, room => do
    match ← next with
    | .key => do
      drop
      let key ← blockPart fuel room
      let value ←
        match ← next with
        | .value => do drop; blockPart fuel room
        | _ => empty
      return (key, value) :: (← blockEntries fuel room)
    | .blockEnd => do drop; return []
    | _ => fail

/-- A key or a value of an indented mapping, which may be missing. -/
def blockPart : Nat → Nat → Read Nat
  | 0, _ => fail
  | fuel + 1, room => do
    match ← next with
    | .key | .value | .blockEnd => empty
    | _ => node fuel room true true

/-- The items of a sequence in brackets, up to and over the closing one.  An
item may be a mapping of one entry. -/
def flowItems : Nat → Nat → Bool → Read (List Nat)
  | 0, _, _ => fail
  | fuel + 1, room, first => do
    match ← next with
    | .sequenceClose => do drop; return []
    | t => do
      if !first then
        if t = .entrySeparator then drop else fail
      match ← next with
      | .sequenceClose => do drop; return []
      | .key => do
        let id ← openNode room none (mappingTag none)
        drop
        let key ← flowPart fuel (room - 1)
        let value ←
          match ← next with
          | .value => do drop; flowPart fuel (room - 1)
          | _ => empty
        let item ← closeNode id (.mapping [(key, value)])
        return item :: (← flowItems fuel room false)
      | _ => do
        let item ← node fuel room false false
        return item :: (← flowItems fuel room false)

/-- The entries of a mapping in braces, up to and over the closing one.  An entry
without a colon has no value. -/
def flowEntries : Nat → Nat → Bool → Read (List (Nat × Nat))
  | 0, _, _ => fail
  | fuel + 1, room, first => do
    match ← next with
    | .mappingClose => do drop; return []
    | t => do
      if !first then
        if t = .entrySeparator then drop else fail
      match ← next with
      | .mappingClose => do drop; return []
      | .key => do
        drop
        let key ← flowPart fuel room
        let value ←
          match ← next with
          | .value => do drop; flowPart fuel room
          | _ => empty
        return (key, value) :: (← flowEntries fuel room false)
      | _ => do
        let key ← node fuel room false false
        let value ← empty
        return (key, value) :: (← flowEntries fuel room false)

/-- A key or a value between brackets, which may be missing. -/
def flowPart : Nat → Nat → Read Nat
  | 0, _ => fail
  | fuel + 1, room => do
    match ← next with
    | .value | .entrySeparator | .sequenceClose | .mappingClose => empty
    | _ => node fuel room false false

end

/-! ## Documents -/

/-- The directives before a document.  The format has one major version, and a
handle can be set once. -/
def directives : Nat → Option Nat → List (String × String) → Read Unit
  | 0, _, _ => fail
  | fuel + 1, version, set => do
    match ← next with
    | .directive (some major) _ => do
      drop
      if version.isSome || major != 1 then fail else directives fuel (some major) set
    | .directive none (some (handle, target)) => do
      drop
      if (set.lookup handle).isSome then fail
      else directives fuel version ((handle, target) :: set)
    | .directive none none => do drop; directives fuel version set
    | _ => modify fun s => { s with handles := set ++ standardHandles }

/-- The markers at the end of a document. -/
def dropEnds : Nat → Read Unit
  | 0 => pure ()
  | fuel + 1 => do
    match ← next with
    | .documentEnd => do drop; dropEnds fuel
    | _ => pure ()

/-- The only document of a stream, or nothing for a stream without one.  A
document has to be announced if anything stands before it.  Another one is looked
at just as far as its directives. -/
def document (fuel : Nat) : Read (Option Nat) := do
  let announced : Read (Option Nat) := do
    dropEnds fuel
    match ← next with
    | .streamEnd => return none
    | _ => do
      directives fuel none []
      match ← next with
      | .documentStart => do
        drop
        match ← next with
        | .directive _ _ | .documentStart | .documentEnd | .streamEnd => return some (← empty)
        | _ => return some (← node fuel maxDepth true false)
      | _ => fail
  let root ←
    match ← next with
    | .directive _ _ | .documentStart | .streamEnd => announced
    | _ => do pure (some (← node fuel maxDepth true false))
  dropEnds fuel
  match ← next with
  | .streamEnd => return root
  | _ => do
    directives fuel none []
    fail

/-- The document that tokens make, if there is one. -/
def ofTokens (tokens : List Token) : Except Fault (Option Graph) := do
  let (root, s) ← (document (4 * tokens.length + 8)).run ⟨tokens, #[], [], standardHandles⟩
  return root.map (Graph.mk s.nodes)

end Graph
end Yaml
end RouteTemplate
