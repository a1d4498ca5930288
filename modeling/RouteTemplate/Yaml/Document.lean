/-
The value of a YAML document: only plain data, no type that the format leaves to
applications.

A scalar has its value at once.  A collection is empty at first and waits to be
filled, so that it may be found inside itself; those that wait are filled in the
order in which they were come upon.  A fault in a document is therefore the one
that is nearest to the top.
-/
import RouteTemplate.Yaml.Binary
import RouteTemplate.Yaml.Merge

namespace RouteTemplate
namespace Yaml

/-- What a node is read as.  A collection names its items by their numbers. -/
inductive Shape where
  | scalar (v : Value)
  | list (items : List Nat)
  /-- Keys with their values, where a key may be anything and come again. -/
  | pairs (entries : List (Nat × Nat))
  | set (members : List Value)
  | map (entries : List (Value × Nat))
deriving Repr

/-- What all nodes of a document are read as, and which of them is the whole. -/
structure Document where
  shapes : Array (Option Shape)
  root : Nat
deriving Repr

/-! ## Types -/

/-- What the node with a tag is read as before it is filled, if it is a
collection. -/
def collection? (tag : String) : Option Shape :=
  [ (standardTag "seq", Shape.list []),
    (standardTag "map", Shape.map []),
    (standardTag "set", Shape.set []),
    (standardTag "omap", Shape.pairs []),
    (standardTag "pairs", Shape.pairs []) ].lookup tag

/-- How a scalar with a tag is read. -/
def scalarReader? (tag : String) : Option (String → Except Fault Value) :=
  [ (ScalarKind.text.tag, fun s => .ok (.text s)),
    (ScalarKind.null.tag, fun _ => .ok .null),
    (ScalarKind.flag.tag, Scalar.flag),
    (ScalarKind.integer.tag, Scalar.integer),
    (ScalarKind.number.tag, Scalar.number),
    (ScalarKind.date.tag, Scalar.date),
    (standardTag "binary", fun s => (Binary.bytes s).map .bytes) ].lookup tag

/-- How far default values may lead to one another, and merges too. -/
def maxSteps : Nat := 2 * Graph.maxDepth

/-- The text of a scalar and whether it is whole.  A mapping stands for what it has
under the mark of a default value. -/
def scalarText (nodes : Array Node) : Nat → Nat → Except Fault (String × Bool)
  | 0, _ => .error .tooDeep
  | room + 1, id =>
    match (nodes[id]?).map Node.content with
    | some (.scalar text whole) => .ok (text, whole)
    | some (.mapping entries) =>
      let isDefault (key : Nat) : Bool := (nodes[key]?).any (·.tag == ScalarKind.default.tag)
      match entries.find? fun e => isDefault e.1 with
      | some (_, value) => scalarText nodes room value
      | none => .error .malformed
    | _ => .error .malformed

def Node.isScalar (n : Node) : Bool :=
  match n.content with
  | .scalar _ _ => true
  | _ => false

/-- The value of a scalar.  Text that is not whole is wrapped, and no setting takes
it.  The text of a date has to be its own. -/
def scalarValue (nodes : Array Node) (id : Nat) (node : Node) : Except Fault Value :=
  match scalarReader? node.tag with
  | none => .error .malformed
  | some read => do
    let (text, whole) ← scalarText nodes maxSteps id
    if node.tag = ScalarKind.date.tag && !node.isScalar then .error .dateOfMapping
    else if node.tag = ScalarKind.text.tag && !whole then .ok (.tuple [.text text])
    else read text

/-! ## Mappings -/

/-- Numbers and truth values that are equal are one key. -/
def keyNumber? : Value → Option Int
  | .bool b => some (if b then 1 else 0)
  | .int n => some n
  | .float x => x.toInt?
  | _ => none

def sameKey (k l : Value) : Bool :=
  match keyNumber? k, keyNumber? l with
  | some m, some n => m == n
  | _, _ => k == l

/-- A later entry with the same key gives the earlier one its value. -/
def putEntry {α : Type} (key : Value) (value : α) : List (Value × α) → List (Value × α)
  | [] => [(key, value)]
  | e :: es => if sameKey key e.1 then (e.1, value) :: es else e :: putEntry key value es

/-! ## Building -/

/-- A document while it is being built, and the collections that wait to be
filled, the latest first. -/
structure Builder where
  merging : Merging
  shapes : Array (Option Shape)
  waiting : List Nat

abbrev Build (α : Type) := StateT Builder (Except Fault) α

namespace Builder

def fail {α : Type} : Build α := throw .malformed

def nodeAt (id : Nat) : Build Node := do
  match (← get).merging.nodes[id]? with
  | some n => return n
  | none => fail

def setShape (id : Nat) (shape : Shape) : Build Unit :=
  modify fun s => { s with shapes := s.shapes.setIfInBounds id (some shape) }

/-- What a node is read as so far.  A node is read once, also where it stands in
several places. -/
def shapeOf (id : Nat) : Build Shape := do
  match (← get).shapes.getD id none with
  | some shape => return shape
  | none => do
    let node ← nodeAt id
    match collection? node.tag with
    | some shape =>
      setShape id shape
      modify fun s => { s with waiting := id :: s.waiting }
      return shape
    | none =>
      let shape := Shape.scalar (← scalarValue (← get).merging.nodes id node)
      setShape id shape
      return shape

/-- A key that can be looked up, which a collection can not. -/
def keyOf (id : Nat) : Build Value := do
  match ← shapeOf id with
  | .scalar v => return v
  | _ => fail

def itemsOf (node : Node) : Build (List Nat) := do
  match node.content with
  | .sequence items =>
    items.forM fun item => do let _ ← shapeOf item
    return items
  | _ => fail

/-- The only entry of a mapping. -/
def pairOf (id : Nat) : Build (Nat × Nat) := do
  match (← nodeAt id).content with
  | .mapping [(key, value)] => do
    let _ ← shapeOf key
    let _ ← shapeOf value
    return (key, value)
  | _ => fail

def pairsOf (node : Node) : Build (List (Nat × Nat)) := do
  match node.content with
  | .sequence items => items.mapM pairOf
  | _ => fail

/-- The entries of a mapping, of which each key comes once. -/
def entriesOf (id : Nat) : Build (List (Value × Nat)) := do
  let (entries, merging) ← (Merging.flatten maxSteps id).run (← get).merging
  modify fun s => { s with merging := merging }
  entries.foldlM
    (fun es (key, value) => do
      let k ← keyOf key
      let _ ← shapeOf value
      return putEntry k value es)
    []

/-- Fill a collection. -/
def fill (id : Nat) : Build Unit := do
  let node ← nodeAt id
  match ← shapeOf id with
  | .scalar _ => return ()
  | .list _ => setShape id (.list (← itemsOf node))
  | .pairs _ => setShape id (.pairs (← pairsOf node))
  | .set _ => setShape id (.set ((← entriesOf id).map Prod.fst))
  | .map _ => setShape id (.map (← entriesOf id))

/-- Fill all collections that wait, and those that are come upon meanwhile.  Each
collection waits once. -/
def fillAll : Nat → Build Unit
  | 0 => return ()
  | fuel + 1 => do
    let ids := (← get).waiting.reverse
    if ids.isEmpty then return ()
    else
      modify fun s => { s with waiting := [] }
      ids.forM fill
      fillAll fuel

def build (root : Nat) : Build Unit := do
  let _ ← shapeOf root
  fillAll (← get).merging.nodes.size

end Builder

/-! ## Documents -/

namespace Document

def ofGraph (g : Graph) : Except Fault Document := do
  let none := Array.replicate g.nodes.size none
  let (_, s) ← (Builder.build g.root).run ⟨.ofNodes g.nodes, none, []⟩
  return ⟨s.shapes, g.root⟩

/-- The value of a node, with collections down to a depth.  Those that are deeper
are shown empty, since a collection may be found inside itself. -/
def valueAt (d : Document) : Nat → Nat → Value
  | 0, id =>
    match d.shapes.getD id none with
    | some (.scalar v) => v
    | some (.map _) => .map []
    | _ => .list []
  | depth + 1, id =>
    match d.shapes.getD id none with
    | some (.scalar v) => v
    | some (.list items) => .list (items.map (d.valueAt depth))
    | some (.pairs entries) =>
      .list (entries.map fun e => .tuple [d.valueAt depth e.1, d.valueAt depth e.2])
    | some (.set members) => .list members
    | some (.map entries) => .map (entries.map fun e => (e.1, d.valueAt depth e.2))
    | none => .list []

end Document

/-- The value of a text, with collections down to a depth; a text without a
document is null. -/
def read (depth : Nat) (text : String) : Except Fault Value := do
  match ← Graph.ofTokens (Token.ofText text.toList) with
  | none => return .null
  | some g =>
    let d ← Document.ofGraph g
    return d.valueAt depth d.root

end Yaml
end RouteTemplate
