/-
Mappings that take over the entries of others.

A mapping may name, under the mark for merging, another mapping or a list of
mappings.  Their entries come in front of its own, so that its own win; of a list
an earlier mapping wins over a later one.  What is taken over is flat itself: its
own merges come first.  A mapping may be found inside what it merges, so each mark
is taken away before what it names is looked at.
-/
import RouteTemplate.Yaml.Graph

namespace RouteTemplate
namespace Yaml

/-- The nodes of a document, and which of the mappings are flat. -/
structure Merging where
  nodes : Array Node
  flat : Array Bool

abbrev Merge (α : Type) := StateT Merging (Except Fault) α

namespace Merging

def fail {α : Type} : Merge α := throw .malformed

def ofNodes (nodes : Array Node) : Merging := ⟨nodes, Array.replicate nodes.size false⟩

def nodeAt (id : Nat) : Merge Node := do
  match (← get).nodes[id]? with
  | some n => return n
  | none => fail

def entriesOf (id : Nat) : Merge (List (Nat × Nat)) := do
  match (← nodeAt id).content with
  | .mapping entries => return entries
  | _ => fail

def isFlat (id : Nat) : Merge Bool := do return (← get).flat.getD id false

def setEntries (id : Nat) (entries : List (Nat × Nat)) : Merge Unit :=
  modify fun s =>
    { s with nodes := s.nodes.modify id fun n => { n with content := .mapping entries } }

def setTag (id : Nat) (tag : String) : Merge Unit :=
  modify fun s => { s with nodes := s.nodes.modify id fun n => { n with tag := tag } }

def markFlat (id : Nat) : Merge Unit :=
  modify fun s => { s with flat := s.flat.setIfInBounds id true }

/-- Go through the entries that are left of a mapping, with those gone through
before, last first, and the entries taken over so far.  The mark of a default
value is an ordinary text as a key.  The mapping may have become flat while
something it merges was looked at, and then nothing is left of it. -/
def takeOver (source : Nat → Merge (List (Nat × Nat))) (id : Nat) :
    List (Nat × Nat) → List (Nat × Nat) → List (Nat × Nat) → Merge (List (Nat × Nat))
  | [], _, taken => return taken
  | (key, value) :: rest, kept, taken => do
    let tag := (← nodeAt key).tag
    if tag = ScalarKind.merge.tag then
      setEntries id (kept.reverse ++ rest)
      let more ← source value
      if ← isFlat id then return taken ++ more
      else takeOver source id rest kept (taken ++ more)
    else
      if tag = ScalarKind.default.tag then setTag key ScalarKind.text.tag
      takeOver source id rest ((key, value) :: kept) taken

/-- The entries that a node stands for under the mark for merging, given those of
a flat mapping. -/
def sourceEntries (flatten : Nat → Merge (List (Nat × Nat))) (id : Nat) :
    Merge (List (Nat × Nat)) := do
  match (← nodeAt id).content with
  | .mapping _ => flatten id
  | .sequence items => return (← items.mapM flatten).reverse.flatten
  | .scalar _ _ => fail

/-- Make a mapping flat, and give its entries.  `room` limits how far merges lead
to one another. -/
def flatten : Nat → Nat → Merge (List (Nat × Nat))
  | 0, _ => throw .tooDeep
  | room + 1, id => do
    let entries ← entriesOf id
    if ← isFlat id then return entries
    else
      let taken ← takeOver (sourceEntries (flatten room)) id entries [] []
      let flat := taken ++ (← entriesOf id)
      setEntries id flat
      markFlat id
      return flat

end Merging
end Yaml
end RouteTemplate
