/-
Reading records: mappings whose entries are known fields.  A field may go by two
names, and entries that are not fields are passed over.  A record with several
faults reports all of them, each by where it is.
-/
import RouteTemplate.Schema.Scalar

namespace RouteTemplate
namespace Schema

/-- Where a fault is: the field, then the entry within it; nothing at all for a
record that is not a mapping. -/
abbrev Location := List String

/-- What was read, or where the faults are, in the order of the fields. -/
abbrev Checked (α : Type) := Except (List Location) α

/-- Two readings, with the faults of both. -/
def both {α β : Type} : Checked α → Checked β → Checked (α × β)
  | .ok a, .ok b => .ok (a, b)
  | .error e, .ok _ => .error e
  | .ok _, .error f => .error f
  | .error e, .error f => .error (e ++ f)

/-- The places to report: a field and an entry at most, and no place twice. -/
def report (faults : List Location) : List Location :=
  (faults.map (List.take 2)).eraseDups

/-! ## Values of fields

A rule reads the value of a field; it is told the name the field was given
under, since that is what a fault is located by. -/

abbrev Rule (α : Type) := String → Value → Checked α

def scalar {α : Type} (read? : Value → Option α) : Rule α := fun name v =>
  match read? v with
  | some a => .ok a
  | none => .error [[name]]

/-- A rule for a field that may be null. -/
def nullable {α : Type} (rule : Rule α) : Rule (Option α) := fun name v =>
  match v with
  | .null => .ok none
  | v => (rule name v).map some

/-- Give a name its value, in the place that the name already has or at the
end. -/
def put {α : Type} (name : String) (a : α) : List (String × α) → List (String × α)
  | [] => [(name, a)]
  | e :: es => if e.1 = name then (name, a) :: es else e :: put name a es

/-- Entries read one by one.  A key must be text and its value be accepted by
`read?`; where either fails the fault is at the key. -/
def entries {α : Type} (name : String) (read? : Value → Option α) :
    List (Value × Value) → Checked (List (String × α))
  | [] => .ok []
  | (key, v) :: rest =>
    let entry : Checked (String × α) :=
      match text? key, read? v with
      | some k, some a => .ok (k, a)
      | _, _ => .error [[name, String.ofList key.label]]
    (both entry (entries name read? rest)).map fun p => p.1 :: p.2

/-- A mapping with text keys.  Two keys that read as the same text are one, with
the later value. -/
def mapping {α : Type} (read? : Value → Option α) : Rule (List (String × α)) := fun name v =>
  match v with
  | .map es => (entries name read? es).map fun rs => rs.foldl (fun acc r => put r.1 r.2 acc) []
  | _ => .error [[name]]

/-! ## Fields of records -/

def isKey (name : String) : Value → Bool
  | .text s => s == name
  | _ => false

/-- The value given under the first of some names that is given at all, with
that name. -/
def given (fields : List (Value × Value)) (names : List String) : Option (String × Value) :=
  names.findSome? fun name =>
    (fields.find? fun e => isKey name e.1).map fun e => (name, e.2)

/-- A field that has a value where none is given. -/
def optional {α : Type} (fields : List (Value × Value)) (names : List String) (absent : α)
    (rule : Rule α) : Checked α :=
  match given fields names with
  | some (name, v) => rule name v
  | none => .ok absent

def required {α : Type} (fields : List (Value × Value)) (name : String) (rule : Rule α) :
    Checked α :=
  match given fields [name] with
  | some (name, v) => rule name v
  | none => .error [[name]]

/-- A record as a whole, which has to be a mapping. -/
def record {α : Type} (read : List (Value × Value) → Checked α) : Value → Checked α
  | .map fields => read fields
  | _ => .error [[]]

/-- A record that is a field of another. -/
def nested {α : Type} (read : Value → Checked α) : Rule α := fun name v =>
  (read v).mapError fun faults => faults.map (name :: ·)

end Schema
end RouteTemplate
