/-
Expanding templates.

One walk over a value serves all operators.  What the walk carries is a place:
the name and the text that have gathered in front of a value on the way down to
it.  The two families of operators, those that write names and those that do
not, differ only in how a place changes when the walk enters an entry of a
mapping, enters an item of a sequence, or arrives at a text.
-/
import RouteTemplate.Template.Basic
import RouteTemplate.Value

namespace RouteTemplate

/-- Parameter values by name. -/
abbrev Params := List (String × Value)

namespace Template

/-- Why an expansion comes to nothing. -/
inductive ExpansionFault where
  /-- A length was asked of a variable whose value is not a single text. -/
  | lengthOfComposite (v : Variable)
  /-- There is an integer of more digits than are written. -/
  | tooManyDigits
deriving DecidableEq, Repr

/-- The text of a value by itself, without which there is no expansion. -/
def writeValue (value : Value) : Except ExpansionFault (List Char) :=
  match value.display? with
  | some s => .ok s
  | none => .error .tooManyDigits

/-- The text of a variable's name inside an expansion. -/
def encodeName (name : String) : List Char := Charset.reserved.encode name.toList

/-- The text of an entry's key inside an expansion, nothing for a key that is blank. -/
def encodeKey (key : Value) : Except ExpansionFault (List Char) :=
  if key.isBlank then .ok [] else (writeValue key).map Charset.reserved.encode

/-! ## Places -/

structure Place where
  name : List Char
  /-- What is to stand before the text that is reached. -/
  lead : List Char
  /-- What separates the two. -/
  mark : Char
  /-- Whether this is the place of the variable itself. -/
  outermost : Bool
deriving DecidableEq, Repr

namespace Place

/-- The text `lead`, a mark and `text`, or `text` alone where there is no lead. -/
def qualify (lead : List Char) (mark : Char) (text : List Char) : List Char :=
  if lead.isEmpty then text else lead ++ mark :: text

/-- The text `lead[text]`, or `text` alone where there is no lead. -/
def bracket (lead text : List Char) : List Char :=
  if lead.isEmpty then text else lead ++ '[' :: text ++ [']']

def start (name : List Char) : Place := ⟨name, [], '=', true⟩

/-- Take the name, if there is one, into the lead as a bracketed part of it. -/
def bracketName (p : Place) : List Char :=
  if p.name.isEmpty then p.lead else bracket p.lead p.name

/-- The place of a text, where the walk ends. -/
def atText (named : Bool) (m : Modifier) (p : Place) : Place :=
  if named then
    match m with
    | .index => { p with lead := p.bracketName }
    | .explode => { p with lead := qualify p.lead '.' p.name }
    | _ => p
  else p

/-- The place of the value of an entry, by the text of its key. -/
def entry (named : Bool) (m : Modifier) (p : Place) (k : List Char) : Place :=
  if named then
    match m with
    | .index =>
      let lead := p.bracketName
      ⟨[], if p.outermost then k else bracket lead k, p.mark, false⟩
    | .explode => ⟨k, if p.outermost then [] else qualify p.lead '.' p.name, p.mark, false⟩
    | _ => ⟨k, qualify p.lead '.' k, ',', false⟩
  else
    match m with
    | .index => ⟨[], if p.outermost then k else bracket p.lead k, '=', false⟩
    | .explode => ⟨[], qualify p.lead '.' k, '=', false⟩
    | _ => ⟨[], qualify p.lead '.' k, ',', false⟩

/-- The place of an item, by its position in the sequence. -/
def item (named : Bool) (m : Modifier) (p : Place) (i : Nat) : Place :=
  let n := Decimal.digitChars i
  if named then
    match m with
    | .index => ⟨n, p.bracketName, p.mark, false⟩
    | .explode => ⟨p.name, p.lead, '=', false⟩
    | _ => ⟨p.name, p.lead, '.', false⟩
  else
    match m with
    | .index => ⟨[], if p.lead.isEmpty then [] else bracket p.lead n, p.mark, false⟩
    | _ => ⟨p.name, p.lead, '.', false⟩

end Place

/-! ## The walk -/

/-- Write a text at its place.  A length cuts the text before it is encoded, and
has a meaning only for a value that is a single text. -/
def encodeText (op : Operator) (v : Variable) (p : Place) (s : List Char) :
    Except ExpansionFault (List Char) :=
  let p' := p.atText op.named v.modifier
  let write (s : List Char) := Place.qualify p'.lead p'.mark (op.charset.encode s)
  match v.modifier with
  | .first n => if p.outermost then .ok (write (s.take n)) else .error (.lengthOfComposite v)
  | _ => .ok (write s)

/-- Join what the items of a composite came to.  A composite without items comes
to nothing at all. -/
def joinItems (sep : Char) (composite : Bool) (results : List (List Char)) :
    Option (List Char) :=
  if composite then some (List.intercalate [sep] results) else none

/-- The bytes of a string of bytes are items like the items of a list. -/
def encodeBytes (op : Operator) (v : Variable) (p : Place) (i : Nat) :
    List UInt8 → Except ExpansionFault (List (List Char))
  | [] => .ok []
  | b :: bs => do
    let r ← encodeText op v (p.item op.named v.modifier i) (Decimal.digitChars b.toNat)
    let rs ← encodeBytes op v p (i + 1) bs
    return r :: rs

mutual

/-- The text of a value at a place, or nothing for a composite that is empty. -/
def encodeValue (op : Operator) (v : Variable) (sep : Char) (p : Place) :
    Value → Except ExpansionFault (Option (List Char))
  | .null => .ok none
  | .text s => do return some (← encodeText op v p s.toList)
  | .bytes bs => do return joinItems sep (!bs.isEmpty) (← encodeBytes op v p 0 bs)
  | .list items => do return joinItems sep (!items.isEmpty) (← encodeItems op v sep p 0 items)
  | .tuple items => do return joinItems sep (!items.isEmpty) (← encodeItems op v sep p 0 items)
  | .map entries => do return joinItems sep (!entries.isEmpty) (← encodeEntries op v sep p entries)
  | .bool b => do return some (← encodeText op v p (← writeValue (.bool b)))
  | .int n => do return some (← encodeText op v p (← writeValue (.int n)))
  | .float x => do return some (← encodeText op v p (← writeValue (.float x)))
termination_by structural value => value

def encodeItems (op : Operator) (v : Variable) (sep : Char) (p : Place) (i : Nat) :
    List Value → Except ExpansionFault (List (List Char))
  | [] => .ok []
  | item :: items => do
    let r ← encodeValue op v sep (p.item op.named v.modifier i) item
    let rs ← encodeItems op v sep p (i + 1) items
    return r.toList ++ rs
termination_by structural items => items

def encodeEntries (op : Operator) (v : Variable) (sep : Char) (p : Place) :
    List (Value × Value) → Except ExpansionFault (List (List Char))
  | [] => .ok []
  | (key, item) :: entries => do
    let k ← encodeKey key
    let r ← encodeValue op v sep (p.entry op.named v.modifier k) item
    let rs ← encodeEntries op v sep p entries
    return r.toList ++ rs
termination_by structural entries => entries

end

/-! ## Variables, expressions, templates -/

/-- The value that a variable stands for.  A parameter that is given counts even
when it is nothing; only one that is not given lets the fallback in. -/
def Variable.value (v : Variable) (params : Params) : Value :=
  match params.lookup v.key with
  | some value => value.simplify
  | none =>
    match v.fallback with
    | some s => .text s
    | none => .null

/-- Put the name of a variable before its text, where the operator writes names
and the items do not carry them already. -/
def nameText (op : Operator) (name : List Char) : Option (List Char) → Option (List Char)
  | some [] => some (if op = .parameter then name else name ++ ['='])
  | some text => some (name ++ '=' :: text)
  | none => if op = .parameter then some name else none

def Variable.expand (op : Operator) (v : Variable) (value : Value) :
    Except ExpansionFault (Option (List Char)) :=
  match value with
  | .null => .ok none
  | value => do
    let name := encodeName v.name
    let sep := if v.modifier.explodes then op.itemSeparator else ','
    let text ← encodeValue op v sep (Place.start name) value
    return if op.named && !v.modifier.explodes then nameText op name text else text

/-- The values of an expression between its separators, with its lead before
them or its closer after them; nothing where no variable has a value. -/
def Expression.assemble (e : Expression) : List (List Char) → List Char
  | [] => []
  | texts =>
    let body := List.intercalate [e.operator.separator] texts
    match e.closer with
    | some c => body ++ [c]
    | none => e.operator.lead ++ body

def Expression.expand (e : Expression) (params : Params) :
    Except ExpansionFault (List Char) := do
  let texts ← e.vars.mapM fun v => v.expand e.operator (v.value params)
  return e.assemble texts.reduceOption

def Part.expand (params : Params) : Part → Except ExpansionFault (List Char)
  | .literal s => .ok (Charset.reserved.encode s)
  | .expression e => e.expand params

def expand (t : Template) (params : Params) : Except ExpansionFault String := do
  let texts ← t.parts.mapM (Part.expand params)
  return String.ofList texts.flatten

end Template
end RouteTemplate
