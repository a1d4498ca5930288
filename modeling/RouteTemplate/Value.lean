/-
Parameter values.  A value is a scalar, a sequence or a mapping, and values nest
without limit.  Mappings keep the order in which their entries were given, which
is the order they are expanded in.

A text is Unicode text without lone surrogates.  A string that holds one is no value
here: it has no encoding in UTF-8, and an expansion that meets it raises an encoding
error and makes no URL.
-/
import RouteTemplate.Decimal.Layout
import RouteTemplate.Text.Quoted

namespace RouteTemplate

inductive Value where
  | null
  | bool (b : Bool)
  | int (n : Int)
  | float (x : Binary64)
  | text (s : String)
  | bytes (bs : List UInt8)
  | list (items : List Value)
  | tuple (items : List Value)
  | map (entries : List (Value × Value))
deriving Repr, BEq, Inhabited

namespace Value

/-! ## Text -/

def boolWord (b : Bool) : String := if b then "True" else "False"

mutual

/-- A value as it stands inside a message, with its strings quoted.  A value that
holds an integer of too many digits has no such text. -/
def repr? : Value → Option (List Char)
  | .null => some "None".toList
  | .bool b => some (boolWord b).toList
  | .int n => Decimal.write? n
  | .float x => some (x.text .plain)
  | .text s => some (Text.quoted s.toList)
  | .bytes bs => some (Text.quotedBytes bs)
  | .list items => do return '[' :: List.intercalate [',', ' '] (← reprItems? items) ++ [']']
  | .tuple items => do
    return '(' :: List.intercalate [',', ' '] (← reprItems? items) ++
      (if items.length = 1 then [',', ')'] else [')'])
  | .map entries => do
    return '\x7b' :: List.intercalate [',', ' '] (← reprEntries? entries) ++ ['\x7d']
termination_by structural v => v

def reprItems? : List Value → Option (List (List Char))
  | [] => some []
  | v :: vs => do return (← repr? v) :: (← reprItems? vs)
termination_by structural vs => vs

def reprEntries? : List (Value × Value) → Option (List (List Char))
  | [] => some []
  | (k, v) :: es => do return ((← repr? k) ++ ':' :: ' ' :: (← repr? v)) :: (← reprEntries? es)
termination_by structural es => es

end

/-- A value as text by itself: a string is its own text, anything else is shown
as in a message. -/
def display? : Value → Option (List Char)
  | .text s => some s.toList
  | v => v.repr?

/-- What a value is called that has no text. -/
def kind : Value → String
  | .null => "NoneType"
  | .bool _ => "bool"
  | .int _ => "int"
  | .float _ => "float"
  | .text _ => "str"
  | .bytes _ => "bytes"
  | .list _ => "list"
  | .tuple _ => "tuple"
  | .map _ => "dict"

/-- A value where some text has to stand for it. -/
def label (v : Value) : List Char :=
  v.display?.getD ("<unprintable ".toList ++ v.kind.toList ++ " object>".toList)

/-! ## Form for expansion -/

mutual

/-- The form in which a value is expanded.  Truth values and whole numbers
become their text, a tuple becomes a list, and items that are nothing are left
out at every depth. -/
def simplify : Value → Value
  | .bool b => .text (if b then "true" else "false")
  | .float x =>
    match x.toInt? with
    | some n => .text (toString n)
    | none => .float x
  | .list items => .list (simplifyItems items)
  | .tuple items => .list (simplifyItems items)
  | .map entries => .map (simplifyEntries entries)
  | v => v
termination_by structural v => v

def simplifyItems : List Value → List Value
  | [] => []
  | .null :: vs => simplifyItems vs
  | v :: vs => simplify v :: simplifyItems vs
termination_by structural vs => vs

def simplifyEntries : List (Value × Value) → List (Value × Value)
  | [] => []
  | (_, .null) :: es => simplifyEntries es
  | (k, v) :: es => (k, simplify v) :: simplifyEntries es
termination_by structural es => es

end

/-! ## Building -/

def ofText? : Option String → Value
  | some s => .text s
  | none => .null

def ofEntries (entries : List (String × Value)) : Value :=
  .map (entries.map fun e => (.text e.1, e.2))

def ofEntries? : Option (List (String × Value)) → Value
  | some entries => ofEntries entries
  | none => .null

/-! ## Questions -/

/-- The values that say nothing: null, false, zero, and what is empty. -/
def isBlank : Value → Bool
  | .null => true
  | .bool b => !b
  | .int n => n == 0
  | .float x => x.isZero
  | .text s => s.isEmpty
  | .bytes bs => bs.isEmpty
  | .list items => items.isEmpty
  | .tuple items => items.isEmpty
  | .map entries => entries.isEmpty

end Value
end RouteTemplate
