/-
Templates.  A template is a sequence of literal texts and expressions; an
expression is an operator over a non-empty list of variables, each with at most
one modifier.

What an operator means is a row of a table: what it puts in front, what it puts
between its values, what it lets through unencoded, and whether its values carry
their names.
-/
import RouteTemplate.Text.Percent

namespace RouteTemplate
namespace Template

inductive Operator where
  /-- Written `{var}`. -/
  | simple
  /-- Written `{+var}`. -/
  | reserved
  /-- Written `{#var}`. -/
  | fragment
  /-- Written `{.var}`. -/
  | label
  /-- Written `{/var}`. -/
  | path
  /-- Written `{;var}`. -/
  | parameter
  /-- Written `{?var}`. -/
  | query
  /-- Written `{&var}`. -/
  | continuation
  /-- Written `{,var}`; beyond the standard. -/
  | comma
  /-- Written `{,+var}`; beyond the standard. -/
  | commaReserved
deriving DecidableEq, Repr

namespace Operator

/-- How the operator is written at the head of an expression. -/
def symbol : Operator → List Char
  | .simple => []
  | .reserved => ['+']
  | .fragment => ['#']
  | .label => ['.']
  | .path => ['/']
  | .parameter => [';']
  | .query => ['?']
  | .continuation => ['&']
  | .comma => [',']
  | .commaReserved => [',', '+']

/-- What is put before the first value. -/
def lead : Operator → List Char
  | .simple | .reserved => []
  | .fragment => ['#']
  | .label => ['.']
  | .path => ['/']
  | .parameter => [';']
  | .query => ['?']
  | .continuation => ['&']
  | .comma | .commaReserved => [',']

/-- What is put between values. -/
def separator : Operator → Char
  | .simple | .reserved | .fragment | .comma | .commaReserved => ','
  | .label => '.'
  | .path => '/'
  | .parameter => ';'
  | .query | .continuation => '&'

def charset : Operator → Charset
  | .reserved | .fragment | .commaReserved => .reserved
  | _ => .unreserved

/-- Whether values are written as `name=value`. -/
def named : Operator → Bool
  | .parameter | .query | .continuation => true
  | _ => false

/-- What is put between the items of an exploded composite value.  The two
operators beyond the standard use a point there, not their separator. -/
def itemSeparator : Operator → Char
  | .simple | .reserved | .fragment => ','
  | .label | .comma | .commaReserved => '.'
  | .path => '/'
  | .parameter => ';'
  | .query | .continuation => '&'

end Operator

inductive Modifier where
  | none
  /-- Written `:n`: the first `n` characters. -/
  | first (n : Nat)
  /-- Written `*`: the items of a composite apart. -/
  | explode
  /-- Written `[]`: the items of a composite apart, each with its index or key in
  brackets. -/
  | index
deriving DecidableEq, Repr

namespace Modifier

def explodes : Modifier → Bool
  | .explode | .index => true
  | _ => false

/-- The length of `:n`, and zero where there is none. -/
def length : Modifier → Nat
  | .first n => n
  | _ => 0

def text : Modifier → List Char
  | .none => []
  | .first n => ':' :: Nat.toDigits 10 n
  | .explode => ['*']
  | .index => ['[', ']']

end Modifier

/-- A variable is written under its name and looked up under its key; a
specification that holds a slash can make the two differ. -/
structure Variable where
  name : String
  key : String
  modifier : Modifier
  /-- What stands in for a parameter that is not given at all. -/
  fallback : Option String
deriving DecidableEq, Repr

namespace Variable

/-- The one written form of a variable. -/
def text (v : Variable) : List Char :=
  v.name.toList ++ (if v.key = v.name then [] else '/' :: v.key.toList) ++ v.modifier.text ++
    (match v.fallback with
      | some s => '=' :: s.toList
      | none => [])

end Variable

structure Expression where
  operator : Operator
  vars : List Variable
  /-- A separator at the very end of the expression, which then closes the list
  of values in place of the lead that opens it. -/
  closer : Option Char
deriving DecidableEq, Repr

inductive Part where
  | literal (text : List Char)
  | expression (e : Expression)
deriving DecidableEq, Repr

def Part.expression? : Part → Option Expression
  | .literal _ => .none
  | .expression e => some e

end Template

/-- A template that has been read, with the text it was read from. -/
structure Template where
  source : String
  parts : List Template.Part
deriving Repr

namespace Template

/-- Two templates are the same when their texts are. -/
instance : BEq Template := ⟨fun s t => s.source == t.source⟩

def expressions (t : Template) : List Expression :=
  t.parts.filterMap Part.expression?

def vars (t : Template) : List Variable :=
  t.expressions.flatMap Expression.vars

/-- The names of the variables, each once, in order of first appearance. -/
def variableNames (t : Template) : List String :=
  (t.vars.map Variable.name).eraseDups

end Template
end RouteTemplate
