/-
The standard grammar of templates: literals and expressions, eight operators,
and three forms of a variable.

A tree of this grammar has one written form, `text`, and one meaning among the
templates that can be read, `toPart`.  What is beyond the standard, such as
fallbacks, brackets, slashes in names and separators at the end of an
expression, has no tree.
-/
import RouteTemplate.Template.Parser

namespace RouteTemplate
namespace Standard

open Template (isWordChar)

/-! ## Operators -/

inductive Operator where
  | simple
  | reserved
  | fragment
  | label
  | path
  | parameter
  | query
  | continuation
deriving DecidableEq, Repr

namespace Operator

def symbol : Operator → List Char
  | .simple => []
  | .reserved => ['+']
  | .fragment => ['#']
  | .label => ['.']
  | .path => ['/']
  | .parameter => [';']
  | .query => ['?']
  | .continuation => ['&']

def toOperator : Operator → Template.Operator
  | .simple => .simple
  | .reserved => .reserved
  | .fragment => .fragment
  | .label => .label
  | .path => .path
  | .parameter => .parameter
  | .query => .query
  | .continuation => .continuation

end Operator

/-! ## Variables -/

/-- Runs of name characters with single points between them. -/
structure Name where
  runs : List (List Char)
  runs_ne_nil : runs ≠ []
  run_ne_nil : ∀ r ∈ runs, r ≠ []
  isWordChar_of_mem : ∀ r ∈ runs, ∀ c ∈ r, isWordChar c = true

/-- The name with the given runs, by a check that can be computed. -/
def Name.ofRuns (runs : List (List Char))
    (h : (!runs.isEmpty && runs.all fun r => !r.isEmpty && r.all isWordChar) = true) : Name :=
  have hruns := (Bool.and_eq_true ..).mp h
  have hrun : ∀ r ∈ runs, (!r.isEmpty) = true ∧ r.all isWordChar = true := fun r hr =>
    (Bool.and_eq_true ..).mp (List.all_eq_true.1 hruns.2 r hr)
  { runs
    runs_ne_nil := List.isEmpty_eq_false_iff.1 ((Bool.not_eq_true' _).mp hruns.1)
    run_ne_nil := fun r hr => List.isEmpty_eq_false_iff.1 ((Bool.not_eq_true' _).mp (hrun r hr).1)
    isWordChar_of_mem := fun r hr => List.all_eq_true.1 (hrun r hr).2 }

def Name.text (n : Name) : List Char := List.intercalate ['.'] n.runs

def Name.string (n : Name) : String := String.ofList n.text

inductive Modifier where
  | none
  | first (n : Nat) (pos : 0 < n) (le : n ≤ 999)
  | explode

namespace Modifier

def text : Modifier → List Char
  | .none => []
  | .first n _ _ => ':' :: Nat.toDigits 10 n
  | .explode => ['*']

/-- The length of `:n`, and zero where there is none. -/
def length : Modifier → Nat
  | .first n _ _ => n
  | _ => 0

def explodes : Modifier → Bool
  | .explode => true
  | _ => false

def toModifier : Modifier → Template.Modifier
  | .none => .none
  | .first n _ _ => .first n
  | .explode => .explode

end Modifier

structure VarSpec where
  name : Name
  modifier : Modifier

namespace VarSpec

def text (v : VarSpec) : List Char := v.name.text ++ v.modifier.text

def toVariable (v : VarSpec) : Template.Variable :=
  ⟨v.name.string, v.name.string, v.modifier.toModifier, none⟩

end VarSpec

/-! ## Parts -/

/-- An expression has a first variable, so its list of variables is not empty. -/
structure Expression where
  operator : Operator
  head : VarSpec
  tail : List VarSpec

namespace Expression

def vars (e : Expression) : List VarSpec := e.head :: e.tail

/-- The text between the braces. -/
def body (e : Expression) : List Char :=
  e.operator.symbol ++ List.intercalate [','] (e.vars.map VarSpec.text)

def toExpression (e : Expression) : Template.Expression :=
  ⟨e.operator.toOperator, e.vars.map VarSpec.toVariable, none⟩

end Expression

structure Literal where
  text : List Char
  braceFree : '{' ∉ text ∧ '}' ∉ text

inductive Part where
  | literal (l : Literal)
  | expression (e : Expression)

namespace Part

def segment : Part → Template.Segment
  | .literal l => .plain l.text
  | .expression e => .braced e.body

def toPart : Part → Template.Part
  | .literal l => .literal l.text
  | .expression e => .expression e.toExpression

def literal? : Part → Option (List Char)
  | .literal l => some l.text
  | .expression _ => none

def expression? : Part → Option Expression
  | .literal _ => none
  | .expression e => some e

end Part

/-- The written form of a sequence of parts. -/
def text (parts : List Part) : List Char := parts.flatMap fun p => p.segment.source

def literals (parts : List Part) : List (List Char) := parts.filterMap Part.literal?

def expressions (parts : List Part) : List Expression := parts.filterMap Part.expression?

/-- The names of all variables as they stand in the text, repetitions included. -/
def names (parts : List Part) : List String :=
  (expressions parts).flatMap fun e => e.vars.map fun v => v.name.string

/-! ## Sequences that are told apart by their text

Two adjacent literals are one literal to a reader, and an empty one is none. -/

def startsWithLiteral : List Part → Bool
  | .literal _ :: _ => true
  | _ => false

def Separated : List Part → Prop
  | [] => True
  | .literal l :: rest => l.text ≠ [] ∧ startsWithLiteral rest = false ∧ Separated rest
  | .expression _ :: rest => Separated rest

end Standard
end RouteTemplate
