/-
What can be wrong with a template, and how it is said.
-/
import RouteTemplate.Template.Basic
import RouteTemplate.Text.Pieces
import RouteTemplate.Text.Quoted
import RouteTemplate.Decimal.Basic

namespace RouteTemplate
namespace Template

inductive Fault where
  /-- Braces that enclose no expression. -/
  | badExpansion (segment : List Char)
  /-- An operator that is set aside for later use. -/
  | unsupportedExpansion (segment : List Char)
  | badVariable (text : List Char)
  | emptyName
deriving DecidableEq, Repr

/-- A template that cannot be read. -/
structure SyntaxError where
  template : String
  fault : Fault
deriving DecidableEq, Repr

namespace Fault

def summary : Fault → List Char
  | .badExpansion s => "Bad expansion: ".toList ++ s
  | .unsupportedExpansion s => "Unsupported expansion: ".toList ++ s
  | .badVariable s => "Bad variable: ".toList ++ s
  | .emptyName => "Empty variable name".toList

/-- The text that is at fault. -/
def fragment? : Fault → Option (List Char)
  | .badExpansion s | .unsupportedExpansion s | .badVariable s => some s
  | .emptyName => none

end Fault

namespace SyntaxError

/-- Where the faulty text first occurs.  A variable is named as it was
understood, which need not be as it was written, so it may not be found. -/
def position (e : SyntaxError) : Option Nat :=
  e.fault.fragment?.bind fun f => Text.offset? f e.template.toList

def message (e : SyntaxError) : String :=
  let place :=
    match e.position with
    | some n => " at position ".toList ++ Decimal.digitChars n
    | none => []
  String.ofList (e.fault.summary ++ place ++ " in ".toList ++ Text.quoted e.template.toList)

end SyntaxError
end Template
end RouteTemplate
