/-
Parameters as they are typed: `name=value`.

A value that is the text of a truth value or of a number is taken as that, but a
number only in the form it would be written in again.  So `7` is a number and
`007` is text, and neither loses a character on its way into a URL.
-/
import RouteTemplate.Request.Basic
import RouteTemplate.Text.Pieces

namespace RouteTemplate
namespace CommandLine

def integer? (s : String) : Option Int :=
  if Decimal.digitLimit < (Decimal.splitSign s.toList).2.length then none
  else (Decimal.readInt? s.toList).filter fun n => toString n == s

def number? (s : String) : Option Binary64 :=
  (Binary64.ofText? s.toList).filter fun x => String.ofList (x.text .plain) == s

def readValue (s : String) : Value :=
  if s = "true" then .bool true
  else if s = "false" then .bool false
  else
    match integer? s with
    | some n => .int n
    | none =>
      match number? s with
      | some x => .float x
      | none => .text s

/-- A parameter has a name and an equals sign. -/
def readPair? (pair : String) : Option (String × Value) :=
  match Text.cut? '=' pair.toList with
  | some (name, value) =>
    if name.isEmpty then none else some (String.ofList name, readValue (String.ofList value))
  | none => none

/-- The parameters of a command, or the first argument that is none.  A name
given twice has its later value in its earlier place. -/
def readPairs (pairs : List String) : Except String Params :=
  pairs.foldlM (fun params pair =>
    match readPair? pair with
    | some (name, value) => .ok (Schema.put name value params)
    | none => .error pair) []

end CommandLine
end RouteTemplate
