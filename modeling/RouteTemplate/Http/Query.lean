/-
Queries made of named values, in the form in which web forms are sent.
-/
import RouteTemplate.Schema.Record

namespace RouteTemplate
namespace Query

/-- A text with plus signs for its blanks. -/
def formText (s : List Char) : List Char :=
  s.flatMap fun c => if c = ' ' then ['+'] else Percent.encodeUnless Percent.isUnreserved c

/-- What is wrong with a query: a name or a value that holds an integer of too many
digits. -/
inductive Fault where
  | tooManyDigits
deriving DecidableEq, Repr

def written : Option (List Char) → Except Fault (List Char)
  | some s => .ok s
  | none => .error .tooManyDigits

def scalarText : Value → Except Fault (List Char)
  | .null => .ok []
  | .bool b => .ok (if b then "true".toList else "false".toList)
  | v => written v.display?

/-- A sequence stands for several values of one name. -/
def texts : Value → Except Fault (List (List Char))
  | .list items => items.mapM scalarText
  | .tuple items => items.mapM scalarText
  | v => do return [← scalarText v]

/-- The query that named values make.  Where there are no names there is no
query, not even an empty one. -/
def ofEntries (entries : List (Value × Value)) : Except Fault (Option (List Char)) :=
  if entries.isEmpty then .ok none
  else do
    let read ← entries.mapM fun e => do
      return (String.ofList (← written e.1.display?), ← texts e.2)
    let named := read.foldl (fun es e => Schema.put e.1 e.2 es) []
    let fields := named.flatMap fun (name, values) =>
      values.map fun v => formText name.toList ++ '=' :: formText v
    return some (List.intercalate ['&'] fields)

end Query
end RouteTemplate
