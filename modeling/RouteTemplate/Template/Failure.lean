/-
Why a template gives no URL, and how that is said.

Parameters are handed to a template by name, and one name is taken by the
template itself: no parameter can be called `self`, whether the template uses
it or not.
-/
import RouteTemplate.Template.Parser
import RouteTemplate.Template.Expansion

namespace RouteTemplate
namespace Template

inductive Failure where
  | unreadable (e : SyntaxError)
  | lengthOfComposite (source : String) (v : Variable)
  /-- A parameter that holds an integer of too many digits. -/
  | tooManyDigits
  /-- A parameter that cannot be handed over under its name. -/
  | parameterName (name : Value)
deriving Repr

namespace Failure

def message : Failure → String
  | .unreadable e => e.message
  | .lengthOfComposite source v =>
    String.ofList ("Cannot expand ".toList ++ v.text ++ " in ".toList ++ Text.quoted source.toList)
  | .tooManyDigits =>
    "Exceeds the limit (" ++ toString Decimal.digitLimit ++ " digits) for integer string conversion"
  | .parameterName name =>
    String.ofList ("No parameter can be named ".toList ++ name.label)

/-- What the fault of an expansion says of the template. -/
def ofFault (source : String) : ExpansionFault → Failure
  | .lengthOfComposite v => .lengthOfComposite source v
  | .tooManyDigits => .tooManyDigits

end Failure

/-- The one name that no parameter can have. -/
def reservedName : String := "self"

/-- Expand a template with parameters, some of which it may not use. -/
def expandParams (t : Template) (params : Params) : Except Failure String :=
  if params.any fun p => p.1 == reservedName then .error (.parameterName (.text reservedName))
  else (t.expand params).mapError (.ofFault t.source)

/-- Parameters from the entries of any mapping; only text can be a name. -/
def bindEntries (entries : List (Value × Value)) : Except Failure Params :=
  entries.mapM fun e =>
    match e.1 with
    | .text name => .ok (name, e.2)
    | key => .error (.parameterName key)

def expandEntries (t : Template) (entries : List (Value × Value)) : Except Failure String := do
  t.expandParams (← bindEntries entries)

/-- Read a template, or say why it gives no URL. -/
def read (source : String) : Except Failure Template :=
  (parse source).mapError Failure.unreadable

/-- How a template is shown in messages. -/
def description (t : Template) : String :=
  String.ofList ("URITemplate(".toList ++ Text.quoted t.source.toList ++ [')'])

/-- The URL that a template and parameters make. -/
def url (source : String) (params : Params) : Except Failure String := do
  (← read source).expandParams params

end Template
end RouteTemplate
