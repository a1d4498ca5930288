/-
Requests, before anything is sent: the URL or the template it is to be made
from, the parameters, and settings of the transport that nobody here looks at.
-/
import RouteTemplate.Schema.Record
import RouteTemplate.Template.Expansion

namespace RouteTemplate

/-- When the URL of a request is itself taken for a template. -/
structure Policy where
  urlIsTemplate : Bool
deriving DecidableEq, Repr

instance : Inhabited Policy := ⟨⟨true⟩⟩

structure Request where
  url : Option String
  template : Option String
  params : Option Params
  transport : List (String × Value)
deriving Repr

namespace Schema

/-- Scalars are kept as they are; bytes become text. -/
def scalar? : Value → Option Value
  | .bool b => some (.bool b)
  | .int n => some (.int n)
  | .float x => some (.float x)
  | .text s => some (.text s)
  | .bytes bs => (text? (.bytes bs)).map .text
  | _ => none

/-- A parameter value: null, a scalar, a sequence of scalars or a mapping from
text to scalars.  Nothing nests deeper, and null is no item. -/
def parameter? : Value → Option Value
  | .null => some .null
  | .list items => (items.mapM scalar?).map .list
  | .tuple items => (items.mapM scalar?).map .list
  | .map es =>
    match mapping scalar? "" (.map es) with
    | .ok rs => some (.map (rs.map fun r => (.text r.1, r.2)))
    | .error _ => none
  | v => scalar? v

end Schema

namespace Policy

def ofFields (fields : List (Value × Value)) : Schema.Checked Policy :=
  (Schema.optional fields ["urlAsTemplate", "url_as_template"] true
    (Schema.scalar Schema.flag?)).map Policy.mk

def ofValue : Value → Schema.Checked Policy := Schema.record ofFields

def fields (p : Policy) : List (String × Value) :=
  [("url_as_template", .bool p.urlIsTemplate)]

end Policy

namespace Request

def ofFields (fields : List (Value × Value)) : Schema.Checked Request :=
  let text := Schema.nullable (Schema.scalar Schema.text?)
  let url := Schema.optional fields ["url"] none text
  let template := Schema.optional fields ["urlTemplate", "url_template"] none text
  let params := Schema.optional fields ["urlTemplateParams", "url_template_params"] none
    (Schema.nullable (Schema.mapping Schema.parameter?))
  let transport := Schema.optional fields ["transport"] [] (Schema.mapping some)
  (Schema.both url (Schema.both template (Schema.both params transport))).map
    fun (url, template, params, transport) => ⟨url, template, params, transport⟩

def ofValue : Value → Schema.Checked Request := Schema.record ofFields

/-- The template if there is one, otherwise the URL. -/
def route (r : Request) : Option String := r.template <|> r.url

/-- The fields of a request by name. -/
def fields (r : Request) : List (String × Value) :=
  [("url", Value.ofText? r.url),
    ("url_template", Value.ofText? r.template),
    ("url_template_params", Value.ofEntries? r.params),
    ("transport", Value.ofEntries r.transport)]

end Request
end RouteTemplate
