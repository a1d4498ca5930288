/-
What a client is asked to send, and how templates travel with it.

A call carries its template and the parameters for it as extensions.  An
interceptor sees a call as arguments by name.  It resolves them before anything
is built: it decides the URL, writes the template and the parameters it was made
from back into the extensions, and hands on everything else.
-/
import RouteTemplate.Http.Url
import RouteTemplate.Request.Resolution

namespace RouteTemplate

/-- Where a call goes: a text, which may be a template, or a URL that is read
already and never is one. -/
inductive Destination where
  | text (s : String)
  | url (u : Url)
deriving DecidableEq, Repr

structure Call where
  method : String
  destination : Destination
  /-- Values that replace the query of the URL. -/
  query : Option (List (Value × Value))
  headers : List (Value × Value)
  /-- Notes that travel with the request and are not sent. -/
  extensions : List (Value × Value)
deriving Repr

namespace Destination

def text? : Destination → Option String
  | .text s => some s
  | .url _ => none

end Destination

/-! ## Extensions -/

namespace Extensions

def template : String := "url_template"
def params : String := "url_template_params"
def timeout : String := "timeout"

/-- The value of an extension, null where there is none. -/
def get (es : List (Value × Value)) (name : String) : Value :=
  ((es.find? fun e => Schema.isKey name e.1).map Prod.snd).getD .null

def has (es : List (Value × Value)) (name : String) : Bool :=
  es.any fun e => Schema.isKey name e.1

/-- Set an extension, in the place that it already has or at the end. -/
def set (name : String) (v : Value) : List (Value × Value) → List (Value × Value)
  | [] => [(.text name, v)]
  | e :: es => if Schema.isKey name e.1 then (e.1, v) :: es else e :: set name v es

end Extensions

namespace Call

/-- Why a call is not passed on. -/
inductive Refusal where
  | invalid (faults : List Schema.Location)
  | failed (failure : Template.Failure)
deriving Repr

end Call

/-- What is asked of a client, as an interceptor sees it. -/
structure Arguments where
  destination : Destination
  /-- Notes that travel with the request, if any are given. -/
  extensions : Option (List (Value × Value))
  /-- The method and everything else, by name. -/
  transport : List (String × Value)
deriving Repr

namespace Arguments

def notes (a : Arguments) : List (Value × Value) := a.extensions.getD []

/-- The request that arguments stand for. -/
def request (a : Arguments) : Schema.Checked Request :=
  Request.ofFields
    [(.text "url", Value.ofText? a.destination.text?),
      (.text "url_template", Extensions.get a.notes Extensions.template),
      (.text "url_template_params", Extensions.get a.notes Extensions.params),
      (.text "transport", Value.ofEntries a.transport)]

/-- Arguments with what their request was resolved to.  Where no template
applied they stay what they are. -/
def record (a : Arguments) (r : Request) : Arguments :=
  match r.template, r.url with
  | some template, some url =>
    { destination := .text url
      extensions := some (Extensions.set Extensions.params (Value.ofEntries? r.params)
        (Extensions.set Extensions.template (.text template) a.notes))
      transport := r.transport }
  | _, _ => { a with extensions := some a.notes, transport := r.transport }

/-- Resolve the template of arguments. -/
def intercept (policy : Policy) (a : Arguments) : Except Call.Refusal Arguments := do
  let r ← a.request.mapError .invalid
  let resolved ← (r.resolve policy).mapError .failed
  return a.record resolved

/-- What intercepting logs. -/
def notices (policy : Policy) (a : Arguments) : List LogRecord :=
  match a.request with
  | .ok r => r.notices policy
  | .error _ => []

/-- Pass arguments through interceptors, with what each of them logs; the first
that refuses them is the last to see them. -/
def interceptAll : List Policy → Arguments → List LogRecord × Except Call.Refusal Arguments
  | [], a => ([], .ok a)
  | policy :: rest, a =>
    match a.intercept policy with
    | .ok a' =>
      let (log, result) := interceptAll rest a'
      (a.notices policy ++ log, result)
    | .error refusal => (a.notices policy, .error refusal)

/-- What is made of arguments that are passed on, or of their refusal. -/
def handOver {β : Type} (original : Arguments → β) (refuse : Call.Refusal → β) :
    Except Call.Refusal Arguments → β
  | .ok a => original a
  | .error refusal => refuse refusal

end Arguments

namespace Call

def arguments (c : Call) : Arguments where
  destination := c.destination
  extensions := some c.extensions
  transport := ("method", .text c.method) :: ("headers", .map c.headers) ::
    (c.query.map fun entries => ("params", .map entries)).toList

/-- A call with what interceptors decide. -/
def withArguments (c : Call) (a : Arguments) : Call :=
  { c with destination := a.destination, extensions := a.notes }

end Call
end RouteTemplate
