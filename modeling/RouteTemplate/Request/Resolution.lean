/-
Deciding the URL of a request.

A template of the request's own always wins.  Failing that the URL is the
template, if the policy says so.  Otherwise the request stays what it is.  A
request that has been resolved keeps the template and the parameters it was
resolved with, so resolving it again comes to the same.
-/
import RouteTemplate.Log
import RouteTemplate.Request.Basic
import RouteTemplate.Template.Failure

namespace RouteTemplate
namespace Request

/-- What a request is resolved from. -/
inductive Source where
  | ownTemplate (template : String)
  | url (template : String)
deriving DecidableEq, Repr

namespace Source

def template : Source → String
  | .ownTemplate t => t
  | .url t => t

/-- What is logged before the template is read. -/
def notice : Source → LogRecord
  | .ownTemplate t => ⟨.debug, .transformer, "Expanding explicit url_template " ++ t⟩
  | .url t => ⟨.debug, .transformer, "Expanding url as template " ++ t⟩

end Source

def source? (policy : Policy) (r : Request) : Option Source :=
  match r.template, r.url with
  | some t, _ => some (.ownTemplate t)
  | none, some u => if policy.urlIsTemplate then some (.url u) else none
  | none, none => none

/-- The request with its URL decided, or why its template gives none. -/
def resolve (policy : Policy) (r : Request) : Except Template.Failure Request :=
  match r.source? policy with
  | none => .ok r
  | some source => do
    let params := r.params.getD []
    let url ← Template.url source.template params
    return { r with url := some url, template := some source.template, params := some params }

/-- An interceptor resolves each request it sees, by the options it was made with
or by the usual ones. -/
def interceptor (options : Option Policy) (r : Request) : Except Template.Failure Request :=
  r.resolve (options.getD default)

/-- What resolving a request logs, whether it succeeds or not. -/
def notices (policy : Policy) (r : Request) : List LogRecord :=
  ((r.source? policy).map Source.notice).toList

end Request
end RouteTemplate
