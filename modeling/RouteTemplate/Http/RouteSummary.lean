/-
What is known of an exchange once the response is there: how it went, and from
which route its URL was made.
-/
import RouteTemplate.Request.Basic

namespace RouteTemplate

structure RouteSummary where
  status : Int
  reason : String
  url : String
  route : String
  params : Option (List (String × Value))
deriving Repr

namespace RouteSummary

def ofFields (fields : List (Value × Value)) : Schema.Checked RouteSummary :=
  let text := Schema.scalar Schema.text?
  let status := Schema.required fields "status" (Schema.scalar Schema.integer?)
  let reason := Schema.optional fields ["reason"] "" text
  let url := Schema.required fields "url" text
  let route := Schema.required fields "route" text
  let params := Schema.optional fields ["route_params"] none
    (Schema.nullable (Schema.mapping some))
  (Schema.both status (Schema.both reason (Schema.both url (Schema.both route params)))).map
    fun (status, reason, url, route, params) => ⟨status, reason, url, route, params⟩

def ofValue : Value → Schema.Checked RouteSummary := Schema.record ofFields

def fields (s : RouteSummary) : List (String × Value) :=
  [("status", .int s.status), ("reason", .text s.reason), ("url", .text s.url),
    ("route", .text s.route), ("route_params", Value.ofEntries? s.params)]

end RouteSummary
end RouteTemplate
