/-
All record types side by side: how each is read, which names its fields have
outside, and what assigning to a field does.
-/
import RouteTemplate.Http.RouteSummary
import RouteTemplate.Settings.Basic

namespace RouteTemplate
namespace Schema

inductive Model where
  | request
  | policy
  | routeSummary
  | clientSettings
  | logSettings
  | settings
deriving DecidableEq, Repr

namespace Model

/-- Read a record and give its fields, in order, by name. -/
def read : Model → Value → Checked (List (String × Value))
  | .request, v => (Request.ofValue v).map Request.fields
  | .policy, v => (Policy.ofValue v).map Policy.fields
  | .routeSummary, v => (RouteSummary.ofValue v).map RouteSummary.fields
  | .clientSettings, v => (ClientSettings.ofValue v).map ClientSettings.fields
  | .logSettings, v => (LogSettings.ofValue v).map LogSettings.fields
  | .settings, v => (Settings.ofValue v).map Settings.fields

/-- The other name of a field, or its name where it has no other. -/
def outsideName : String → String
  | "url_as_template" => "urlAsTemplate"
  | "url_template" => "urlTemplate"
  | "url_template_params" => "urlTemplateParams"
  | name => name

def outsideNames (fields : List (String × Value)) : List String :=
  fields.map fun f => outsideName f.1

/-- Requests and policies do not change once they are made. -/
def isFrozen : Model → Bool
  | .request | .policy => true
  | _ => false

inductive AssignmentFault where
  | frozen (field : String)
  | noSuchField (field : String)
deriving DecidableEq, Repr

/-- Assign to a field.  The new value is taken as it is. -/
def assign (m : Model) (fields : List (String × Value)) (name : String) (v : Value) :
    Except AssignmentFault (List (String × Value)) :=
  if m.isFrozen then .error (.frozen name)
  else if fields.any fun f => f.1 == name then .ok (put name v fields)
  else .error (.noSuchField name)

end Model
end Schema
end RouteTemplate
