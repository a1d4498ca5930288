/-
Clients that send requests, and the interceptor that is attached to them.

A client passes every call through its interceptors, builds a request from what
comes out, and shows every response to its hooks.  Attaching adds one
interceptor, and one hook if responses are to be logged; a client keeps note of
it, so that it happens only once.
-/
import RouteTemplate.Http.Call
import RouteTemplate.Http.Header
import RouteTemplate.Http.Query
import RouteTemplate.Http.RouteSummary
import RouteTemplate.Http.Status
import RouteTemplate.Settings.Basic

namespace RouteTemplate

/-- What is done with a response: its route is logged. -/
inductive ResponseHook where
  | logRoute
deriving DecidableEq, Repr

structure Client where
  isAsync : Bool
  base : Url
  timeout : Binary64
  isAttached : Bool
  /-- The policies of the interceptors, outermost first. -/
  interceptors : List Policy
  hooks : List ResponseHook
  /-- How many requests have been sent. -/
  sent : Nat
deriving Repr

/-- A request that is ready to be sent. -/
structure BuiltRequest where
  method : String
  url : Url
  headers : List Header
  extensions : List (Value × Value)
deriving Repr

namespace Client

inductive Failure where
  | refused (refusal : Call.Refusal)
  | url (fault : Url.Fault)
  | header (fault : Header.Fault)
  | query (fault : Query.Fault)
  /-- An extension whose name is not text. -/
  | extensionName (name : Value)
  /-- A request that is sent without a scheme. -/
  | noScheme (url : Url)
  /-- Extensions that no summary of the route can be made from. -/
  | summary (faults : List Schema.Location)
deriving Repr

/-! ## Making clients -/

/-- The timeout of a client that is given none, in seconds. -/
def standardTimeout : Binary64 := Binary64.ofInt 5

def bare (isAsync : Bool) (baseUrl : String) (timeout : Binary64) : Except Url.Fault Client := do
  let base ← (← Url.parse baseUrl.toList).asBase
  return ⟨isAsync, base, timeout, false, [], [], 0⟩

/-- How a client is called in messages. -/
def description (c : Client) : String :=
  if c.isAsync then "<httpx.AsyncClient object>" else "<httpx.Client object>"

/-- What attaching logs. -/
def attachNotices (c : Client) : List LogRecord :=
  if c.isAttached then
    [⟨.debug, .hooks, "Template interceptor already attached to " ++ c.description⟩]
  else []

/-- Attach an interceptor, unless there is one already. -/
def attach (policy : Policy) (logResponses : Bool) (c : Client) : Client :=
  if c.isAttached then c
  else
    { c with
      isAttached := true
      interceptors := policy :: c.interceptors
      hooks := c.hooks ++ (if logResponses then [.logRoute] else []) }

/-- The client that settings ask for. -/
def ofSettings (s : Settings) : Except Url.Fault Client :=
  (bare false (s.client.baseUrl.getD "") s.client.timeout).map
    (attach s.expansion s.client.logResponses)

/-! ## Building requests -/

def Destination.read : Destination → Except Url.Fault Url
  | .text s => Url.parse s.toList
  | .url u => .ok u

def timeoutValue (timeout : Binary64) : Value :=
  Value.ofEntries (["connect", "read", "write", "pool"].map fun phase => (phase, .float timeout))

def isTextKey : Value → Bool
  | .text _ => true
  | _ => false

/-- Extensions with the timeout of the client, unless they name one of their
own.  Adding it asks that all names are text. -/
def addTimeout (c : Client) (es : List (Value × Value)) : Except Failure (List (Value × Value)) :=
  if Extensions.has es Extensions.timeout then .ok es
  else
    match es.find? fun e => !isTextKey e.1 with
    | some e => .error (.extensionName e.1)
    | none => .ok (es ++ [(.text Extensions.timeout, timeoutValue c.timeout)])

/-- Build a request from a call, without looking at templates. -/
def construct (c : Client) (call : Call) : Except Failure BuiltRequest := do
  let destination ← (Destination.read call.destination).mapError .url
  let url ← (c.base.join destination).mapError .url
  let headers ← (Header.ofEntries call.headers).mapError .header
  let query ← call.query.mapM fun entries => (Query.ofEntries entries).mapError .query
  let extensions ← c.addTimeout call.extensions
  let url ←
    match query with
    | some query => (url.withQuery query).mapError .url
    | none => .ok url
  return ⟨Text.capitals call.method, url, headers, extensions⟩

/-- Build from what has passed the interceptors, in the way that was there before
them; what they refuse is never built. -/
def buildWith {β : Type} (original : Arguments → β) (refuse : Call.Refusal → β) (c : Client)
    (a : Arguments) : List LogRecord × β :=
  let (log, passed) := Arguments.interceptAll c.interceptors a
  (log, Arguments.handOver original refuse passed)

/-- Build a request from a call. -/
def build (c : Client) (call : Call) : List LogRecord × Except Failure BuiltRequest :=
  c.buildWith (fun a => c.construct (call.withArguments a)) (fun r => .error (.refused r))
    call.arguments

/-! ## Sending them -/

/-- The route of an exchange: the template of the request, or its URL where no
template applied. -/
def summarize (r : BuiltRequest) (status : Int) : Schema.Checked RouteSummary :=
  let url := Value.text (String.ofList r.url.text)
  let route :=
    match Extensions.get r.extensions Extensions.template with
    | .null => url
    | template => template
  RouteSummary.ofFields
    [(.text "status", .int status), (.text "reason", .text (Status.phrase status)),
      (.text "url", url), (.text "route", route),
      (.text "route_params", Extensions.get r.extensions Extensions.params)]

/-- What a hook logs of a response.  A record whose parameters have no text is lost. -/
def hookNotice? (r : BuiltRequest) (s : RouteSummary) : ResponseHook → Option LogRecord
  | .logRoute => (Value.ofEntries? s.params).repr?.map fun params =>
    ⟨.info, .hooks,
      r.method ++ " " ++ s.url ++ " -> " ++ toString s.status ++ " " ++ s.reason ++ " (route=" ++
        s.route ++ " params=" ++ String.ofList params ++ ")"⟩

/-- Send a request, which is answered with a status. -/
def send (c : Client) (r : BuiltRequest) (status : Int) :
    List LogRecord × Except Failure RouteSummary :=
  if r.url.scheme.isEmpty then ([], .error (.noScheme r.url))
  else
    match summarize r status with
    | .error faults => ([], .error (.summary faults))
    | .ok summary => (c.hooks.filterMap (hookNotice? r summary), .ok summary)

/-- A client that has sent one more request. -/
def countSent (c : Client) : Client := { c with sent := c.sent + 1 }

/-- What came of a call. -/
structure Exchange where
  client : Client
  log : List LogRecord
  result : Except Failure (BuiltRequest × RouteSummary)

/-- Build a request from a call and send it. -/
def request (c : Client) (call : Call) (status : Int) : Exchange :=
  match c.build call with
  | (log, .error f) => ⟨c, log, .error f⟩
  | (log, .ok r) =>
    let (more, result) := c.send r status
    ⟨c.countSent, log ++ more, result.map fun summary => (r, summary)⟩

end Client
end RouteTemplate
