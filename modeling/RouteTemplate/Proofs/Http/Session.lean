/-
Runs of one client: interceptors are attached and requests are sent, in any order.

The invariant is that a client is where its first attachment has put it, but for the count of
what was sent.  Sending touches nothing else, and a client that is attached takes no second
interceptor and no second hook.  So a request is built as the client was made until something
is attached, and from then on behind one interceptor, with the options that came first.
-/
import RouteTemplate.Proofs.Http.Interception

namespace RouteTemplate
namespace Client

inductive Event where
  /-- Options that are not given are the usual ones. -/
  | attach (options : Option Policy) (logResponses : Bool)
  /-- A call that is sent, and the status it is answered with. -/
  | request (call : Call) (status : Int)

namespace Event

def isRequest : Event → Bool
  | .attach _ _ => false
  | .request _ _ => true

def exchange? (c : Client) : Event → Option Exchange
  | .attach _ _ => none
  | .request call status => some (c.request call status)

end Event

def step (c : Client) : Event → Client
  | .attach options logResponses => c.attach (options.getD default) logResponses
  | .request call status => (c.request call status).client

def run (c : Client) (es : List Event) : Client := es.foldl step c

/-- What comes of the requests of a run, in order. -/
def exchanges (c : Client) : List Event → List Exchange
  | [] => []
  | e :: es => (e.exchange? c).toList ++ exchanges (c.step e) es

/-! ## The first attachment -/

/-- What the first attachment of a run asks for: options, and whether to log responses. -/
def firstAttach? : List Event → Option (Option Policy × Bool)
  | [] => none
  | .attach options logResponses :: _ => some (options, logResponses)
  | .request _ _ :: es => firstAttach? es

/-- A run without its attachments, but for the first. -/
def attachOnce : List Event → List Event
  | [] => []
  | .attach options logResponses :: es => .attach options logResponses :: es.filter Event.isRequest
  | .request call status :: es => .request call status :: attachOnce es

def attachFirst (c : Client) : Option (Option Policy × Bool) → Client
  | none => c
  | some (options, logResponses) => c.attach (options.getD default) logResponses

variable {c d : Client}

theorem attach_of_isAttached (h : c.isAttached = true) (policy : Policy) (logResponses : Bool) :
    c.attach policy logResponses = c := if_pos h

theorem isAttached_attach (c : Client) (policy : Policy) (logResponses : Bool) :
    (c.attach policy logResponses).isAttached = true := by
  unfold attach
  split
  · assumption
  · rfl

/-! ## One event -/

/-- Two clients that differ at most in how many requests they have sent. -/
def Alike (c d : Client) : Prop := ∃ n, d = { c with sent := n }

namespace Alike

theorem refl (c : Client) : Alike c c := ⟨c.sent, rfl⟩

theorem trans {e : Client} (h : Alike c d) (h' : Alike d e) : Alike c e := by
  obtain ⟨n, rfl⟩ := h
  obtain ⟨m, rfl⟩ := h'
  exact ⟨m, rfl⟩

theorem isAttached (h : Alike c d) : d.isAttached = c.isAttached := by
  obtain ⟨n, rfl⟩ := h
  rfl

theorem hooks (h : Alike c d) : d.hooks = c.hooks := by
  obtain ⟨n, rfl⟩ := h
  rfl

theorem build (h : Alike c d) (call : Call) : d.build call = c.build call := by
  obtain ⟨n, rfl⟩ := h
  rfl

theorem attach (h : Alike c d) (policy : Policy) (logResponses : Bool) :
    Alike (c.attach policy logResponses) (d.attach policy logResponses) := by
  obtain ⟨n, rfl⟩ := h
  refine ⟨n, ?_⟩
  unfold Client.attach
  split
  · rfl
  · rfl

theorem attachFirst (h : Alike c d) (first : Option (Option Policy × Bool)) :
    Alike (c.attachFirst first) (d.attachFirst first) := by
  cases first with
  | none => exact h
  | some first => exact h.attach _ _

end Alike

/-- Sending counts what is sent, and does nothing else to a client. -/
theorem alike_request (c : Client) (call : Call) (status : Int) :
    Alike c (c.request call status).client := by
  unfold request
  split
  · exact .refl c
  · exact ⟨c.sent + 1, rfl⟩

/-! ## Runs -/

theorem run_cons (c : Client) (e : Event) (es : List Event) :
    c.run (e :: es) = (c.step e).run es := rfl

theorem exchanges_append (c : Client) (es fs : List Event) :
    c.exchanges (es ++ fs) = c.exchanges es ++ (c.run es).exchanges fs := by
  induction es generalizing c with
  | nil => rfl
  | cons e es ih =>
    rw [List.cons_append, exchanges, exchanges, ih, List.append_assoc]
    rfl

theorem alike_run_of_isAttached (h : c.isAttached = true) (es : List Event) :
    Alike c (c.run es) := by
  induction es generalizing c with
  | nil => exact .refl c
  | cons e es ih =>
    have hstep : Alike c (c.step e) := by
      cases e with
      | attach options logResponses =>
        rw [step, attach_of_isAttached h]
        exact .refl c
      | request call status => exact alike_request c call status
    exact hstep.trans (ih (hstep.isAttached.trans h))

/-- After any run a client is where its first attachment has put it. -/
theorem alike_run (c : Client) (es : List Event) :
    Alike (c.attachFirst (firstAttach? es)) (c.run es) := by
  induction es generalizing c with
  | nil => exact .refl c
  | cons e es ih =>
    cases e with
    | attach options logResponses =>
      exact alike_run_of_isAttached (c.isAttached_attach _ _) es
    | request call status =>
      -- A client that has sent a request takes the attachment as it would have before.
      exact ((alike_request c call status).attachFirst (firstAttach? es)).trans (ih _)

/-- An attached client cannot tell a run from its requests alone. -/
theorem run_of_isAttached (h : c.isAttached = true) (es : List Event) :
    c.exchanges es = c.exchanges (es.filter Event.isRequest) ∧
      c.run es = c.run (es.filter Event.isRequest) := by
  induction es generalizing c with
  | nil => exact ⟨rfl, rfl⟩
  | cons e es ih =>
    cases e with
    | attach options logResponses =>
      have hstep : c.step (.attach options logResponses) = c := attach_of_isAttached h _ _
      rw [List.filter_cons_of_neg (by exact Bool.false_ne_true), exchanges, run_cons, hstep]
      -- Such an event has no exchange, and it is not among the requests.
      exact ih h
    | request call status =>
      have hafter := ((alike_request c call status).isAttached).trans h
      obtain ⟨hexchanges, hrun⟩ := ih hafter
      rw [List.filter_cons_of_pos rfl, exchanges, exchanges, run_cons, run_cons]
      exact ⟨congrArg _ hexchanges, hrun⟩

/-- Attachments after the first make no difference to a run. -/
theorem run_attachOnce (c : Client) (es : List Event) :
    c.exchanges es = c.exchanges (attachOnce es) ∧ c.run es = c.run (attachOnce es) := by
  induction es generalizing c with
  | nil => exact ⟨rfl, rfl⟩
  | cons e es ih =>
    cases e with
    | attach options logResponses => exact run_of_isAttached (c.isAttached_attach _ _) es
    | request call status =>
      obtain ⟨hexchanges, hrun⟩ := ih (c.step (.request call status))
      exact ⟨congrArg (_ ++ ·) hexchanges, hrun⟩

/-! ## Building in a run -/

/-- A client as it is made, before anything is attached to it. -/
structure Plain (c : Client) : Prop where
  isAttached : c.isAttached = false
  interceptors : c.interceptors = []

theorem plain_bare {isAsync : Bool} {baseUrl : String} {timeout : Binary64}
    (h : bare isAsync baseUrl timeout = .ok c) : c.Plain := by
  obtain ⟨base, _, h⟩ := Outcome.bind_eq_ok.1 h
  obtain ⟨base', _, h⟩ := Outcome.bind_eq_ok.1 h
  cases h
  exact ⟨rfl, rfl⟩

theorem Plain.build (h : c.Plain) (call : Call) : c.build call = ([], c.construct call) := by
  rw [Client.build, buildWith, h.interceptors]
  rfl

theorem Plain.attach (h : c.Plain) (policy : Policy) (logResponses : Bool) :
    c.attach policy logResponses =
      { c with
        isAttached := true
        interceptors := [policy]
        hooks := c.hooks ++ (if logResponses then [.logRoute] else []) } := by
  rw [Client.attach, h.isAttached, h.interceptors]
  rfl

theorem Plain.interceptors_attach (h : c.Plain) (policy : Policy) (logResponses : Bool) :
    (c.attach policy logResponses).interceptors = [policy] := by
  rw [h.attach]

def hooksOf : Option (Option Policy × Bool) → List ResponseHook
  | some (_, true) => [.logRoute]
  | _ => []

/-- How a request is built, given what was attached before it. -/
def buildAfter (c : Client) (call : Call) :
    Option (Option Policy × Bool) → List LogRecord × Except Failure BuiltRequest
  | none => ([], c.construct call)
  | some (options, _) =>
    let policy := options.getD default
    (call.arguments.notices policy,
      Arguments.handOver (fun a => c.construct (call.withArguments a))
        (fun refusal => .error (.refused refusal)) (call.arguments.intercept policy))

theorem Plain.build_attachFirst (h : c.Plain) (first : Option (Option Policy × Bool))
    (call : Call) : (c.attachFirst first).build call = c.buildAfter call first := by
  cases first with
  | none => exact h.build call
  | some first =>
    obtain ⟨options, logResponses⟩ := first
    have hone := h.interceptors_attach (options.getD default) logResponses
    have hconstruct : (c.attach (options.getD default) logResponses).construct = c.construct := by
      rw [h.attach]
      rfl
    show (c.attach (options.getD default) logResponses).build call = _
    rw [Client.build, buildWith_of_interceptors hone, hconstruct]
    rfl

theorem Plain.hooks_attachFirst (h : c.Plain) (first : Option (Option Policy × Bool)) :
    (c.attachFirst first).hooks = c.hooks ++ hooksOf first := by
  cases first with
  | none => exact (List.append_nil _).symm
  | some first =>
    obtain ⟨options, logResponses⟩ := first
    show (c.attach _ _).hooks = _
    rw [h.attach]
    cases logResponses with
    | true => rfl
    | false => rfl

/-- Attaching happens once.  A run is the run in which only its first attachment is made; the
hooks gain what that one asks for; and each request is built as the client builds requests by
itself if nothing was attached before it, and else from what the one interceptor makes of
the call, by the options of the first attachment. -/
theorem run_attaches_once (h : c.Plain) (es : List Event) :
    (c.exchanges es = c.exchanges (attachOnce es) ∧ c.run es = c.run (attachOnce es)) ∧
      (c.run es).hooks = c.hooks ++ hooksOf (firstAttach? es) ∧
      ∀ before call status behind, es = before ++ .request call status :: behind →
        c.exchanges es = c.exchanges before ++ (c.run before).request call status ::
          ((c.run before).request call status).client.exchanges behind ∧
        (c.run before).build call = c.buildAfter call (firstAttach? before) ∧
        (c.run before).hooks = c.hooks ++ hooksOf (firstAttach? before) := by
  have hhooks : ∀ fs, (c.run fs).hooks = c.hooks ++ hooksOf (firstAttach? fs) := fun fs =>
    (c.alike_run fs).hooks.trans (h.hooks_attachFirst _)
  refine ⟨c.run_attachOnce es, hhooks es, ?_⟩
  rintro before call status behind rfl
  refine ⟨c.exchanges_append before _, ?_, hhooks before⟩
  exact ((c.alike_run before).build call).trans (h.build_attachFirst _ call)

/-- A template that the first attachment takes the URL for, and the second would not. -/
theorem run_attaches_once_between :
    let params : Value × Value := (.text "url_template_params", .map [(.text "q", .text "a b")])
    let call : Call := ⟨"GET", .text "/items{?q}", none, [], [params]⟩
    let expanded : Call := ⟨"GET", .text "/items?q=a%20b", none, [],
      [params, (.text "url_template", .text "/items{?q}")]⟩
    let first : List Event := [.request call 200, .attach none true, .request call 404]
    let second : Event := .attach (some ⟨false⟩) true
    ∃ c, bare false "https://x.test" standardTimeout = .ok c ∧
      (c.run (first ++ [second, .request call 200])).hooks = [.logRoute] ∧
      c.exchanges (first ++ [second, .request call 200]) =
        c.exchanges (first ++ [.request call 200]) ∧
      (c.run []).build call = ([], c.construct call) ∧
      (c.run (first ++ [second])).build call =
        ([⟨.debug, .transformer, "Expanding url as template /items{?q}"⟩],
          c.construct expanded) := by
  intro params call expanded first second
  obtain ⟨c, hc⟩ : ∃ c, bare false "https://x.test" standardTimeout = .ok c := ⟨_, rfl⟩
  have hplain : c.Plain := plain_bare hc
  have hhooks : c.hooks = [] := by
    cases hc
    rfl
  have hurl : Template.url "/items{?q}" [("q", .text "a b")] = .ok "/items?q=a%20b" :=
    Outcome.eq_ok_of_toOption (by decide +kernel)
  have hpassed : call.arguments.intercept default = .ok expanded.arguments := by
    let r : Request :=
      ⟨some "/items{?q}", none, some [("q", .text "a b")], call.arguments.transport⟩
    have hrequest : call.arguments.request = .ok r := rfl
    have hsource : r.source? default = some (.url "/items{?q}") := rfl
    rw [Arguments.intercept_of_request_eq_ok hrequest, Request.resolve_eq_ok hsource hurl]
    rfl
  have hbuild : c.buildAfter call (some (none, true)) =
      ([⟨.debug, .transformer, "Expanding url as template /items{?q}"⟩], c.construct expanded) := by
    show (_, Arguments.handOver _ _ (call.arguments.intercept default)) = _
    rw [hpassed, Arguments.handOver]
    exact congrArg₂ Prod.mk rfl (congrArg c.construct rfl)
  obtain ⟨⟨hexchanges, _⟩, hgained, hrequests⟩ :=
    run_attaches_once hplain (first ++ [second, .request call 200])
  refine ⟨c, hc, ?_, hexchanges, ?_, ?_⟩
  · rw [hgained, hhooks]
    rfl
  · exact (hrequests [] call 200 _ rfl).2.1
  · exact (hrequests (first ++ [second]) call 200 [] rfl).2.1.trans hbuild

end Client
end RouteTemplate
