/-
What an interceptor makes of what it is asked for.

The arguments are read as a request, and the request is resolved.  If either fails, nothing is
built.  Otherwise one set of arguments is passed on, with the URL that was decided and with a
record of what it was made from.  The record is in the form in which it is read, so arguments
that carry it later are read as what was recorded, find their template there, and come to the
same URL and the same record.
-/
import RouteTemplate.Http.Client
import RouteTemplate.Proofs.Request.Step
import RouteTemplate.Proofs.Schema.Parameter

namespace RouteTemplate

/-! ## Extensions -/

namespace Extensions

variable {name other : String} {key : Value}

theorem isKey_eq_true_iff : Schema.isKey name key = true ↔ key = .text name := by
  cases key with
  | text s => exact beq_iff_eq.trans ⟨congrArg _, Value.text.inj⟩
  | _ => exact ⟨fun h => (Bool.false_ne_true h).elim, fun h => by cases h⟩

theorem get_cons_self (name : String) (v : Value) (es : List (Value × Value)) :
    get ((.text name, v) :: es) name = v := by
  have hfind : ((.text name, v) :: es).find? (fun e => Schema.isKey name e.1) =
      some (.text name, v) := List.find?_cons_of_pos (isKey_eq_true_iff.2 rfl)
  rw [get, hfind]
  rfl

theorem get_cons_of_ne (h : key ≠ .text name) (v : Value) (es : List (Value × Value)) :
    get ((key, v) :: es) name = get es name := by
  have hfind : ((key, v) :: es).find? (fun e => Schema.isKey name e.1) =
      es.find? fun e => Schema.isKey name e.1 :=
    List.find?_cons_of_neg fun hkey => h (isKey_eq_true_iff.1 hkey)
  rw [get, hfind, get]

theorem set_cons_self (name : String) (v w : Value) (es : List (Value × Value)) :
    set name w ((.text name, v) :: es) = (.text name, w) :: es := by
  rw [set, if_pos (isKey_eq_true_iff.2 rfl)]

theorem set_cons_of_ne (h : key ≠ .text name) (v w : Value) (es : List (Value × Value)) :
    set name w ((key, v) :: es) = (key, v) :: set name w es := by
  rw [set, if_neg fun hkey => h (isKey_eq_true_iff.1 hkey)]

theorem get_set_self (name : String) (v : Value) (es : List (Value × Value)) :
    get (set name v es) name = v := by
  induction es with
  | nil => exact get_cons_self name v []
  | cons e es ih =>
    obtain ⟨key, w⟩ := e
    by_cases h : key = .text name
    · subst h
      rw [set_cons_self, get_cons_self]
    · rw [set_cons_of_ne h, get_cons_of_ne h, ih]

theorem get_set_of_ne (h : other ≠ name) (v : Value) (es : List (Value × Value)) :
    get (set name v es) other = get es other := by
  have hne : Value.text name ≠ .text other := fun heq => h (Value.text.inj heq).symm
  induction es with
  | nil => exact get_cons_of_ne hne v []
  | cons e es ih =>
    obtain ⟨key, w⟩ := e
    by_cases hname : key = .text name
    · subst hname
      rw [set_cons_self, get_cons_of_ne hne, get_cons_of_ne hne]
    · rw [set_cons_of_ne hname]
      by_cases hother : key = .text other
      · subst hother
        rw [get_cons_self, get_cons_self]
      · rw [get_cons_of_ne hother, get_cons_of_ne hother, ih]

/-- Whether an extension is one of the two that templates travel as. -/
def isOurs (key : Value) : Bool := Schema.isKey template key || Schema.isKey params key

def others (es : List (Value × Value)) : List (Value × Value) := es.filter fun e => !isOurs e.1

theorem others_set (h : isOurs (.text name) = true) (v : Value) (es : List (Value × Value)) :
    others (set name v es) = others es := by
  have hskip (w : Value) (fs : List (Value × Value)) :
      others ((.text name, w) :: fs) = others fs :=
    List.filter_cons_of_neg (by rw [h]; exact Bool.false_ne_true)
  induction es with
  | nil => exact hskip v []
  | cons e es ih =>
    obtain ⟨key, w⟩ := e
    by_cases hkey : key = .text name
    · subst hkey
      rw [set_cons_self, hskip, hskip]
    · rw [set_cons_of_ne hkey, others, others, List.filter_cons, List.filter_cons, ← others,
        ← others, ih]

end Extensions

/-! ## Arguments as requests -/

namespace Arguments

/-- Whether an interceptor finds a template: one among the extensions, or else the URL, if it
is a text and the policy takes it for a template. -/
def HasTemplate (policy : Policy) (a : Arguments) : Prop :=
  Extensions.get a.notes Extensions.template ≠ .null ∨
    (policy.urlIsTemplate = true ∧ ∃ s, a.destination = .text s)

/-- The names of the transport are given once each. -/
def Named (a : Arguments) : Prop := (a.transport.map Prod.fst).Nodup

theorem named_arguments (call : Call) : call.arguments.Named := by
  have hquery : (["method", "headers", "params"] : List String).Nodup := by decide
  cases hq : call.query with
  | none =>
    rw [Named, Call.arguments, hq]
    exact hquery.sublist (List.sublist_append_left ["method", "headers"] ["params"])
  | some entries =>
    rw [Named, Call.arguments, hq]
    exact hquery

/-- Arguments with a template and the parameters for it among their extensions. -/
structure Carries (a : Arguments) (t : String) (ps : Params) : Prop where
  template : Extensions.get a.notes Extensions.template = .text t
  params : Extensions.get a.notes Extensions.params = Value.ofEntries ps

variable {a : Arguments} {r : Request} {policy : Policy}

structure ReadAs (a : Arguments) (r : Request) : Prop where
  url : r.url = a.destination.text?
  template : Schema.nullable (Schema.scalar Schema.text?) "url_template"
    (Extensions.get a.notes Extensions.template) = .ok r.template
  params : Schema.nullable (Schema.mapping Schema.parameter?) "url_template_params"
    (Extensions.get a.notes Extensions.params) = .ok r.params
  transport : Schema.mapping some "transport" (Value.ofEntries a.transport) = .ok r.transport

theorem request_eq_ok_iff : a.request = .ok r ↔ a.ReadAs r := by
  have hrequest : a.request = (Schema.both
      (Schema.nullable (Schema.scalar Schema.text?) "url" (Value.ofText? a.destination.text?))
      (Schema.both
        (Schema.nullable (Schema.scalar Schema.text?) "url_template"
          (Extensions.get a.notes Extensions.template))
        (Schema.both
          (Schema.nullable (Schema.mapping Schema.parameter?) "url_template_params"
            (Extensions.get a.notes Extensions.params))
          (Schema.mapping some "transport" (Value.ofEntries a.transport))))).map
      fun fields => ⟨fields.1, fields.2.1, fields.2.2.1, fields.2.2.2⟩ := rfl
  rw [hrequest, Outcome.map_eq_ok, Schema.nullable_ofText?]
  constructor
  · rintro ⟨⟨url, template, params, transport⟩, h, rfl⟩
    obtain ⟨hurl, h⟩ := Schema.both_eq_ok.1 h
    obtain ⟨htemplate, h⟩ := Schema.both_eq_ok.1 h
    obtain ⟨hparams, htransport⟩ := Schema.both_eq_ok.1 h
    exact ⟨(Except.ok.inj hurl).symm, htemplate, hparams, htransport⟩
  · intro h
    refine ⟨(r.url, r.template, r.params, r.transport), ?_, rfl⟩
    exact Schema.both_eq_ok.2 ⟨congrArg _ h.url.symm, Schema.both_eq_ok.2
      ⟨h.template, Schema.both_eq_ok.2 ⟨h.params, h.transport⟩⟩⟩

theorem Named.mapping_transport (h : a.Named) :
    Schema.mapping some "transport" (Value.ofEntries a.transport) = .ok a.transport :=
  Schema.mapping_ofEntries h (fun _ _ => rfl) "transport"

namespace ReadAs

theorem transport_eq (h : a.ReadAs r) (ha : a.Named) : r.transport = a.transport :=
  Except.ok.inj (h.transport.symm.trans ha.mapping_transport)

theorem template_eq_none_iff (h : a.ReadAs r) :
    r.template = none ↔ Extensions.get a.notes Extensions.template = .null := by
  have htemplate := h.template
  constructor
  · intro hnone
    rw [hnone] at htemplate
    exact Schema.nullable_eq_none.1 htemplate
  · intro hnull
    rw [Schema.nullable_eq_none.2 hnull] at htemplate
    exact (Except.ok.inj htemplate).symm

theorem source?_eq_none_iff (h : a.ReadAs r) :
    r.source? policy = none ↔ ¬ a.HasTemplate policy := by
  rw [HasTemplate, not_or, not_not, ← h.template_eq_none_iff]
  constructor
  · intro hsource
    refine ⟨Request.template_of_source?_eq_none hsource, ?_⟩
    rintro ⟨hpolicy, s, hs⟩
    have hurl : r.url = some s := by
      rw [h.url, hs]
      rfl
    have htemplate := Request.template_of_source?_eq_none hsource
    rw [Request.source?_of_url htemplate hurl hpolicy] at hsource
    cases hsource
  · rintro ⟨htemplate, hurl⟩
    refine Request.source?_eq_none htemplate ?_
    rw [h.url]
    cases hd : a.destination with
    | text s => exact Or.inr (Bool.eq_false_iff.2 fun hpolicy => hurl ⟨hpolicy, s, hd⟩)
    | url u => exact Or.inl rfl

end ReadAs

/-! ## One interceptor -/

/-- Why an interceptor refuses arguments: they are no request, or the template gives no URL. -/
inductive RefusedFor (policy : Policy) (a : Arguments) : Call.Refusal → Prop where
  | invalid {faults : List Schema.Location} (h : a.request = .error faults) :
      RefusedFor policy a (.invalid faults)
  | failed {r : Request} {source : Request.Source} {f : Template.Failure}
      (h : a.request = .ok r) (hsource : r.source? policy = some source)
      (hf : Template.url source.template (r.params.getD []) = .error f) :
      RefusedFor policy a (.failed f)

/-- Arguments whose URL was made from what they carry. -/
structure MadeFrom (a : Arguments) (t : String) (ps : Params) (u : String) : Prop
    extends Carries a t ps where
  destination : a.destination = .text u
  url : Template.url t ps = .ok u

/-- What is passed on differs from what was given in nothing but the URL, the template and the
parameters. -/
structure Keeps (a passed : Arguments) : Prop where
  transport : passed.transport = a.transport
  others : Extensions.others passed.notes = Extensions.others a.notes

theorem intercept_of_request_eq_error {faults : List Schema.Location}
    (h : a.request = .error faults) : a.intercept policy = .error (.invalid faults) := by
  rw [intercept, h]
  rfl

theorem intercept_of_request_eq_ok (h : a.request = .ok r) :
    a.intercept policy = ((r.resolve policy).mapError .failed).map a.record := by
  rw [intercept, h]
  rfl

theorem record_of_template {t u : String} (htemplate : r.template = some t)
    (hurl : r.url = some u) :
    a.record r =
      { destination := .text u
        extensions := some (Extensions.set Extensions.params (Value.ofEntries? r.params)
          (Extensions.set Extensions.template (.text t) a.notes))
        transport := r.transport } := by
  rw [record, htemplate, hurl]

theorem record_of_template_eq_none (h : r.template = none) :
    a.record r = { a with extensions := some a.notes, transport := r.transport } := by
  rw [record, h]

/-- Where a template applies and gives a URL, the arguments are passed on with both. -/
theorem ReadAs.exists_intercept (h : a.ReadAs r) (ha : a.Named) {source : Request.Source}
    (hsource : r.source? policy = some source) {u : String}
    (hu : Template.url source.template (r.params.getD []) = .ok u) :
    ∃ passed, a.intercept policy = .ok passed ∧ a.Keeps passed ∧
      passed.MadeFrom source.template (r.params.getD []) u := by
  rw [intercept_of_request_eq_ok (request_eq_ok_iff.2 h), Request.resolve_eq_ok hsource hu]
  refine ⟨_, rfl, ?_, ?_⟩
  · rw [record_of_template rfl rfl]
    refine ⟨h.transport_eq ha, ?_⟩
    show Extensions.others (Extensions.set Extensions.params _ _) = _
    rw [Extensions.others_set rfl, Extensions.others_set rfl]
  · -- The parameters are set last, and setting them leaves the template.
    rw [record_of_template rfl rfl]
    refine ⟨⟨?_, Extensions.get_set_self _ _ _⟩, rfl, hu⟩
    show Extensions.get (Extensions.set Extensions.params _ _) Extensions.template = _
    rw [Extensions.get_set_of_ne (by decide), Extensions.get_set_self]

/-- Where no template applies the arguments are passed on as they are. -/
theorem ReadAs.intercept_eq_self (h : a.ReadAs r) (ha : a.Named)
    (hsource : r.source? policy = none) :
    a.intercept policy = .ok { a with extensions := some a.notes } := by
  rw [intercept_of_request_eq_ok (request_eq_ok_iff.2 h),
    Request.resolve_of_source?_eq_none hsource]
  show Except.ok (a.record r) = _
  rw [record_of_template_eq_none (Request.template_of_source?_eq_none hsource), h.transport_eq ha]

theorem Carries.readAs {t : String} {ps : Params} (h : a.Carries t ps) (ha : a.Named)
    (hps : Schema.mapping Schema.parameter? "url_template_params" (Value.ofEntries ps) = .ok ps) :
    a.ReadAs ⟨a.destination.text?, some t, some ps, a.transport⟩ where
  url := rfl
  template := by
    rw [h.template]
    rfl
  params := by
    rw [h.params]
    exact congrArg (Except.map some) hps
  transport := ha.mapping_transport

/-- Arguments that carry what a URL was made from come to that URL, whatever else they say. -/
theorem Carries.exists_intercept {t u : String} {ps : Params} (h : a.Carries t ps) (ha : a.Named)
    (hps : Schema.mapping Schema.parameter? "url_template_params" (Value.ofEntries ps) = .ok ps)
    (hu : Template.url t ps = .ok u) (policy : Policy) :
    ∃ passed, a.intercept policy = .ok passed ∧ a.Keeps passed ∧ passed.MadeFrom t ps u :=
  (h.readAs ha hps).exists_intercept ha (Request.source?_of_template rfl policy) hu

end Arguments

/-! ## Clients with one interceptor -/

namespace Client

open Arguments

/-- Whatever a client built with before, that is done once with what is passed on. -/
def Builds (c : Client) (a : Arguments) (log : List LogRecord) (passed : Arguments) : Prop :=
  ∀ ⦃β : Type⦄ (original : Arguments → β) (refuse : Call.Refusal → β),
    c.buildWith original refuse a = (log, original passed)

/-- Whatever a client built with before, that is not done. -/
def Refuses (c : Client) (a : Arguments) (log : List LogRecord) (refusal : Call.Refusal) : Prop :=
  ∀ ⦃β : Type⦄ (original : Arguments → β) (refuse : Call.Refusal → β),
    c.buildWith original refuse a = (log, refuse refusal)

variable {c : Client} {policy : Policy} {a : Arguments}

theorem interceptAll_singleton (policy : Policy) (a : Arguments) :
    interceptAll [policy] a = (a.notices policy, a.intercept policy) := by
  rw [interceptAll]
  cases a.intercept policy with
  | error refusal => rfl
  | ok passed =>
    show (a.notices policy ++ [], _) = _
    rw [List.append_nil]

theorem buildWith_of_interceptors (h : c.interceptors = [policy]) {β : Type}
    (original : Arguments → β) (refuse : Call.Refusal → β) (a : Arguments) :
    c.buildWith original refuse a =
      (a.notices policy, handOver original refuse (a.intercept policy)) := by
  rw [buildWith, h, interceptAll_singleton]

theorem builds_of_intercept (h : c.interceptors = [policy]) {passed : Arguments}
    (hpassed : a.intercept policy = .ok passed) : c.Builds a (a.notices policy) passed := by
  intro β original refuse
  rw [buildWith_of_interceptors h, hpassed]
  rfl

theorem refuses_of_intercept (h : c.interceptors = [policy]) {refusal : Call.Refusal}
    (hrefused : a.intercept policy = .error refusal) : c.Refuses a (a.notices policy) refusal := by
  intro β original refuse
  rw [buildWith_of_interceptors h, hrefused]
  rfl

/-- A request that is refused is not sent, and changes nothing. -/
theorem Refuses.request {call : Call} {log : List LogRecord} {refusal : Call.Refusal}
    (h : c.Refuses call.arguments log refusal) (status : Int) :
    c.request call status = ⟨c, log, .error (.refused refusal)⟩ := by
  rw [Client.request, build, h]

/-- A client with one interceptor, as attaching makes it, refuses what it is asked for, and then
nothing is built or sent and the client stays what it is; or it builds once, from what the
interceptor passes on.  That differs from what was asked for in nothing but the URL, the
template and the parameters.  Where a template applies, the URL is what the template and the
parameters come to that are recorded with it, and whatever carries the two later, past an
interceptor of whatever policy, comes to the same URL and the same record.  Where none
applies there is no difference at all. -/
theorem interceptor_records (hc : c.interceptors = [policy]) (ha : a.Named) :
    (∃ refusal, a.RefusedFor policy refusal ∧ c.Refuses a (a.notices policy) refusal ∧
      ∀ call status, call.arguments = a →
        c.request call status = ⟨c, a.notices policy, .error (.refused refusal)⟩) ∨
    ∃ passed, c.Builds a (a.notices policy) passed ∧ a.Keeps passed ∧
      (a.HasTemplate policy → ∃ r t u, a.request = .ok r ∧ r.route = some t ∧
        passed.MadeFrom t (r.params.getD []) u ∧
        ∀ (d : Client) (policy' : Policy) (b : Arguments), d.interceptors = [policy'] → b.Named →
          b.Carries t (r.params.getD []) → ∃ again, d.Builds b (b.notices policy') again ∧
            b.Keeps again ∧ again.MadeFrom t (r.params.getD []) u) ∧
      (¬ a.HasTemplate policy → passed = { a with extensions := some a.notes }) := by
  have hrefused {refusal : Call.Refusal} (h : a.intercept policy = .error refusal) :
      c.Refuses a (a.notices policy) refusal ∧ ∀ call status, call.arguments = a →
        c.request call status = ⟨c, a.notices policy, .error (.refused refusal)⟩ := by
    refine ⟨refuses_of_intercept hc h, ?_⟩
    rintro call status rfl
    exact Refuses.request (refuses_of_intercept hc h) status
  cases hrequest : a.request with
  | error faults =>
    exact Or.inl ⟨_, .invalid hrequest, hrefused (intercept_of_request_eq_error hrequest)⟩
  | ok r =>
    have hread : a.ReadAs r := request_eq_ok_iff.1 hrequest
    cases hsource : r.source? policy with
    | none =>
      have hnone : ¬ a.HasTemplate policy := hread.source?_eq_none_iff.1 hsource
      have hpassed := hread.intercept_eq_self ha hsource
      exact Or.inr ⟨_, builds_of_intercept hc hpassed, ⟨rfl, rfl⟩, fun h => absurd h hnone,
        fun _ => rfl⟩
    | some source =>
      have hsome : a.HasTemplate policy := by
        by_contra hnone
        rw [hread.source?_eq_none_iff.2 hnone] at hsource
        cases hsource
      cases hurl : Template.url source.template (r.params.getD []) with
      | error f =>
        have hresolve := (Request.resolve_eq_error_iff hsource).2 hurl
        refine Or.inl ⟨_, .failed hrequest hsource hurl, hrefused ?_⟩
        rw [intercept_of_request_eq_ok hrequest, hresolve]
        rfl
      | ok u =>
        obtain ⟨passed, hpassed, hkeeps, hmade⟩ := hread.exists_intercept ha hsource hurl
        refine Or.inr ⟨passed, builds_of_intercept hc hpassed, hkeeps, fun _ => ?_,
          fun h => absurd hsome h⟩
        refine ⟨r, _, u, rfl, Request.route_of_source? hsource, hmade, ?_⟩
        -- The parameters were read, so they are in the form in which they are read again.
        intro d policy' b hd hb hcarries
        have hps := Schema.mapping_getD_of_nullable hread.params "url_template_params"
        obtain ⟨again, hagain, hkeeps', hmade'⟩ :=
          hcarries.exists_intercept hb hps hurl policy'
        exact ⟨again, builds_of_intercept hd hagain, hkeeps', hmade'⟩

/-- Parameters that come as bytes, with a URL that could not be read as a template, and a later
call that carries what was recorded. -/
theorem interceptor_records_bytes :
    let base : Url := ⟨"https".toList, [], "x.test".toList, none, ['/'], none, none⟩
    let policy : Policy := ⟨true⟩
    let c := (⟨false, base, standardTimeout, false, [], [], 0⟩ : Client).attach policy false
    let t := "/items{?q}"
    let ps : Params := [("q", .text "a b")]
    let first : Call := ⟨"POST", .text "/\x7bx", none, [],
      [(.text "url_template_params", .map [(.text "q", .bytes [97, 32, 98])]),
        (.text "trace", .int 7), (.text "url_template", .text t)]⟩
    let later : Call := ⟨"GET", .url base, some [], [],
      [(.text "url_template", .text t), (.text "url_template_params", Value.ofEntries ps)]⟩
    (∃ log passed, c.Builds first.arguments log passed ∧
      passed.MadeFrom t ps "/items?q=a%20b" ∧
      Extensions.others passed.notes = [(.text "trace", .int 7)]) ∧
      ∃ log again, c.Builds later.arguments log again ∧ again.MadeFrom t ps "/items?q=a%20b" := by
  intro base policy c t ps first later
  have hurl : Template.url t ps = .ok "/items?q=a%20b" :=
    Outcome.eq_ok_of_toOption (by decide +kernel)
  have hc : c.interceptors = [policy] := rfl
  have hread : first.arguments.request =
    .ok ⟨some "/\x7bx", some t, some ps, first.arguments.transport⟩ := rfl
  have htemplate : first.arguments.HasTemplate policy := by
    refine Or.inl ?_
    show Value.text t ≠ .null
    intro h
    cases h
  rcases interceptor_records hc (named_arguments first) with
    ⟨refusal, hrefused, _⟩ | ⟨passed, hbuilds, hkeeps, happlied, _⟩
  · cases hrefused with
    | invalid h =>
      rw [hread] at h
      cases h
    | failed h hsource hf =>
      obtain rfl := Except.ok.inj (hread.symm.trans h)
      cases hsource
      cases hurl.symm.trans hf
  · obtain ⟨r, t', u, hr, ht', hmade, hlater⟩ := happlied htemplate
    obtain rfl := Except.ok.inj (hread.symm.trans hr)
    cases ht'
    obtain rfl : "/items?q=a%20b" = u := Except.ok.inj (hurl.symm.trans hmade.url)
    obtain ⟨again, hagain, _, hmade'⟩ :=
      hlater c policy later.arguments hc (named_arguments later) ⟨rfl, rfl⟩
    exact ⟨⟨_, passed, hbuilds, hmade, hkeeps.others⟩, _, again, hagain, hmade'⟩

end Client
end RouteTemplate
