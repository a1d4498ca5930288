/-
One resolution of a request.

What a request is resolved from is decided before any template is read: by its own
template, or else by its URL if the policy says so.  Given that, a resolution either
fails in the template or returns a request that says what it was made from.
-/
import RouteTemplate.Proofs.Outcome
import RouteTemplate.Request.Resolution

namespace RouteTemplate
namespace Request

variable {r r' : Request}

/-! ## What a request is resolved from -/

theorem source?_of_template {t : String} (h : r.template = some t) (policy : Policy) :
    r.source? policy = some (.ownTemplate t) := by
  rw [source?, h]

theorem source?_of_url {u : String} (htemplate : r.template = none) (hurl : r.url = some u)
    {policy : Policy} (hpolicy : policy.urlIsTemplate = true) :
    r.source? policy = some (.url u) := by
  rw [source?, htemplate, hurl]
  exact if_pos hpolicy

theorem source?_or (a b : Bool) :
    r.source? ⟨a || b⟩ = (r.source? ⟨a⟩).or (r.source? ⟨b⟩) := by
  unfold source?
  cases r.template with
  | some t => rfl
  | none =>
    cases r.url with
    | none => rfl
    | some u =>
      cases a with
      | true => rfl
      | false => rfl

theorem route_of_source? {policy : Policy} {source : Source}
    (h : r.source? policy = some source) : r.route = some source.template := by
  unfold source? at h
  unfold route
  cases htemplate : r.template with
  | some t =>
    rw [htemplate] at h
    cases h
    rfl
  | none =>
    rw [htemplate] at h
    cases hurl : r.url with
    | none =>
      rw [hurl] at h
      cases h
    | some u =>
      rw [hurl] at h
      obtain ⟨_, hu⟩ := Option.ite_none_right_eq_some.1 h
      cases hu
      rfl

theorem template_of_source?_eq_none {policy : Policy} (h : r.source? policy = none) :
    r.template = none := by
  cases htemplate : r.template with
  | none => rfl
  | some t =>
    rw [source?_of_template htemplate] at h
    cases h

theorem source?_eq_none {policy : Policy} (htemplate : r.template = none)
    (hurl : r.url = none ∨ policy.urlIsTemplate = false) : r.source? policy = none := by
  rw [source?, htemplate]
  cases hu : r.url with
  | none => rfl
  | some u =>
    rcases hurl with hnone | hoff
    · rw [hu] at hnone
      cases hnone
    · show (if policy.urlIsTemplate then _ else _) = _
      rw [hoff]
      rfl

/-! ## One step -/

theorem resolve_of_source?_eq_none {policy : Policy} (h : r.source? policy = none) :
    r.resolve policy = .ok r := by
  rw [resolve, h]

theorem resolve_eq_ok {policy : Policy} {source : Source} {u : String}
    (hsource : r.source? policy = some source)
    (hu : Template.url source.template (r.params.getD []) = .ok u) :
    r.resolve policy = .ok { r with
      url := some u, template := some source.template, params := some (r.params.getD []) } := by
  rw [resolve, hsource]
  exact Outcome.bind_eq_ok.2 ⟨u, hu, rfl⟩

/-- A resolution that applies a template fails as the template does. -/
theorem resolve_eq_error_iff {policy : Policy} {source : Source}
    (hsource : r.source? policy = some source) {f : Template.Failure} :
    r.resolve policy = .error f ↔ Template.url source.template (r.params.getD []) = .error f := by
  rw [resolve, hsource]
  show (Template.url source.template (r.params.getD []) >>= _) = _ ↔ _
  cases Template.url source.template (r.params.getD []) with
  | error e =>
    constructor
    · rintro ⟨⟩
      rfl
    · rintro ⟨⟩
      rfl
  | ok u =>
    constructor
    · rintro ⟨⟩
    · rintro ⟨⟩

theorem resolve_congr {p q : Policy} (h : r.source? p = r.source? q) :
    r.resolve p = r.resolve q := by
  rw [resolve, resolve, h]

/-- A result that says what it was made from. -/
structure ResolvedFrom (r r' : Request) (t : String) : Prop where
  template : r'.template = some t
  params : r'.params = some (r.params.getD [])
  url : ∃ u, r'.url = some u ∧ Template.url t (r.params.getD []) = .ok u
  transport : r'.transport = r.transport

theorem resolvedFrom_of_resolve {policy : Policy} {source : Source}
    (hsource : r.source? policy = some source) (h : r.resolve policy = .ok r') :
    ResolvedFrom r r' source.template := by
  rw [resolve, hsource] at h
  obtain ⟨u, hu, h⟩ := Outcome.bind_eq_ok.1 h
  cases h
  exact ⟨rfl, rfl, ⟨u, rfl, hu⟩, rfl⟩

/-- A result resolves to itself, whatever the options. -/
theorem ResolvedFrom.resolve_eq_self {t : String} (h : ResolvedFrom r r' t) (policy : Policy) :
    r'.resolve policy = .ok r' := by
  obtain ⟨u, hurl, hu⟩ := h.url
  have htemplate := h.template
  have hparams := h.params
  cases r' with
  | mk url template params transport =>
    cases hurl
    cases htemplate
    cases hparams
    exact resolve_eq_ok (source?_of_template rfl policy) hu

end Request
end RouteTemplate
