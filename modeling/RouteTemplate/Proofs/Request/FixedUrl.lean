/-
A URL that a template has made is a template that makes itself.

The URL is encoded text.  Encoded text has no brace, so read as a template it is
one literal, and encoding it again changes nothing.  Neither step asks for the
parameters, and so it makes no difference which ones come along.
-/
import RouteTemplate.Proofs.Request.Step
import RouteTemplate.Proofs.Schema.Mapping
import RouteTemplate.Proofs.Template.Output
import RouteTemplate.Proofs.Template.Url

namespace RouteTemplate

/-- Whether a value is a mapping with an entry under a name. -/
def Value.HasKey (name : String) (v : Value) : Prop :=
  ∃ es, v = .map es ∧ ∃ e ∈ es, Schema.text? e.1 = some name

namespace Request

/-- A request as it is given: a URL and parameters, and nothing else. -/
def withParams (url : String) (params : Value) : Value :=
  .map [(.text "url", .text url), (.text "url_template_params", params)]

/-- A request that was given so has the URL, no template of its own, and
parameters under the names that were given. -/
theorem ofValue_withParams {u : String} {q : Value} {r : Request}
    (h : ofValue (withParams u q) = .ok r) :
    r.url = some u ∧ r.template = none ∧
      ∀ e ∈ r.params.getD [], q.HasKey e.1 := by
  obtain ⟨⟨url, template, params, transport⟩, hall, rfl⟩ := Outcome.map_eq_ok.1 h
  obtain ⟨hurl, hrest⟩ := Schema.both_eq_ok.1 hall
  obtain ⟨htemplate, hrest⟩ := Schema.both_eq_ok.1 hrest
  obtain ⟨hparams, _⟩ := Schema.both_eq_ok.1 hrest
  cases hurl
  cases htemplate
  refine ⟨rfl, rfl, ?_⟩
  change Schema.nullable (Schema.mapping Schema.parameter?) "url_template_params" q = .ok params
    at hparams
  cases q with
  | null =>
    cases hparams
    exact fun e he => absurd he List.not_mem_nil
  | map es =>
    obtain ⟨ps, hps, rfl⟩ := Outcome.map_eq_ok.1 hparams
    intro e he
    obtain ⟨d, hd, hkey, _⟩ := Schema.mem_mapping hps he
    exact ⟨es, rfl, d, hd, hkey⟩
  | _ => cases hparams

theorem resolve_of_url {r : Request} {u u' : String} (hurl : r.url = some u)
    (htemplate : r.template = none) (h : Template.url u (r.params.getD []) = .ok u') :
    r.resolve default =
      .ok { r with url := some u', template := some u, params := some (r.params.getD []) } := by
  have hsource : r.source? default = some (.url u) := by
    rw [source?, hurl, htemplate]
    rfl
  exact resolve_eq_ok hsource h

end Request

namespace Template

theorem url_of_encoded {u : String} (h : Percent.Encoded u.toList) {q : Params}
    (hq : q.Admissible) : url u q = .ok u := by
  have ho : '{' ∉ u.toList := h.not_mem (by decide) (by decide)
  have hc : '}' ∉ u.toList := h.not_mem (by decide) (by decide)
  have hurl := url_of_braceFree ho hc hq
  rw [Charset.reserved_encode_eq_self h, String.ofList_toList] at hurl
  exact hurl

theorem parse_of_encoded {u : String} (h : Percent.Encoded u.toList) :
    ∃ t, parse u = .ok t ∧ t.expressions = [] := by
  have ho : '{' ∉ u.toList := h.not_mem (by decide) (by decide)
  have hc : '}' ∉ u.toList := h.not_mem (by decide) (by decide)
  have hparse := parse_of_braceFree ho hc
  rw [String.ofList_toList] at hparse
  refine ⟨_, hparse, ?_⟩
  show List.filterMap Part.expression? (if u.toList = [] then [] else [.literal u.toList]) = []
  split <;> rfl

/-- What a template comes to is encoded, and resolving it again, with whatever
parameters, leaves it as it is. -/
theorem expansion_is_fixed {source : String} {p : Params} {u : String}
    (h : url source p = .ok u) :
    Percent.Encoded u.toList ∧
      (∃ t, parse u = .ok t ∧ t.expressions = []) ∧
      (∀ q : Params, q.Admissible → url u q = .ok u) ∧
      ∀ (q : Value) (r : Request), Request.ofValue (Request.withParams u q) = .ok r →
        ¬ q.HasKey "self" → ∃ r', r.resolve default = .ok r' ∧ r'.url = some u := by
  obtain ⟨t, ht, hexpand⟩ := url_eq_ok h
  have hencoded : Percent.Encoded u.toList := encoded_expand ht hexpand
  refine ⟨hencoded, parse_of_encoded hencoded, fun q hq => url_of_encoded hencoded hq, ?_⟩
  intro q r hr hself
  obtain ⟨hurl, htemplate, hkeys⟩ := Request.ofValue_withParams hr
  have hadmissible : (r.params.getD []).Admissible := fun e he heq => hself (heq ▸ hkeys e he)
  exact ⟨_, Request.resolve_of_url hurl htemplate (url_of_encoded hencoded hadmissible), rfl⟩

/-- A stray `%`, a delimiter in a value, and a key with a brace two levels down. -/
theorem expansion_is_fixed_nested :
    let source := "/x%4{?q,r*}"
    let p : Params := [("q", .text "a/é"), ("r", .list [.int 1, .map [(.text "k\x7b", .bool true)]])]
    let u := "/x%254?q=a%2F%C3%A9&r=1&r.k%7B=true"
    url source p = .ok u ∧
      Percent.Encoded u.toList ∧
      (∃ t, parse u = .ok t ∧ t.expressions = []) ∧
      (∀ q : Params, q.Admissible → url u q = .ok u) ∧
      ∀ (q : Value) (r : Request), Request.ofValue (Request.withParams u q) = .ok r →
        ¬ q.HasKey "self" → ∃ r', r.resolve default = .ok r' ∧ r'.url = some u := by
  intro source p u
  have h : url source p = .ok u := Outcome.eq_ok_of_toOption (by decide +kernel)
  exact ⟨h, expansion_is_fixed h⟩

end Template
end RouteTemplate
