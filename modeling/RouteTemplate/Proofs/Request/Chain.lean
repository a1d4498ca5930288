/-
Interceptors in a row.

A request that a template was applied to carries that template and the parameters
used, so whatever interceptor sees it next comes to the URL it has already.  Until
then a request passes unchanged.  A chain is therefore decided by whether any of its
interceptors takes a URL for a template, and not by how many there are or in which
order they stand.
-/
import RouteTemplate.Proofs.Request.Step

namespace RouteTemplate

/-- The options of a whole chain: a URL is a template if it is one to any interceptor. -/
def Policy.ofChain (options : List (Option Policy)) : Policy :=
  ⟨options.any fun o => (o.getD default).urlIsTemplate⟩

namespace Request

/-- A request passed on from one interceptor to the next, as far as none fails. -/
def chain (options : List (Option Policy)) (r : Request) : Except Template.Failure Request :=
  options.foldlM (fun r o => r.interceptor o) r

variable {r r' : Request}

/-! ## The options of a chain -/

theorem source?_ofChain_cons (o : Option Policy) (os : List (Option Policy)) :
    r.source? (Policy.ofChain (o :: os)) =
      (r.source? (o.getD default)).or (r.source? (Policy.ofChain os)) :=
  source?_or (o.getD default).urlIsTemplate (Policy.ofChain os).urlIsTemplate

/-! ## Running a chain -/

theorem chain_cons (o : Option Policy) (os : List (Option Policy)) (r : Request) :
    chain (o :: os) r = r.interceptor o >>= chain os :=
  List.foldlM_cons

theorem chain_eq_self {os : List (Option Policy)} (h : ∀ o ∈ os, r.interceptor o = .ok r) :
    chain os r = .ok r := by
  induction os with
  | nil => rfl
  | cons o os ih =>
    rw [chain_cons, h o List.mem_cons_self]
    exact ih fun o' ho' => h o' (List.mem_cons_of_mem o ho')

theorem ofChain_singleton (o : Option Policy) : Policy.ofChain [o] = o.getD default := by
  rw [Policy.ofChain, List.any_cons, List.any_nil, Bool.or_false]

/-- The first interceptor to apply a template settles the request, and those
before it do nothing.  The induction is on the interceptors still to come. -/
theorem chain_eq_resolve (o : Option Policy) (os : List (Option Policy)) (r : Request) :
    chain (o :: os) r = r.resolve (Policy.ofChain (o :: os)) := by
  induction os generalizing o with
  | nil =>
    rw [chain_cons, ofChain_singleton, interceptor]
    cases r.resolve (o.getD default) with
    | error e => rfl
    | ok r' => rfl
  | cons o' os ih =>
    rw [chain_cons, interceptor]
    cases hsource : r.source? (o.getD default) with
    | none =>
      have hrest : r.source? (Policy.ofChain (o :: o' :: os)) =
          r.source? (Policy.ofChain (o' :: os)) := by
        rw [source?_ofChain_cons o, hsource, Option.none_or]
      rw [resolve_of_source?_eq_none hsource, resolve_congr hrest]
      exact ih o'
    | some source =>
      have hfirst : r.source? (Policy.ofChain (o :: o' :: os)) = r.source? (o.getD default) := by
        rw [source?_ofChain_cons o, hsource, Option.some_or]
      rw [resolve_congr hfirst]
      cases hresolve : r.resolve (o.getD default) with
      | error e => rfl
      | ok r' =>
        have hfrom := resolvedFrom_of_resolve hsource hresolve
        exact chain_eq_self fun o'' _ => hfrom.resolve_eq_self (o''.getD default)

theorem source?_of_ofChain_eq_none {options : List (Option Policy)}
    (h : r.source? (Policy.ofChain options) = none) :
    ∀ o ∈ options, r.source? (o.getD default) = none := by
  induction options with
  | nil => exact fun o ho => absurd ho List.not_mem_nil
  | cons o os ih =>
    rw [source?_ofChain_cons, Option.or_eq_none_iff] at h
    intro o' ho'
    rcases List.mem_cons.1 ho' with rfl | hmem
    · exact h.1
    · exact ih h.2 o' hmem

/-- A chain none of whose interceptors finds a template returns what it was given. -/
theorem chain_of_source?_eq_none {options : List (Option Policy)}
    (h : ∀ o ∈ options, r.source? (o.getD default) = none) : chain options r = .ok r :=
  chain_eq_self fun o ho => resolve_of_source?_eq_none (h o ho)

/-- A request without a template of its own, whose URL is none to any interceptor. -/
def NoTemplate (options : List (Option Policy)) (r : Request) : Prop :=
  r.template = none ∧ (r.url = none ∨ ∀ o ∈ options, (o.getD default).urlIsTemplate = false)

theorem NoTemplate.source?_eq_none {options : List (Option Policy)} (h : NoTemplate options r)
    {o : Option Policy} (ho : o ∈ options) : r.source? (o.getD default) = none :=
  Request.source?_eq_none h.1 (h.2.imp_right fun hoff => hoff o ho)

/-- A chain comes to one resolution.  Its result stays what it is under further
interceptors, keeps the transport, and says what it was made from; and where no
template applies each interceptor returns what it was given.  Only a result
without a template can change later, under an interceptor that was not in the chain. -/
theorem chain_is_one_resolution (o : Option Policy) (os : List (Option Policy)) (r : Request) :
    chain (o :: os) r = r.resolve (Policy.ofChain (o :: os)) ∧
      (∀ r', chain (o :: os) r = .ok r' →
        (∀ again : List (Option Policy), (r'.template = none → again ⊆ o :: os) →
          chain again r' = .ok r') ∧
        r'.transport = r.transport ∧
        ∀ t, r'.template = some t →
          r.route = some t ∧ ∃ ps u, r'.params = some ps ∧ r'.url = some u ∧
            ps = r.params.getD [] ∧ Template.url t ps = .ok u) ∧
      (NoTemplate (o :: os) r →
        (∀ o' ∈ o :: os, r.source? (o'.getD default) = none) ∧ chain (o :: os) r = .ok r) := by
  refine ⟨chain_eq_resolve o os r, fun r' hr' => ?_, fun hnone => ?_⟩
  · rw [chain_eq_resolve] at hr'
    cases hsource : r.source? (Policy.ofChain (o :: os)) with
    | none =>
      rw [resolve_of_source?_eq_none hsource] at hr'
      cases hr'
      have htemplate := template_of_source?_eq_none hsource
      have hsources := source?_of_ofChain_eq_none hsource
      refine ⟨fun again hagain => ?_, rfl, fun t ht => ?_⟩
      · exact chain_of_source?_eq_none fun o' ho' => hsources o' (hagain htemplate ho')
      · rw [htemplate] at ht
        cases ht
    | some source =>
      have hfrom := resolvedFrom_of_resolve hsource hr'
      refine ⟨fun again _ => ?_, hfrom.transport, fun t ht => ?_⟩
      · exact chain_eq_self fun o' _ => hfrom.resolve_eq_self (o'.getD default)
      · obtain rfl : source.template = t := Option.some.inj (hfrom.template.symm.trans ht)
        obtain ⟨u, hurl, hu⟩ := hfrom.url
        exact ⟨route_of_source? hsource, _, u, hfrom.params, hurl, rfl, hu⟩
  · have hsources : ∀ o' ∈ o :: os, r.source? (o'.getD default) = none := fun o' ho' =>
      hnone.source?_eq_none ho'
    exact ⟨hsources, chain_of_source?_eq_none hsources⟩

/-- An interceptor that takes the URL for a template, between two that do not. -/
theorem chain_is_one_resolution_search :
    let no : Option Policy := some ⟨false⟩
    let r : Request := ⟨some "/items{?q}", none, some [("q", .text "a b")], []⟩
    let r' : Request := ⟨some "/items?q=a%20b", some "/items{?q}", some [("q", .text "a b")], []⟩
    chain [no, none, no] r = .ok r' ∧ chain [no, no, none, none] r' = .ok r' ∧
      NoTemplate [no, no] r ∧ chain [no, no] r = .ok r := by
  intro no r r'
  have hurl : Template.url "/items{?q}" [("q", .text "a b")] = .ok "/items?q=a%20b" :=
    Outcome.eq_ok_of_toOption (by decide +kernel)
  obtain ⟨hone, hresult, _⟩ := chain_is_one_resolution no [none, no] r
  have hsource : r.source? (Policy.ofChain [no, none, no]) = some (.url "/items{?q}") := rfl
  have hchain : chain [no, none, no] r = .ok r' := hone.trans (resolve_eq_ok hsource hurl)
  have hnone : NoTemplate [no, no] r := ⟨rfl, Or.inr (by decide)⟩
  exact ⟨hchain, (hresult r' hchain).1 _ (fun h => by cases h), hnone,
    ((chain_is_one_resolution no [no] r).2.2 hnone).2⟩

end Request
end RouteTemplate
