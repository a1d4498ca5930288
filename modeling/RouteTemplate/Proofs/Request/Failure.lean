/-
Why a resolution fails.

Where no template applies nothing can go wrong.  Where one applies it may be unreadable, or
ask for the length of a composite value, and both are said in terms of the template.  Two
more things can happen.  An integer that the template looks up may have too many digits to be
written.  And parameters are handed over by name, and the reserved name cannot be handed over.
It is looked for among all parameters, so here a parameter matters that the template never
looks up.  No other one does.
-/
import RouteTemplate.Proofs.Request.Step
import RouteTemplate.Proofs.Template.Dependency
import RouteTemplate.Proofs.Template.Refusal

namespace RouteTemplate
namespace Template

/-- The failures that are about a template, and not about how parameters are handed to it or
written. -/
def Failure.IsOwn : Failure → Prop
  | .unreadable _ => True
  | .lengthOfComposite _ _ => True
  | .tooManyDigits => False
  | .parameterName _ => False

/-! ## The reserved name -/

theorem expandParams_of_not_admissible (t : Template) {p : Params} (hp : ¬ p.Admissible) :
    t.expandParams p = .error (.parameterName (.text reservedName)) := by
  have hself : (p.any fun e => e.1 == reservedName) = true := by
    rw [← Bool.not_eq_false, List.any_eq_false]
    intro h
    refine hp fun e he heq => h e he ?_
    rw [beq_iff_eq]
    exact heq
  rw [expandParams, if_pos hself]

/-- A failure is about the template, unless the template was read and the reserved name is
among the parameters, or an integer of too many digits is what stops it. -/
theorem exists_error_not_isOwn_iff {source : String} {p : Params} :
    (∃ f, url source p = .error f ∧ ¬ f.IsOwn) ↔
      ∃ t, parse source = .ok t ∧ (p.Admissible → t.stop? p = some .tooManyDigits) := by
  cases hparse : parse source with
  | error e =>
    have hurl : url source p = .error (.unreadable e) := by
      rw [url, read, hparse]
      rfl
    constructor
    · rintro ⟨f, hf, hown⟩
      obtain rfl : Failure.unreadable e = f := Except.error.inj (hurl.symm.trans hf)
      exact absurd trivial hown
    · rintro ⟨t, ht, _⟩
      cases ht
  | ok t =>
    constructor
    · rintro ⟨f, hf, hown⟩
      refine ⟨t, rfl, fun hp => (url_eq_error_iff_stop? hparse hp .tooManyDigits).1 ?_⟩
      rw [url_of_admissible hparse hp] at hf ⊢
      cases hexpand : t.expand p with
      | error e =>
        rw [hexpand] at hf
        cases e with
        | lengthOfComposite v =>
          cases hf
          exact absurd trivial hown
        | tooManyDigits => rfl
      | ok u =>
        rw [hexpand] at hf
        cases hf
    · rintro ⟨_, ⟨⟩, hstop⟩
      by_cases hp : p.Admissible
      · exact ⟨_, (url_eq_error_iff_stop? hparse hp .tooManyDigits).2 (hstop hp), id⟩
      · rw [url_of_parse hparse]
        exact ⟨_, expandParams_of_not_admissible t hp, id⟩

/-! ## Parameters that are not looked up -/

def looksUp (t : Template) (name : String) : Bool := t.vars.any fun v => v.key == name

/-- The parameters that a template looks up. -/
def used (t : Template) (p : Params) : Params := p.filter fun e => t.looksUp e.1

theorem lookup_filter {f : String → Bool} {name : String} (hname : f name = true) (p : Params) :
    (p.filter fun e => f e.1).lookup name = p.lookup name := by
  induction p with
  | nil => rfl
  | cons e p ih =>
    obtain ⟨k, v⟩ := e
    rw [List.filter_cons]
    by_cases hk : name = k
    · subst hk
      rw [if_pos hname, List.lookup_cons_self, List.lookup_cons_self]
    · have hne : (name == k) = false := beq_false_of_ne hk
      rw [List.lookup_cons, hne, ← ih]
      split
      · rw [List.lookup_cons, hne]
      · rfl

theorem looksUp_key {t : Template} {v : Variable} (hv : v ∈ t.vars) : t.looksUp v.key = true :=
  List.any_eq_true.2 ⟨v, hv, beq_self_eq_true v.key⟩

theorem expand_used (t : Template) (p : Params) : t.expand (t.used p) = t.expand p :=
  expand_eq_of_lookup_eq fun _ hv => lookup_filter (looksUp_key hv) p

theorem admissible_used {t : Template} {p : Params} (hp : p.Admissible) :
    (t.used p).Admissible := fun e he => hp e (List.mem_filter.1 he).1

/-- What a template does not look up it might as well not be given. -/
theorem url_used {source : String} {t : Template} (ht : parse source = .ok t) {p : Params}
    (hp : p.Admissible) : url source (t.used p) = url source p := by
  rw [url_of_admissible ht (admissible_used hp), url_of_admissible ht hp, expand_used]

end Template

namespace Request

open Template

variable {r : Request} {policy : Policy} {source : Source}

/-- Of a request's parameters only those that its template looks up. -/
def onlyUsed (t : Template) (r : Request) : Request :=
  { r with params := some (t.used (r.params.getD [])) }

/-- A resolution fails otherwise than in its template just where the template is read and the
reserved name is among the parameters, or an integer of too many digits stops the template.
Where that name is not among them, a parameter that is not looked up has no part in any
failure. -/
theorem interceptor_fails_in_template (options : Option Policy) (r : Request) :
    ((∀ f, r.interceptor options = .error f → f.IsOwn) ↔
      ∀ source t, r.source? (options.getD default) = some source →
        parse source.template = .ok t → (r.params.getD []).Admissible ∧
          t.stop? (r.params.getD []) ≠ some .tooManyDigits) ∧
      (∀ t, (r.params.getD []).WritableIn t →
        t.stop? (r.params.getD []) ≠ some .tooManyDigits) ∧
      ((r.params.getD []).Admissible → ∀ source t,
        r.source? (options.getD default) = some source → parse source.template = .ok t →
          ∀ f, r.interceptor options = .error f ↔
            (r.onlyUsed t).interceptor options = .error f) := by
  refine ⟨?_, fun t => stop?_ne_tooManyDigits, ?_⟩
  · cases hsource : r.source? (options.getD default) with
    | none =>
      have hok : r.interceptor options = .ok r := resolve_of_source?_eq_none hsource
      rw [hok]
      constructor
      · rintro _ _ _ ⟨⟩
      · rintro _ _ ⟨⟩
    | some source =>
      have hfails : ∀ f, r.interceptor options = .error f ↔
          Template.url source.template (r.params.getD []) = .error f :=
        fun f => resolve_eq_error_iff hsource
      have hother := @exists_error_not_isOwn_iff source.template (r.params.getD [])
      constructor
      · rintro hown _ t ⟨⟩ ht
        have hstops : ¬((r.params.getD []).Admissible →
            t.stop? (r.params.getD []) = some .tooManyDigits) := by
          intro hstop
          obtain ⟨f, hf, hnot⟩ := hother.2 ⟨t, ht, hstop⟩
          exact hnot (hown f ((hfails f).2 hf))
        exact Classical.not_imp.1 hstops
      · intro h f hf
        by_contra hnot
        obtain ⟨t, ht, hstop⟩ := hother.1 ⟨f, (hfails f).1 hf, hnot⟩
        obtain ⟨hp, hdigits⟩ := h source t rfl ht
        exact hdigits (hstop hp)
  · intro hp source t hsource ht f
    have hsource' : (r.onlyUsed t).source? (options.getD default) = some source := hsource
    show r.resolve _ = _ ↔ (r.onlyUsed t).resolve _ = _
    rw [resolve_eq_error_iff hsource, resolve_eq_error_iff hsource']
    show _ ↔ Template.url source.template (t.used (r.params.getD [])) = _
    rw [url_used ht hp]

/-- A template without variables, and a parameter that cannot be handed to it. -/
theorem interceptor_refuses_unused_self :
    let given : Value := .map [(.text "url", .text "/items"),
      (.text "url_template_params", .map [(.text "self", .text "x")])]
    ∃ r t, Request.ofValue given = .ok r ∧ parse "/items" = .ok t ∧ t.vars = [] ∧
      ∃ f, r.interceptor none = .error f ∧ ¬ f.IsOwn := by
  refine ⟨_, _, rfl, rfl, rfl, .parameterName (.text "self"), rfl, id⟩

end Request
end RouteTemplate
