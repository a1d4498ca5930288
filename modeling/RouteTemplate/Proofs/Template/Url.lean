/-
From a text and parameters to a URL, in the cases that need no look inside an
expression.
-/
import RouteTemplate.Proofs.Percent.Encoded
import RouteTemplate.Proofs.Template.Reading
import RouteTemplate.Template.Failure

namespace RouteTemplate

/-- Parameters that can all be handed to a template. -/
def Params.Admissible (p : Params) : Prop := ∀ e ∈ p, e.1 ≠ "self"

instance (p : Params) : Decidable p.Admissible :=
  inferInstanceAs (Decidable (∀ e ∈ p, e.1 ≠ "self"))

namespace Template

theorem expandParams_of_admissible (t : Template) {p : Params} (hp : p.Admissible) :
    t.expandParams p = (t.expand p).mapError (.ofFault t.source) := by
  have hself : (p.any fun e => e.1 == reservedName) = false := by
    rw [List.any_eq_false]
    intro e he
    rw [beq_iff_eq]
    exact hp e he
  rw [expandParams, hself, if_neg Bool.false_ne_true]

theorem url_eq_ok {source : String} {p : Params} {u : String} :
    url source p = .ok u → ∃ t, parse source = .ok t ∧ t.expand p = .ok u := by
  intro h
  obtain ⟨t, ht, hu⟩ := Outcome.bind_eq_ok.1 h
  refine ⟨t, ?_, ?_⟩
  · rw [read] at ht
    cases hparse : parse source with
    | error e =>
      rw [hparse] at ht
      cases ht
    | ok t' =>
      rw [hparse] at ht
      cases ht
      rfl
  · rw [expandParams] at hu
    split at hu
    · cases hu
    · exact Outcome.mapError_eq_ok.1 hu

theorem url_of_parse {source : String} {t : Template} (h : parse source = .ok t) (p : Params) :
    url source p = t.expandParams p := by
  rw [url, read, h]
  rfl

/-- Parameters with the same names make the same URL, if a template that is read expands alike
with both. -/
theorem url_congr {source : String} {p q : Params} (hnames : p.map Prod.fst = q.map Prod.fst)
    (h : ∀ t, parse source = .ok t → t.expand p = t.expand q) : url source p = url source q := by
  cases hparse : parse source with
  | error e =>
    rw [url, url, read, hparse]
    rfl
  | ok t =>
    have hself : (p.any fun e => e.1 == reservedName) = q.any fun e => e.1 == reservedName := by
      rw [← Function.comp_def (· == reservedName), ← List.any_map, hnames, List.any_map]
    rw [url_of_parse hparse, url_of_parse hparse, expandParams, expandParams, hself, h t hparse]

/-- With parameters that can all be handed over, only the expansion can be at fault. -/
theorem url_of_admissible {source : String} {t : Template} (h : parse source = .ok t) {p : Params}
    (hp : p.Admissible) : url source p = (t.expand p).mapError (.ofFault source) := by
  rw [url_of_parse h, expandParams_of_admissible t hp, (parse_eq_ok.1 h).1]

theorem url_eq_ok_iff {source : String} {t : Template} (h : parse source = .ok t) {p : Params}
    (hp : p.Admissible) {u : String} : url source p = .ok u ↔ t.expand p = .ok u := by
  rw [url_of_admissible h hp, Outcome.mapError_eq_ok]

theorem Failure.ofFault_inj {source : String} {e f : ExpansionFault} :
    ofFault source e = ofFault source f ↔ e = f := by
  cases e <;> cases f <;> simp [ofFault]

theorem url_eq_error_iff {source : String} {t : Template} (h : parse source = .ok t) {p : Params}
    (hp : p.Admissible) {fault : ExpansionFault} :
    url source p = .error (.ofFault source fault) ↔ t.expand p = .error fault := by
  rw [url_of_admissible h hp]
  cases t.expand p with
  | ok u => exact ⟨(by cases ·), (by cases ·)⟩
  | error e => simp [Except.mapError, Failure.ofFault_inj]

/-- A template that is one expression comes to what the expression comes to. -/
theorem expand_expression (source : String) (e : Expression) (p : Params) :
    expand ⟨source, [.expression e]⟩ p = (e.expand p).map String.ofList := by
  have hpart : (Part.expression e).expand p = e.expand p := rfl
  rw [expand, List.mapM_cons, hpart]
  cases e.expand p with
  | error f => rfl
  | ok s =>
    show Except.ok (String.ofList [s].flatten) = _
    rw [List.flatten_singleton]
    rfl

theorem url_expression_eq_ok {source : String} {e : Expression}
    (h : parse source = .ok ⟨source, [.expression e]⟩) {p : Params} (hp : p.Admissible)
    {u : String} : url source p = .ok u ↔ ∃ s, e.expand p = .ok s ∧ String.ofList s = u := by
  rw [url_eq_ok_iff h hp, expand_expression, Outcome.map_eq_ok]

theorem url_expression_eq_error {source : String} {e : Expression}
    (h : parse source = .ok ⟨source, [.expression e]⟩) {p : Params} (hp : p.Admissible)
    {fault : ExpansionFault} :
    url source p = .error (.ofFault source fault) ↔ e.expand p = .error fault := by
  rw [url_eq_error_iff h hp, expand_expression, Outcome.map_eq_error]

theorem url_of_expression {source : String} {e : Expression}
    (h : parse source = .ok ⟨source, [.expression e]⟩) {p : Params} (hp : p.Admissible)
    {s : List Char} (he : e.expand p = .ok s) : url source p = .ok (String.ofList s) :=
  (url_expression_eq_ok h hp).2 ⟨s, he, rfl⟩

/-- A text without braces stands for its encoding, whatever the parameters. -/
theorem url_of_braceFree {s : List Char} (ho : '{' ∉ s) (hc : '}' ∉ s) {p : Params}
    (hp : p.Admissible) :
    url (String.ofList s) p = .ok (String.ofList (Charset.reserved.encode s)) := by
  rw [url_of_parse (parse_of_braceFree ho hc), expandParams_of_admissible _ hp]
  by_cases hs : s = []
  · subst hs
    rfl
  · rw [if_neg hs]
    show Except.mapError _ (Except.ok (String.ofList [Charset.reserved.encode s].flatten)) = _
    rw [List.flatten_singleton]
    rfl

end Template
end RouteTemplate
