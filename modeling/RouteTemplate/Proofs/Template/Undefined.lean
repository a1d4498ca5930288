/-
Parameters that say nothing.

A parameter that is null, and a composite in which there is nothing but nulls,
adds to a URL what a parameter adds that is not given: no text, no name and no
separator.  There is one exception.  Under `;` a name is written before its value
is looked at, and an empty composite that is not exploded leaves the name behind.
Both directions are proved: without such a variable the URL is the same, and with
one it is longer.
-/
import Mathlib.Data.List.Find
import RouteTemplate.Proofs.Template.Dependency
import RouteTemplate.Proofs.Template.Refusal
import RouteTemplate.Proofs.Template.Scalar

namespace RouteTemplate

open Outcome

/-! ## Values without content -/

namespace Value

/-- Null, or a composite whose items are all null. -/
def isUndefined : Value → Bool
  | .null => true
  | .list items | .tuple items => items.all isNull
  | .map entries => entries.all fun e => e.2.isNull
  | _ => false

theorem simplifyItems_of_all_isNull {items : List Value} (h : ∀ x ∈ items, x.isNull = true) :
    simplifyItems items = [] := by
  induction items with
  | nil => rfl
  | cons x xs ih =>
    have hx : x = .null := eq_null_of_isNull (h x List.mem_cons_self)
    have hxs := ih fun y hy => h y (List.mem_cons_of_mem x hy)
    rw [hx]
    exact hxs

theorem simplifyEntries_of_all_isNull {entries : List (Value × Value)}
    (h : ∀ e ∈ entries, e.2.isNull = true) : simplifyEntries entries = [] := by
  induction entries with
  | nil => rfl
  | cons e es ih =>
    obtain ⟨key, x⟩ := e
    have hx : x = .null := eq_null_of_isNull (h _ List.mem_cons_self)
    have hes := ih fun d hd => h d (List.mem_cons_of_mem _ hd)
    rw [hx]
    exact hes

theorem simplify_of_isUndefined {value : Value} (h : value.isUndefined = true)
    (hcomposite : value.isComposite = true) :
    value.simplify = .list [] ∨ value.simplify = .map [] := by
  cases value with
  | list items | tuple items =>
    rw [isUndefined, List.all_eq_true] at h
    rw [simplify, simplifyItems_of_all_isNull h]
    exact Or.inl rfl
  | map entries =>
    rw [isUndefined, List.all_eq_true] at h
    rw [simplify, simplifyEntries_of_all_isNull h]
    exact Or.inr rfl
  | bytes bs => cases h
  | _ => cases hcomposite

theorem eq_null_or_isComposite {value : Value} (h : value.isUndefined = true) :
    value = .null ∨ value.isComposite = true := by
  cases value with
  | null => exact Or.inl rfl
  | list _ | tuple _ | map _ => exact Or.inr rfl
  | _ => cases h

end Value

/-! ## Parameters that are defined -/

def Params.defined (p : Params) : Params := p.filter fun e => !e.2.isUndefined

theorem Params.lookup_defined {p : Params} (hp : (p.map Prod.fst).Nodup) (key : String) :
    p.defined.lookup key = (p.lookup key).filter fun value => !value.isUndefined := by
  induction p with
  | nil => rfl
  | cons e p ih =>
    obtain ⟨name, value⟩ := e
    obtain ⟨hname, hrest⟩ := List.nodup_cons.1 hp
    have ih' := ih hrest
    rw [defined] at ih' ⊢
    rw [List.filter_cons]
    by_cases hkey : key = name
    · rw [hkey] at ih' ⊢
      -- no later entry has the name of one that is left out
      have hnone : p.lookup name = none := by
        rw [List.lookup_eq_none_iff]
        intro e he
        rw [bne_iff_ne]
        intro h
        have hmem : e.1 ∈ p.map Prod.fst := List.mem_map_of_mem he
        exact hname (h ▸ hmem)
      rw [hnone] at ih'
      rw [List.lookup_cons_self, Option.filter_some]
      split
      · rw [List.lookup_cons_self]
      · exact ih'
    · have hne : (key == name) = false := beq_false_of_ne hkey
      rw [List.lookup_cons, hne, ← ih']
      split
      · rw [List.lookup_cons, hne]
      · rfl

namespace Template

/-- A variable under `;` whose value is an empty composite that is not exploded. -/
def Variable.Bare (op : Operator) (v : Variable) (p : Params) : Prop :=
  op = .parameter ∧ v.modifier.explodes = false ∧
    ∃ value ∈ p.lookup v.key, value.isComposite = true ∧ value.isUndefined = true

instance (op : Operator) (v : Variable) (p : Params) : Decidable (v.Bare op p) :=
  inferInstanceAs (Decidable (_ ∧ _ ∧ ∃ value ∈ p.lookup v.key,
    value.isComposite = true ∧ value.isUndefined = true))

section

variable {op : Operator} {v : Variable} {p : Params}

theorem expand_of_bare (h : v.Bare op p) :
    v.expand op (v.value p) = .ok (some (encodeName v.name)) := by
  obtain ⟨hop, hexplodes, value, hvalue, hcomposite, hundefined⟩ := h
  have hempty := Value.simplify_of_isUndefined hundefined hcomposite
  rw [Variable.value, Option.mem_def.1 hvalue]
  show v.expand op value.simplify = _
  rw [Variable.expand_of_empty op v hempty, if_pos ⟨hop, hexplodes⟩]

theorem value_eq_getD (hv : v.fallback = none) (p : Params) :
    v.value p = ((p.lookup v.key).map Value.simplify).getD .null := by
  rw [Variable.value, hv]
  cases p.lookup v.key <;> rfl

/-- What is left out adds nothing, unless it was there with its bare name. -/
theorem expand_defined (hv : v.fallback = none) (hp : (p.map Prod.fst).Nodup) :
    v.expand op (v.value p.defined) =
      if v.Bare op p then .ok none else v.expand op (v.value p) := by
  rw [value_eq_getD hv, value_eq_getD hv, Params.lookup_defined hp]
  cases hlookup : p.lookup v.key with
  | none =>
    have hbare : ¬v.Bare op p := by
      rintro ⟨_, _, _, h, _⟩
      rw [hlookup] at h
      cases h
    rw [if_neg hbare]
    rfl
  | some value =>
    rw [Option.filter_some]
    cases hundefined : value.isUndefined with
    | false =>
      have hbare : ¬v.Bare op p := by
        rintro ⟨_, _, _, h, _, h'⟩
        rw [hlookup] at h
        cases h
        rw [hundefined] at h'
        cases h'
      rw [if_neg hbare]
      rfl
    | true =>
      show Except.ok none = if _ then _ else v.expand op value.simplify
      rcases Value.eq_null_or_isComposite hundefined with rfl | hcomposite
      · exact (ite_self _).symm
      · have hempty := Value.simplify_of_isUndefined hundefined hcomposite
        rw [Variable.expand_of_empty op v hempty]
        by_cases hbare : v.Bare op p
        · rw [if_pos hbare]
        · rw [if_neg hbare, if_neg]
          rintro ⟨hop, hexplodes⟩
          exact hbare ⟨hop, hexplodes, value, hlookup, hcomposite, hundefined⟩

/-- The walk is stopped at the same variables. -/
theorem stop?_variable_defined (hv : v.fallback = none) (hp : (p.map Prod.fst).Nodup) :
    v.stop? p.defined = v.stop? p := by
  rw [← fault?_variable .simple, ← fault?_variable .simple, expand_defined hv hp, if_neg]
  rintro ⟨h, _⟩
  cases h

theorem fault?_expand_defined {t : Template} (hv : ∀ v ∈ t.vars, v.fallback = none)
    (hp : (p.map Prod.fst).Nodup) : fault? (t.expand p.defined) = fault? (t.expand p) := by
  rw [fault?_expand, fault?_expand]
  exact findSome?_congr fun v hmem => stop?_variable_defined (hv v hmem) hp

/-! ## What a bare name adds -/

/-- Under `;` even an empty text shows: there is a lead or a closer. -/
theorem span_lt_of_parameter {e : Expression} (he : e.operator = .parameter) (m n : Nat)
    (h : m + 1 ≤ n) : e.span m + 1 ≤ e.span n := by
  have hedge : e.edge = 1 := by
    rw [Expression.edge, he]
    cases e.closer <;> rfl
  cases n with
  | zero => omega
  | succ n =>
    cases m with
    | zero =>
      rw [Expression.span, Expression.span, hedge]
      omega
    | succ m =>
      rw [Expression.span, Expression.span]
      omega

theorem grows_variable_defined (hv : v.fallback = none) (hp : (p.map Prod.fst).Nodup)
    (h : v.stop? p = none) :
    Grows room 1 (v.Bare op p) (v.expand op (v.value p.defined)) (v.expand op (v.value p)) := by
  rw [expand_defined hv hp]
  by_cases hbare : v.Bare op p
  · rw [if_pos hbare, expand_of_bare hbare]
    exact ⟨_, _, rfl, rfl, Nat.zero_le _, fun _ => Nat.succ_le_succ (Nat.zero_le _)⟩
  · obtain ⟨r, hr⟩ : ∃ r, v.expand op (v.value p) = .ok r := by
      rw [← fault?_eq_none, fault?_variable, h]
    rw [if_neg hbare, hr]
    exact ⟨r, r, rfl, rfl, Nat.le_refl _, fun h => absurd h hbare⟩

theorem grows_defined {t : Template} (hv : ∀ v ∈ t.vars, v.fallback = none)
    (hp : (p.map Prod.fst).Nodup) (h : t.stop? p = none) :
    Grows String.length 1 (∃ e ∈ t.expressions, ∃ v ∈ e.vars, v.Bare e.operator p)
      (t.expand p.defined) (t.expand p) := by
  refine grows_expand fun e he => ?_
  have hvars : ∀ v ∈ e.vars, Grows room 1 (v.Bare e.operator p)
      (v.expand e.operator (v.value p.defined)) (v.expand e.operator (v.value p)) := by
    intro v hve
    have hmem : v ∈ t.vars := List.mem_flatMap.2 ⟨e, he, hve⟩
    exact grows_variable_defined (hv v hmem) hp (List.findSome?_eq_none_iff.1 h v hmem)
  refine Expression.grows_expand hvars ?_
  rintro ⟨v, _, hop, _⟩
  exact span_lt_of_parameter hop

end

/-- Without fallbacks, entries that say nothing can be left out.  This never makes an
expansion fail or succeed, and it changes a URL just where an empty composite that is not
exploded stands under `;`. -/
theorem url_defined_iff {source : String} {t : Template} (ht : parse source = .ok t)
    (hv : ∀ v ∈ t.vars, v.fallback = none) {p : Params} (hp : p.Admissible)
    (hnodup : (p.map Prod.fst).Nodup) :
    (∀ f, url source p.defined = .error f ↔ url source p = .error f) ∧
      ∀ u, url source p = .ok u →
        (url source p.defined = .ok u ↔
          ∀ e ∈ t.expressions, ∀ v ∈ e.vars, ¬v.Bare e.operator p) := by
  have hp' : p.defined.Admissible := fun e he => hp e (List.mem_filter.1 he).1
  have hfault := fault?_expand_defined hv hnodup
  rw [url_of_admissible ht hp, url_of_admissible ht hp']
  cases hexpand : t.expand p with
  | error e =>
    rw [hexpand] at hfault
    rw [fault?_eq_some.1 hfault]
    exact ⟨fun f => Iff.rfl, fun u hu => by cases hu⟩
  | ok u =>
    have hstop : t.stop? p = none := by rw [← fault?_expand, hexpand]; rfl
    rw [hexpand] at hfault
    obtain ⟨w, hw⟩ := fault?_eq_none.1 hfault
    rw [hw]
    refine ⟨fun f => ⟨(by cases ·), (by cases ·)⟩, ?_⟩
    rintro _ ⟨⟩
    constructor
    · intro h e he v hve hbare
      obtain ⟨w', u', hw', hu', _, hgap⟩ := grows_defined hv hnodup hstop
      rw [hw] at hw'
      rw [hexpand] at hu'
      cases hw'
      cases hu'
      cases h
      have hlonger := hgap ⟨e, he, v, hve, hbare⟩
      omega
    · intro h
      have hsame : t.expand p.defined = t.expand p := by
        refine expand_congr fun e he v hve => ?_
        rw [expand_defined (hv v (List.mem_flatMap.2 ⟨e, he, hve⟩)) hnodup, if_neg (h e he v hve)]
      rw [hw, hexpand] at hsame
      cases hsame
      rfl

/-- Entries that say nothing in four ways, and one more value under `v`. -/
def hollowParams (v : Value) : Params :=
  [("x", .tuple [.null]), ("v", v), ("z", .map [(.text "k", .null)]), ("w", .null), ("y", .int 1)]

theorem url_defined_iff_hollow :
    let source := "/a{;x*,y,v:2}{?z:3,w}"
    (∃ t, parse source = .ok t ∧ ∀ v ∈ t.vars, v.fallback = none) ∧
      (∀ v, (hollowParams v).Admissible ∧ ((hollowParams v).map Prod.fst).Nodup) ∧
      url source (hollowParams .null) = .ok "/a;y=1" ∧
      url source (hollowParams .null).defined = .ok "/a;y=1" ∧
      url source (hollowParams (.list [])) = .ok "/a;y=1;v" ∧
      url source (hollowParams (.list [])).defined ≠ .ok "/a;y=1;v" := by
  obtain ⟨t, ht, hfallback, hbare, hbare'⟩ : ∃ t, parse "/a{;x*,y,v:2}{?z:3,w}" = .ok t ∧
      (∀ v ∈ t.vars, v.fallback = none) ∧
      (∀ e ∈ t.expressions, ∀ v ∈ e.vars, ¬v.Bare e.operator (hollowParams .null)) ∧
      ¬∀ e ∈ t.expressions, ∀ v ∈ e.vars, ¬v.Bare e.operator (hollowParams (.list [])) :=
    ⟨_, rfl, by decide, by decide +kernel, by decide +kernel⟩
  have hp : ∀ v, (hollowParams v).Admissible := by
    intro v e he
    have hname : e.1 ∈ ["x", "v", "z", "w", "y"] := List.mem_map_of_mem (f := Prod.fst) he
    rintro h
    rw [h] at hname
    exact absurd hname (by decide)
  have hnodup : ∀ v, ((hollowParams v).map Prod.fst).Nodup := by
    intro v
    show ["x", "v", "z", "w", "y"].Nodup
    decide
  have hurl : url "/a{;x*,y,v:2}{?z:3,w}" (hollowParams .null) = .ok "/a;y=1" :=
    Outcome.eq_ok_of_toOption (by decide +kernel)
  have hurl' : url "/a{;x*,y,v:2}{?z:3,w}" (hollowParams (.list [])) = .ok "/a;y=1;v" :=
    Outcome.eq_ok_of_toOption (by decide +kernel)
  refine ⟨⟨t, ht, hfallback⟩, fun v => ⟨hp v, hnodup v⟩, hurl, ?_, hurl', ?_⟩
  · exact ((url_defined_iff ht hfallback (hp _) (hnodup _)).2 _ hurl).2 hbare
  · intro h
    exact hbare' (((url_defined_iff ht hfallback (hp _) (hnodup _)).2 _ hurl').1 h)

/-- A list without items is not the same as no list. -/
theorem empty_list_leaves_name :
    let p : Params := [("list", .list [])]
    p.defined = [] ∧ url "/x{;list}" p = .ok "/x;list" ∧ url "/x{;list}" p.defined = .ok "/x" :=
  ⟨rfl, Outcome.eq_ok_of_toOption (by decide +kernel),
    Outcome.eq_ok_of_toOption (by decide +kernel)⟩

end Template
end RouteTemplate
