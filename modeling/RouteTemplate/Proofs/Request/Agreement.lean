/-
A template with parameters as they are given, and as a request keeps them.

A template can be handed parameters directly, or a request that was read with both.  Reading
turns tuples into lists, which expand alike, and leaves everything else as it is, except for
bytes.  To a template bytes are numbers; to a request they are text.  So the two ways agree, on
the URL or on why there is none, wherever no bytes are looked up; and where there are bytes, the
request comes to what the template comes to with the texts in their place.
-/
import RouteTemplate.Proofs.Request.Failure
import RouteTemplate.Proofs.Schema.Acceptance

namespace RouteTemplate

namespace Value

def isBytes : Value → Bool
  | .bytes _ => true
  | _ => false

/-- Bytes, or a composite with bytes among its items or keys.  Parameters nest no deeper. -/
def holdsBytes : Value → Bool
  | .list items | .tuple items => items.any isBytes
  | .map es => es.any fun e => e.1.isBytes || e.2.isBytes
  | v => v.isBytes

theorem asText_eq_self {v : Value} (h : v.isBytes = false) : v.asText = v := by
  cases v with
  | bytes bs => cases h
  | _ => rfl

theorem hasNoBytesKey_of_holdsBytes {v : Value} (h : v.holdsBytes = false) : v.HasNoBytesKey := by
  cases v with
  | map es =>
    rw [holdsBytes, List.any_eq_false] at h
    rintro e he bs hkey
    refine h e he ?_
    rw [hkey]
    rfl
  | _ => trivial

/-- Without bytes, a parameter expands as it is kept. -/
theorem simplify_kept {v : Value} (h : v.holdsBytes = false) : v.kept.simplify = v.simplify := by
  have hitems {vs : List Value} (h : vs.any isBytes = false) : vs.map asText = vs := by
    rw [List.any_eq_false] at h
    have hself : ∀ v ∈ vs, v.asText = id v :=
      fun v hv => asText_eq_self (Bool.eq_false_iff.2 (h v hv))
    exact (List.map_congr_left hself).trans (List.map_id vs)
  cases v with
  | list vs => rw [kept, hitems h]
  | tuple vs =>
    rw [kept, hitems h]
    rfl
  | map es =>
    have hentries : (es.map fun e => (e.1, e.2.asText)) = es := by
      rw [holdsBytes, List.any_eq_false] at h
      have hself : ∀ e ∈ es, (e.1, e.2.asText) = id e := by
        intro e he
        have hvalue := (Bool.or_eq_false_iff.1 (Bool.eq_false_iff.2 (h e he))).2
        rw [asText_eq_self hvalue]
        rfl
      exact (List.map_congr_left hself).trans (List.map_id es)
    rw [kept, hentries]
  | bytes bs => cases h
  | _ => rfl

end Value

/-! ## Parameters one for one -/

theorem Params.lookup_of_forall₂ {R : Value → Value → Prop} {p q : Params}
    (h : List.Forall₂ (fun e f => e.1 = f.1 ∧ R e.2 f.2) p q) (key : String) :
    (p.lookup key = none ∧ q.lookup key = none) ∨
      ∃ x y, (key, x) ∈ p ∧ p.lookup key = some x ∧ q.lookup key = some y ∧ R x y := by
  induction h with
  | nil => exact Or.inl ⟨rfl, rfl⟩
  | @cons e f p q hef _ ih =>
    obtain ⟨k, x⟩ := e
    obtain ⟨l, y⟩ := f
    obtain ⟨rfl, hxy⟩ : k = l ∧ R x y := hef
    by_cases hkey : key = k
    · subst hkey
      exact Or.inr ⟨x, y, List.mem_cons_self, List.lookup_cons_self, List.lookup_cons_self, hxy⟩
    · have hne : (key == k) = false := beq_false_of_ne hkey
      rw [List.lookup_cons, List.lookup_cons, hne]
      refine ih.imp_right ?_
      rintro ⟨x', y', hmem, hrest⟩
      exact ⟨x', y', List.mem_cons_of_mem _ hmem, hrest⟩

namespace Request

open Schema Template

/-- A request as it is given: a template and parameters for it. -/
def withTemplate (template : String) (params : Params) : Value :=
  .map [(.text "url_template", .text template),
    (.text "url_template_params", Value.ofEntries params)]

variable {source : String} {m : Params} {r : Request}

theorem ofValue_withTemplate_eq_ok :
    ofValue (withTemplate source m) = .ok r ↔ ∃ ps,
      mapping parameter? "url_template_params" (Value.ofEntries m) = .ok ps ∧
        r = ⟨none, some source, some ps, []⟩ := by
  have hvalue : ofValue (withTemplate source m) =
      (mapping parameter? "url_template_params" (Value.ofEntries m)).map fun ps =>
        ⟨none, some source, some ps, []⟩ := by
    show (both _ (both _ (both ((mapping parameter? _ (Value.ofEntries m)).map some) _))).map _ = _
    cases mapping parameter? "url_template_params" (Value.ofEntries m) with
    | ok ps => rfl
    | error faults => rfl
  rw [hvalue, Outcome.map_eq_ok]
  constructor
  · rintro ⟨ps, hps, rfl⟩
    exact ⟨ps, hps, rfl⟩
  · rintro ⟨ps, hps, rfl⟩
    exact ⟨ps, hps, rfl⟩

/-- A request with a template of its own comes to the URL of that template. -/
theorem map_url_resolve (htemplate : r.template = some source) (policy : Policy) :
    (r.resolve policy).map Request.url = (Template.url source (r.params.getD [])).map some := by
  rw [resolve, source?_of_template htemplate]
  show (Template.url source (r.params.getD []) >>= _).map _ = _
  cases Template.url source (r.params.getD []) with
  | ok u => rfl
  | error f => rfl

/-- A request comes to what its template comes to with the parameters as they were given, be that
a URL or a failure, if the template looks up no bytes.  With bytes it comes to what the template
comes to with the parameters as they are kept, that is with the texts that the bytes hold. -/
theorem resolve_agrees_with_url (hr : ofValue (withTemplate source m) = .ok r)
    (hnames : (m.map Prod.fst).Nodup) (hkeys : ∀ e ∈ m, e.2.HasDistinctKeys) (policy : Policy) :
    ((∀ t, parse source = .ok t → ∀ e ∈ m, t.looksUp e.1 = true → e.2.holdsBytes = false) →
      (r.resolve policy).map Request.url = (Template.url source m).map some) ∧
    ((∀ e ∈ m, e.2.HasNoBytesKey) →
      (r.resolve policy).map Request.url =
        (Template.url source (m.map fun e => (e.1, e.2.kept))).map some) := by
  obtain ⟨ps, hps, rfl⟩ := ofValue_withTemplate_eq_ok.1 hr
  have hread := (mapping_ofEntries_eq_ok hnames).1 hps
  rw [map_url_resolve rfl]
  constructor
  · intro hbytes
    have hsame : m.map Prod.fst = ps.map Prod.fst :=
      map_fst_eq_of_forall₂ (R := fun v w => parameter? v = some w) hread
    refine congrArg (Except.map some) (url_congr hsame fun t ht => ?_).symm
    -- A template meets its parameters one lookup at a time, so it is enough to compare what each
    -- variable finds.
    refine expand_congr fun e he v hv => ?_
    have hused : t.looksUp v.key = true := looksUp_key (List.mem_flatMap.2 ⟨e, he, hv⟩)
    rw [Variable.value, Variable.value]
    rcases Params.lookup_of_forall₂ (R := fun v w => parameter? v = some w) hread v.key with
      ⟨hm, hps⟩ | ⟨x, y, hmem, hx, hy, hxy⟩
    · rw [hm, hps]
    · have hx' : x.holdsBytes = false := hbytes t ht _ hmem hused
      obtain ⟨_, rfl⟩ :=
        (parameter?_eq_some_iff (hkeys _ hmem) (Value.hasNoBytesKey_of_holdsBytes hx')).1 hxy
      rw [hx, hy]
      show v.expand e.operator x.simplify = v.expand e.operator x.kept.simplify
      rw [Value.simplify_kept hx']
  · intro hbytes
    have hkept : ∀ e ∈ m, ∀ w, parameter? e.2 = some w ↔ e.2.isParameter = true ∧ e.2.kept = w :=
      fun e he _ => parameter?_eq_some_iff (hkeys e he) (hbytes e he)
    rw [((forall₂_read_iff hkept).1 hread).2]
    rfl

/-- A tuple that is looked up and bytes that are not, and then bytes that are. -/
theorem resolve_agrees_with_url_tuple :
    let source := "/items{?q,t*}"
    let pair : Value := .tuple [.int 1, .bool true]
    let unused : Params := [("t", pair), ("x", .bytes [97])]
    let used : Params := [("t", pair), ("q", .bytes [97])]
    let kept : Params := [("t", .list [.int 1, .bool true]), ("q", .text "a")]
    ∃ r r', ofValue (withTemplate source unused) = .ok r ∧
      (r.resolve default).map Request.url = (Template.url source unused).map some ∧
      Template.url source unused = .ok "/items?t=1&t=true" ∧
      ofValue (withTemplate source used) = .ok r' ∧
      (r'.resolve default).map Request.url = (Template.url source kept).map some ∧
      Template.url source kept = .ok "/items?q=a&t=1&t=true" := by
  intro source pair unused used kept
  have hunused : ∀ e ∈ unused, e.2.HasDistinctKeys := by
    simp [unused, pair, Value.HasDistinctKeys]
  have hused : ∀ e ∈ used, e.2.HasDistinctKeys ∧ e.2.HasNoBytesKey := by
    simp [used, pair, Value.HasDistinctKeys, Value.HasNoBytesKey]
  obtain ⟨t, ht, hlook⟩ : ∃ t, parse "/items{?q,t*}" = .ok t ∧
      ∀ e ∈ unused, t.looksUp e.1 = true → e.2.holdsBytes = false := by
    refine ⟨_, rfl, ?_⟩
    decide
  obtain ⟨r, hr⟩ : ∃ r, ofValue (withTemplate source unused) = .ok r := ⟨_, rfl⟩
  obtain ⟨r', hr'⟩ : ∃ r', ofValue (withTemplate source used) = .ok r' := ⟨_, rfl⟩
  refine ⟨r, r', hr, ?_, Outcome.eq_ok_of_toOption (by decide +kernel), hr', ?_,
    Outcome.eq_ok_of_toOption (by decide +kernel)⟩
  · refine (resolve_agrees_with_url hr (by decide) hunused default).1 fun t' ht' => ?_
    obtain rfl : t = t' := Except.ok.inj (ht.symm.trans ht')
    exact hlook
  · have hkeys : ∀ e ∈ used, e.2.HasDistinctKeys := fun e he => (hused e he).1
    exact (resolve_agrees_with_url hr' (by decide) hkeys default).2 fun e he => (hused e he).2

/-- Bytes are numbers to a template, of which no length can be asked, and text to a request. -/
theorem bytes_expand_as_numbers :
    let m : Params := [("v", .bytes [97, 98])]
    (∃ r, ofValue (withTemplate "{v}" m) = .ok r ∧
      (r.resolve default).map Request.url = .ok (some "ab") ∧
      Template.url "{v}" m = .ok "97,98") ∧
    ∃ r, ofValue (withTemplate "{v:1}" m) = .ok r ∧
      (r.resolve default).map Request.url = .ok (some "a") ∧
      ∃ v, Template.url "{v:1}" m = .error (.lengthOfComposite "{v:1}" v) := by
  refine ⟨⟨_, rfl, ?_, ?_⟩, _, rfl, ?_, _, rfl⟩
  · exact Outcome.eq_ok_of_toOption (by decide +kernel)
  · exact Outcome.eq_ok_of_toOption (by decide +kernel)
  · exact Outcome.eq_ok_of_toOption (by decide +kernel)

end Request
end RouteTemplate
