/-
A query that goes on behind its closing brace.

The lead of `{&b}` is the separator of `{?a}`, and the two operators write a
variable alike.  Variables that follow others in one expression can therefore
stand in an expression of their own: the values come in the same order, and the
lead takes the place of the separator that the seam has lost.  This needs a value
before the seam.  Where there is none, the variables behind it begin the query
themselves.

A list of specifications is cut at its commas, so a comma between two lists makes
no difference to how either is read.  What stands at the end of a list can make
one: a closer belongs to the expression and not to the last specification.
-/
import RouteTemplate.Proofs.Percent.Fields
import RouteTemplate.Proofs.Template.Output
import RouteTemplate.Proofs.Template.Url

namespace RouteTemplate
namespace Template

/-! ## Operators that write alike -/

/-- What `next` writes in front is what `op` writes between its values, and both
write a value in the same way. -/
structure Operator.ContinuedBy (op next : Operator) : Prop where
  /-- An expression with values can be told from one without. -/
  begins : op.lead ≠ []
  lead : next.lead = [op.separator]
  separator : next.separator = op.separator
  charset : next.charset = op.charset
  named : next.named = op.named
  itemSeparator : next.itemSeparator = op.itemSeparator
  /-- Only `;` writes a name alone. -/
  parameter : next = .parameter ↔ op = .parameter

theorem Operator.query_continuedBy : query.ContinuedBy continuation where
  begins := by decide
  lead := rfl
  separator := rfl
  charset := rfl
  named := rfl
  itemSeparator := rfl
  parameter := by decide

section Walk

variable {op next : Operator} {v : Variable} {sep : Char}

/-- The walk reads two things of an operator: whether it writes names, and what it
lets through. -/
theorem encodeText_congr (hnamed : next.named = op.named) (hcharset : next.charset = op.charset)
    (p : Place) (s : List Char) : encodeText next v p s = encodeText op v p s := by
  unfold encodeText
  rw [hnamed, hcharset]

theorem encodeBytes_congr (hnamed : next.named = op.named) (hcharset : next.charset = op.charset)
    (p : Place) (i : Nat) (bs : List UInt8) :
    encodeBytes next v p i bs = encodeBytes op v p i bs := by
  induction bs generalizing i with
  | nil => rfl
  | cons b bs ih => rw [encodeBytes, encodeBytes, encodeText_congr hnamed hcharset, ih, hnamed]

mutual

theorem encodeValue_congr (hnamed : next.named = op.named) (hcharset : next.charset = op.charset)
    (p : Place) : ∀ value : Value, encodeValue next v sep p value = encodeValue op v sep p value
  | .null => rfl
  | .bool _ | .int _ | .float _ | .text _ => by
    simp only [encodeValue, encodeText_congr hnamed hcharset]
  | .bytes bs => by rw [encodeValue, encodeValue, encodeBytes_congr hnamed hcharset]
  | .list items => by rw [encodeValue, encodeValue, encodeItems_congr hnamed hcharset p 0 items]
  | .tuple items => by rw [encodeValue, encodeValue, encodeItems_congr hnamed hcharset p 0 items]
  | .map entries => by rw [encodeValue, encodeValue, encodeEntries_congr hnamed hcharset p entries]
termination_by structural value => value

theorem encodeItems_congr (hnamed : next.named = op.named) (hcharset : next.charset = op.charset)
    (p : Place) (i : Nat) : ∀ items : List Value,
      encodeItems next v sep p i items = encodeItems op v sep p i items
  | [] => rfl
  | item :: items => by
    rw [encodeItems, encodeItems, encodeItems_congr hnamed hcharset p (i + 1) items, hnamed,
      encodeValue_congr hnamed hcharset _ item]
termination_by structural items => items

theorem encodeEntries_congr (hnamed : next.named = op.named) (hcharset : next.charset = op.charset)
    (p : Place) : ∀ entries : List (Value × Value),
      encodeEntries next v sep p entries = encodeEntries op v sep p entries
  | [] => rfl
  | (key, item) :: entries => by
    have hitem : ∀ k, encodeValue next v sep (p.entry op.named v.modifier k) item =
        encodeValue op v sep (p.entry op.named v.modifier k) item :=
      fun k => encodeValue_congr hnamed hcharset _ item
    rw [encodeEntries, encodeEntries, encodeEntries_congr hnamed hcharset p entries, hnamed]
    simp only [hitem]
termination_by structural entries => entries

end

end Walk

namespace Operator.ContinuedBy

variable {op next : Operator} (h : op.ContinuedBy next)

include h

theorem nameText_eq (name : List Char) (text : Option (List Char)) :
    nameText next name text = nameText op name text := by
  unfold nameText
  simp only [h.parameter]

theorem variable_expand (v : Variable) (value : Value) :
    v.expand next value = v.expand op value := by
  by_cases hnull : value = .null
  · rw [hnull]
    rfl
  · rw [Variable.expand_of_ne_null next v hnull, Variable.expand_of_ne_null op v hnull,
      encodeValue_congr h.named h.charset, h.itemSeparator, h.named]
    simp only [h.nameText_eq]

/-! ## Values on both sides of a seam -/

/-- The lead of the second expression is the separator at the seam. -/
theorem assemble_append {vs ws : List Variable} {as : List (List Char)} (has : as ≠ [])
    (bs : List (List Char)) :
    Expression.assemble ⟨op, vs ++ ws, none⟩ (as ++ bs) =
      Expression.assemble ⟨op, vs, none⟩ as ++ Expression.assemble ⟨next, ws, none⟩ bs := by
  by_cases hbs : bs = []
  · rw [hbs, List.append_nil, Expression.assemble_of_ne_nil _ has,
      Expression.assemble_of_ne_nil _ has]
    exact (List.append_nil _).symm
  · have hboth : as ++ bs ≠ [] := List.append_ne_nil_of_left_ne_nil has bs
    rw [Expression.assemble_of_ne_nil _ hboth, Expression.assemble_of_ne_nil _ has,
      Expression.assemble_of_ne_nil _ hbs, Text.intercalate_append op.separator has hbs, h.lead,
      h.separator, List.append_assoc]
    rfl

theorem assemble_eq_nil_iff {vs : List Variable} {as : List (List Char)} :
    Expression.assemble ⟨op, vs, none⟩ as = [] ↔ as = [] := by
  refine ⟨fun hnil => ?_, fun has => by rw [has]; rfl⟩
  by_contra has
  rw [Expression.assemble_of_ne_nil _ has] at hnil
  exact h.begins (List.append_eq_nil_iff.1 hnil).1

/-- Behind a text the second list goes on from it.  Behind nothing it is an expression
of the first operator. -/
theorem expand_append {vs : List Variable} {p : Params} {s : List Char}
    (hs : Expression.expand ⟨op, vs, none⟩ p = .ok s) (ws : List Variable) :
    Expression.expand ⟨op, vs ++ ws, none⟩ p =
      if s = [] then Expression.expand ⟨op, ws, none⟩ p
      else (Expression.expand ⟨next, ws, none⟩ p).map (s ++ ·) := by
  obtain ⟨as, has, hassemble⟩ := Outcome.bind_eq_ok.1 hs
  cases hassemble
  have hnext : (ws.mapM fun v => v.expand next (v.value p)) =
      ws.mapM fun v => v.expand op (v.value p) :=
    Outcome.mapM_congr fun v _ => h.variable_expand v (v.value p)
  rw [Expression.expand, Expression.expand, Expression.expand, List.mapM_append, has, hnext]
  cases ws.mapM fun v => v.expand op (v.value p) with
  | error e => split <;> rfl
  | ok bs =>
    show Except.ok (Expression.assemble _ (as ++ bs).reduceOption) = _
    rw [List.reduceOption_append]
    -- no text means no values, for an expression with values has its lead
    by_cases hnil : as.reduceOption = []
    · rw [if_pos (h.assemble_eq_nil_iff.2 hnil), hnil]
      rfl
    · rw [if_neg (h.assemble_eq_nil_iff.not.2 hnil), h.assemble_append hnil]
      rfl

end Operator.ContinuedBy

/-- Variables are visited from left to right. -/
theorem Expression.expand_append_of_error {op : Operator} {vs : List Variable} {p : Params}
    {e : ExpansionFault} (h : Expression.expand ⟨op, vs, none⟩ p = .error e)
    (ws : List Variable) : Expression.expand ⟨op, vs ++ ws, none⟩ p = .error e := by
  have hvs : (vs.mapM fun v => v.expand op (v.value p)) = .error e := by
    rcases Outcome.bind_eq_error_iff.1 h with hvs | ⟨_, _, h⟩
    · exact hvs
    · cases h
  rw [Expression.expand, List.mapM_append, hvs]
  rfl

/-! ## Expressions from their text -/

/-- The text of an expression: specifications between braces, behind an operator. -/
def Operator.enclose (op : Operator) (specs : String) : String :=
  String.ofList (Segment.braced (op.symbol ++ specs.toList)).source

/-- Specifications, at least one, at whose end neither the expression nor its list is closed. -/
structure Unclosed (specs : String) : Prop where
  brace : '}' ∉ specs.toList
  last : ∃ c, specs.toList.getLast? = some c ∧ c ∉ [',', '.', '/', ';', '&']

theorem toList_comma (a b : String) : (a ++ "," ++ b).toList = a.toList ++ ',' :: b.toList := by
  rw [String.toList_append, String.toList_append, List.append_assoc]
  rfl

theorem Unclosed.comma {a b : String} (ha : Unclosed a) (hb : Unclosed b) :
    Unclosed (a ++ "," ++ b) := by
  obtain ⟨c, hc, hcloser⟩ := hb.last
  refine ⟨?_, c, ?_, hcloser⟩
  · rw [toList_comma, List.mem_append, List.mem_cons]
    rintro (h | h | h)
    · exact ha.brace h
    · cases h
    · exact hb.brace h
  · have hne : b.toList ≠ [] := fun h => by rw [h] at hc; cases hc
    rw [toList_comma, List.getLast?_append_of_ne_nil _ (List.cons_ne_nil ',' b.toList),
      ← List.singleton_append, List.getLast?_append_of_ne_nil _ hne, hc]

/-- A comma between two lists of specifications is one of those that cut them. -/
theorem mapM_readVariable_comma {a b : String} {vs ws : List Variable}
    (ha : (a.toList.splitOn ',').mapM readVariable = .ok vs)
    (hb : (b.toList.splitOn ',').mapM readVariable = .ok ws) :
    ((a ++ "," ++ b).toList.splitOn ',').mapM readVariable = .ok (vs ++ ws) := by
  rw [toList_comma, List.splitOn_append_cons_self, List.mapM_append, ha, hb]
  rfl

theorem readOperator_symbol {op : Operator} (hop : op.named = true) (specs : List Char) :
    readOperator (op.symbol ++ specs) = .ok (op, specs) := by
  cases op with
  | parameter | query | continuation => rfl
  | _ => cases hop

theorem split_enclose (op : Operator) {specs : String} (h : '}' ∉ specs.toList) :
    Segment.split (op.enclose specs).toList = [.braced (op.symbol ++ specs.toList)] := by
  have hbrace : '}' ∉ op.symbol ++ specs.toList := by
    rw [List.mem_append, not_or]
    exact ⟨by cases op <;> decide, h⟩
  have hsplit := Segment.split_braced_append hbrace []
  rw [List.append_nil] at hsplit
  rw [Operator.enclose, String.toList_ofList, hsplit]
  rfl

section Reading

variable {op : Operator} (hop : op.named = true) {specs : String} (h : Unclosed specs)

include hop h

/-- Nothing but the specifications is read between the operator and the brace. -/
theorem readExpression_symbol : readExpression (op.symbol ++ specs.toList) =
    ((specs.toList.splitOn ',').mapM readVariable).map fun vars => ⟨op, vars, none⟩ := by
  obtain ⟨c, hc, hcloser⟩ := h.last
  have hnone : splitCloser specs.toList = (specs.toList, none) := by
    refine splitCloser_of_getLast? hc ?_
    rw [List.contains_eq_mem, decide_eq_false_iff_not]
    exact hcloser
  rw [readExpression, readOperator_symbol hop]
  show (do
    let vars ← ((splitCloser specs.toList).1.splitOn ',').mapM readVariable
    return (⟨op, vars, (splitCloser specs.toList).2⟩ : Expression)) = _
  rw [hnone]
  rfl

/-- Which specifications are accepted does not hang on the operator. -/
theorem parse_enclose {t : Template} :
    parse (op.enclose specs) = .ok t ↔
      ∃ vars, (specs.toList.splitOn ',').mapM readVariable = .ok vars ∧
        t = ⟨op.enclose specs, [.expression ⟨op, vars, none⟩]⟩ := by
  have hread : readSegment (.braced (op.symbol ++ specs.toList)) =
      ((specs.toList.splitOn ',').mapM readVariable).map fun vars =>
        .expression ⟨op, vars, none⟩ := by
    rw [readSegment, readExpression_symbol hop h]
    cases (specs.toList.splitOn ',').mapM readVariable <;> rfl
  rw [parse_eq_ok, split_enclose op h.brace, List.forall₂_cons_left_iff]
  simp only [hread, Outcome.map_eq_ok, List.forall₂_nil_left_iff]
  constructor
  · rintro ⟨hsource, part, parts, ⟨vars, hvars, rfl⟩, rfl, hparts⟩
    obtain ⟨source, _⟩ := t
    cases hsource
    cases hparts
    exact ⟨vars, hvars, rfl⟩
  · rintro ⟨vars, hvars, rfl⟩
    exact ⟨rfl, _, [], ⟨vars, hvars, rfl⟩, rfl, rfl⟩

end Reading

theorem vars_expression (source : String) (e : Expression) :
    vars ⟨source, [.expression e]⟩ = e.vars := List.append_nil e.vars

/-! ## URLs -/

/-- Two texts come to the same, the first with `front` before it: both to a URL, or both are
refused for one reason. -/
inductive SameBehind (p : Params) (front s t : String) : Prop where
  | url {w : String} (hs : url s p = .ok (front ++ w)) (ht : url t p = .ok w)
  | refused {fault : ExpansionFault} (hs : url s p = .error (.ofFault s fault))
      (ht : url t p = .error (.ofFault t fault))

theorem sameBehind_of_expressions {s t : String} {e f : Expression}
    (hs : parse s = .ok ⟨s, [.expression e]⟩) (ht : parse t = .ok ⟨t, [.expression f]⟩)
    {p : Params} (hp : p.Admissible) {front : List Char}
    (h : e.expand p = (f.expand p).map (front ++ ·)) :
    SameBehind p (String.ofList front) s t := by
  cases hf : f.expand p with
  | ok w =>
    rw [hf] at h
    have hurl := url_of_expression hs hp h
    rw [String.ofList_append] at hurl
    exact .url hurl (url_of_expression ht hp hf)
  | error fault =>
    rw [hf] at h
    exact .refused ((url_expression_eq_error hs hp).2 h) ((url_expression_eq_error ht hp).2 hf)

/-- A query over two lists is the query over the first, continued over the second where the
first has a value, and else the query over the second alone. -/
theorem url_query_continued {a b : String} (ha : Unclosed a) (hb : Unclosed b) {S T : Template}
    (hS : parse (Operator.query.enclose a) = .ok S)
    (hT : parse (Operator.continuation.enclose b) = .ok T) :
    (∃ U, parse (Operator.query.enclose (a ++ "," ++ b)) = .ok U ∧ U.vars = S.vars ++ T.vars) ∧
      ∀ p : Params, p.Admissible →
        (∀ u, url (Operator.query.enclose a) p = .ok u → u ≠ "" →
          SameBehind p u (Operator.query.enclose (a ++ "," ++ b))
            (Operator.continuation.enclose b)) ∧
        (url (Operator.query.enclose a) p = .ok "" →
          SameBehind p "" (Operator.query.enclose (a ++ "," ++ b)) (Operator.query.enclose b)) ∧
        ∀ fault, url (Operator.query.enclose a) p =
            .error (.ofFault (Operator.query.enclose a) fault) →
          url (Operator.query.enclose (a ++ "," ++ b)) p =
            .error (.ofFault (Operator.query.enclose (a ++ "," ++ b)) fault) := by
  obtain ⟨vs, hvs, rfl⟩ := (parse_enclose rfl ha).1 hS
  obtain ⟨ws, hws, rfl⟩ := (parse_enclose rfl hb).1 hT
  have hboth : parse (Operator.query.enclose (a ++ "," ++ b)) =
      .ok ⟨_, [.expression ⟨.query, vs ++ ws, none⟩]⟩ :=
    (parse_enclose rfl (ha.comma hb)).2 ⟨vs ++ ws, mapM_readVariable_comma hvs hws, rfl⟩
  have hquery : parse (Operator.query.enclose b) = .ok ⟨_, [.expression ⟨.query, ws, none⟩]⟩ :=
    (parse_enclose rfl hb).2 ⟨ws, hws, rfl⟩
  refine ⟨⟨_, hboth, ?_⟩, fun p hp => ⟨fun u hu hne => ?_, fun hu => ?_, fun v hv => ?_⟩⟩
  · rw [vars_expression, vars_expression, vars_expression]
  · obtain ⟨s, hs, rfl⟩ := (url_expression_eq_ok hS hp).1 hu
    have hnil : s ≠ [] := String.ofList_eq_empty_iff.not.1 hne
    refine sameBehind_of_expressions hboth hT hp ?_
    rw [Operator.query_continuedBy.expand_append hs, if_neg hnil]
  · obtain ⟨s, hs, hempty⟩ := (url_expression_eq_ok hS hp).1 hu
    have hnil : s = [] := String.ofList_eq_empty_iff.1 hempty
    have hsame : Expression.expand ⟨.query, vs ++ ws, none⟩ p =
        (Expression.expand ⟨.query, ws, none⟩ p).map ([] ++ ·) := by
      rw [Operator.query_continuedBy.expand_append hs, if_pos hnil]
      cases Expression.expand ⟨.query, ws, none⟩ p <;> rfl
    exact sameBehind_of_expressions hboth hquery hp hsame
  · have hs := (url_expression_eq_error hS hp).1 hv
    exact (url_expression_eq_error hboth hp).2 (Expression.expand_append_of_error hs ws)

/-- Values on both sides of the seam: a list with a gap, and behind it a number that is
cut and a mapping. -/
def continuedParams : Params :=
  [("tags", .list [.text "é", .null, .int 2]), ("page", .int 12),
    ("d", .map [(.text "k", .text "")])]

/-- Nothing before the seam, and behind it a list where a length is asked. -/
def refusedParams : Params := [("q", .null), ("page", .list [.int 1])]

theorem url_query_continued_search :
    (Unclosed "q=x y,tags*" ∧ Unclosed "page:1,d[]=a") ∧
      (∃ S, parse (Operator.query.enclose "q=x y,tags*") = .ok S) ∧
      (∃ T, parse (Operator.continuation.enclose "page:1,d[]=a") = .ok T) ∧
      Operator.query.enclose ("q=x y,tags*" ++ "," ++ "page:1,d[]=a") =
        "{?q=x y,tags*,page:1,d[]=a}" ∧
      (continuedParams.Admissible ∧
        url (Operator.query.enclose "q=x y,tags*") continuedParams =
          .ok "?q=x%20y&tags=%C3%A9&tags=2" ∧
        SameBehind continuedParams "?q=x%20y&tags=%C3%A9&tags=2" "{?q=x y,tags*,page:1,d[]=a}"
          "{&page:1,d[]=a}" ∧
        url "{&page:1,d[]=a}" continuedParams = .ok "&page=1&k=") ∧
      refusedParams.Admissible ∧
        url (Operator.query.enclose "q=x y,tags*") refusedParams = .ok "" ∧
        SameBehind refusedParams "" "{?q=x y,tags*,page:1,d[]=a}" "{?page:1,d[]=a}" := by
  have ha : Unclosed "q=x y,tags*" := ⟨by decide, '*', by decide, by decide⟩
  have hb : Unclosed "page:1,d[]=a" := ⟨by decide, 'a', by decide, by decide⟩
  have hS : ∃ S, parse (Operator.query.enclose "q=x y,tags*") = .ok S := ⟨_, rfl⟩
  have hT : ∃ T, parse (Operator.continuation.enclose "page:1,d[]=a") = .ok T := ⟨_, rfl⟩
  have hboth : Operator.query.enclose ("q=x y,tags*" ++ "," ++ "page:1,d[]=a") =
      "{?q=x y,tags*,page:1,d[]=a}" := by decide +kernel
  have hnext : Operator.continuation.enclose "page:1,d[]=a" = "{&page:1,d[]=a}" := by decide +kernel
  have hquery : Operator.query.enclose "page:1,d[]=a" = "{?page:1,d[]=a}" := by decide +kernel
  have hp : continuedParams.Admissible := by decide
  have hq : refusedParams.Admissible := by decide
  have hu : url (Operator.query.enclose "q=x y,tags*") continuedParams =
      .ok "?q=x%20y&tags=%C3%A9&tags=2" := Outcome.eq_ok_of_toOption (by decide +kernel)
  have hw : url "{&page:1,d[]=a}" continuedParams = .ok "&page=1&k=" :=
    Outcome.eq_ok_of_toOption (by decide +kernel)
  have hempty : url (Operator.query.enclose "q=x y,tags*") refusedParams = .ok "" :=
    Outcome.eq_ok_of_toOption (by decide +kernel)
  obtain ⟨S, hS'⟩ := hS
  obtain ⟨T, hT'⟩ := hT
  obtain ⟨_, hall⟩ := url_query_continued ha hb hS' hT'
  rw [hboth, hnext, hquery] at hall
  exact ⟨⟨ha, hb⟩, ⟨S, hS'⟩, ⟨T, hT'⟩, hboth, ⟨hp, hu, (hall _ hp).1 _ hu (by decide), hw⟩, hq,
    hempty, (hall _ hq).2.1 hempty⟩

end Template
end RouteTemplate
