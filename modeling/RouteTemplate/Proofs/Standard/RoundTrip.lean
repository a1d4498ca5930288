/-
Reading undoes writing on the standard grammar.

Every rule of the reader that could take a character from another rule looks
at the first or the last character of a text, or for one character anywhere in
it.  So each level of the grammar says three things about its written form:
which characters it is made of, how it starts and how it ends.
-/
import RouteTemplate.Proofs.Standard.Grammar
import RouteTemplate.Proofs.Template.Names
import RouteTemplate.Proofs.Template.Reading

namespace RouteTemplate
namespace Standard

open Template (isWordChar)

/-- The characters of a list of variables, apart from the commas. -/
def isSpecChar (c : Char) : Bool :=
  isWordChar c || c = '.' || c = ':' || c = '*'

theorem isSpecChar_of_isWordChar {c : Char} (h : isWordChar c = true) : isSpecChar c = true := by
  simp only [isSpecChar, h, Bool.true_or]

theorem isWordChar_of_isDigit {c : Char} (h : c.isDigit = true) : isWordChar c = true := by
  simp only [isWordChar, Char.isAlphanum, h, Bool.or_true, Bool.true_or]

/-! ## Names -/

namespace Name

variable (n : Name)

theorem mem_text : ∀ c ∈ n.text, isWordChar c = true ∨ c = '.' := by
  intro c hc
  rcases Text.mem_or_mem_of_mem_intercalate hc with hc | ⟨r, hr, hc⟩
  · exact Or.inr (List.mem_singleton.1 hc)
  · exact Or.inl (n.isWordChar_of_mem r hr c hc)

theorem head?_text : ∃ c, n.text.head? = some c ∧ isWordChar c = true := by
  obtain ⟨runs, hruns, hrun, hword⟩ := n
  cases runs with
  | nil => exact absurd rfl hruns
  | cons r rs =>
    have hr : r ≠ [] := hrun r List.mem_cons_self
    refine ⟨r.head hr, ?_, hword r List.mem_cons_self _ (List.head_mem hr)⟩
    rw [text, Text.head?_intercalate _ hr, List.head?_eq_some_head hr]

theorem getLast?_text : ∃ c, n.text.getLast? = some c ∧ isWordChar c = true := by
  have hmem : n.runs.getLast n.runs_ne_nil ∈ n.runs := List.getLast_mem n.runs_ne_nil
  have hne := n.run_ne_nil _ hmem
  refine ⟨(n.runs.getLast n.runs_ne_nil).getLast hne, ?_,
    n.isWordChar_of_mem _ hmem _ (List.getLast_mem hne)⟩
  rw [text, Text.getLast?_intercalate _ n.run_ne_nil,
    List.getLast?_eq_some_getLast n.runs_ne_nil, Option.bind_some,
    List.getLast?_eq_some_getLast hne]

theorem text_ne_nil : n.text ≠ [] := by
  obtain ⟨c, hc, _⟩ := n.head?_text
  rintro h
  rw [h] at hc
  cases hc

end Name

/-! ## Variables -/

theorem readLength?_toDigits {n : Nat} (pos : 0 < n) (le : n ≤ 999) :
    Template.readLength? (Nat.toDigits 10 n) = some n := by
  have hdigits : Decimal.isDigits (Nat.toDigits 10 n) = true := by
    rw [Decimal.isDigits, Bool.and_eq_true, List.all_eq_true, Bool.not_eq_true',
      List.isEmpty_eq_false_iff]
    exact ⟨Nat.toDigits_ne_nil, fun c hc =>
      Nat.isDigit_of_mem_toDigits (by decide) (by decide) hc⟩
  have hlength : (Nat.toDigits 10 n).length ≤ 3 := by
    rw [Nat.length_toDigits_le_iff (by decide) (by decide)]
    omega
  have hvalue : Decimal.ofDigits (Nat.toDigits 10 n) = n :=
    Nat.ofDigitChars_toDigits (by decide) (by decide)
  have hpos : (n != 0) = true := bne_iff_ne.2 (by omega)
  rw [Template.readLength?, hdigits, hvalue, hpos, decide_eq_true hlength]
  rfl

namespace VarSpec

variable (v : VarSpec)

theorem mem_text : ∀ c ∈ v.text, isSpecChar c = true := by
  intro c hc
  rw [text, List.mem_append] at hc
  rcases hc with hc | hc
  · rcases v.name.mem_text c hc with hw | rfl
    · exact isSpecChar_of_isWordChar hw
    · rfl
  · cases hm : v.modifier with
    | none =>
      rw [hm] at hc
      exact absurd hc List.not_mem_nil
    | first n pos le =>
      rw [hm] at hc
      rcases List.mem_cons.1 hc with rfl | hc
      · rfl
      · exact isSpecChar_of_isWordChar
          (isWordChar_of_isDigit (Nat.isDigit_of_mem_toDigits (by decide) (by decide) hc))
    | explode =>
      rw [hm] at hc
      rw [List.mem_singleton.1 hc]
      rfl

theorem head?_text : ∃ c, v.text.head? = some c ∧ isWordChar c = true := by
  obtain ⟨c, hc, hw⟩ := v.name.head?_text
  refine ⟨c, ?_, hw⟩
  rw [text, List.head?_append_of_ne_nil _ v.name.text_ne_nil, hc]

theorem getLast?_text : ∃ c, v.text.getLast? = some c ∧ (isWordChar c = true ∨ c = '*') := by
  obtain ⟨name, modifier⟩ := v
  cases modifier with
  | none =>
    obtain ⟨c, hc, hw⟩ := name.getLast?_text
    refine ⟨c, ?_, Or.inl hw⟩
    rw [← hc, text, Modifier.text, List.append_nil]
  | first n pos le =>
    have hne : Nat.toDigits 10 n ≠ [] := Nat.toDigits_ne_nil
    refine ⟨(Nat.toDigits 10 n).getLast hne, ?_, Or.inl (isWordChar_of_isDigit
      (Nat.isDigit_of_mem_toDigits (by decide) (by decide) (List.getLast_mem hne)))⟩
    rw [text, Modifier.text, List.getLast?_append_of_ne_nil _ (List.cons_ne_nil _ _),
      List.getLast?_cons, List.getLast?_eq_some_getLast hne]
    rfl
  | explode =>
    exact ⟨'*', by rw [text, Modifier.text, List.getLast?_append_of_ne_nil _ (List.cons_ne_nil _ _)]; rfl,
      Or.inr rfl⟩

/-- A name ends in a name character, so none of the three modifiers is taken for another. -/
theorem readModifier_text :
    Template.readModifier v.text = .ok (v.name.text, v.modifier.toModifier) := by
  obtain ⟨name, modifier⟩ := v
  have hcolon : ':' ∉ name.text := fun h => by
    rcases name.mem_text _ h with h | h <;> exact absurd h (by decide)
  obtain ⟨c, hc, hw⟩ := name.getLast?_text
  cases modifier with
  | none =>
    have hstar : Text.dropEnd? ['*'] name.text = none := by
      refine Text.dropEnd?_eq_none (List.cons_ne_nil _ _) fun h => ?_
      rw [hc] at h
      obtain rfl : c = '*' := Option.some.inj h
      exact absurd hw (by decide)
    have hindex : Text.dropEnd? ['[', ']'] name.text = none := by
      refine Text.dropEnd?_eq_none (List.cons_ne_nil _ _) fun h => ?_
      rw [hc] at h
      obtain rfl : c = ']' := Option.some.inj h
      exact absurd hw (by decide)
    rw [text, Modifier.text, List.append_nil, Template.readModifier,
      Text.cut?_eq_none_iff.2 hcolon, hstar, hindex]
    rfl
  | first n pos le =>
    have hcut : Text.cut? ':' (name.text ++ ':' :: Nat.toDigits 10 n) =
        some (name.text, Nat.toDigits 10 n) := Text.cut?_eq_some_iff.2 ⟨rfl, hcolon⟩
    simp only [text, Modifier.text, Template.readModifier, hcut, readLength?_toDigits pos le]
    rfl
  | explode =>
    have hcut : Text.cut? ':' (name.text ++ ['*']) = none := by
      rw [Text.cut?_eq_none_iff, List.mem_append, not_or]
      exact ⟨hcolon, by decide⟩
    rw [text, Modifier.text, Template.readModifier, hcut, Text.dropEnd?_append]
    rfl

theorem readVariable_text : Template.readVariable v.text = .ok v.toVariable :=
  Template.readVariable_of_readModifier v.head?_text
    (fun h => absurd (v.mem_text _ h) (by decide)) v.readModifier_text v.name.mem_text

end VarSpec

/-! ## Expressions -/

namespace Expression

variable (e : Expression)

/-- The variables between their commas. -/
def specs : List Char := List.intercalate [','] (e.vars.map VarSpec.text)

theorem mem_specs : ∀ c ∈ e.specs, isSpecChar c = true ∨ c = ',' := by
  intro c hc
  rcases Text.mem_or_mem_of_mem_intercalate hc with hc | ⟨s, hs, hc⟩
  · exact Or.inr (List.mem_singleton.1 hc)
  · obtain ⟨v, _, rfl⟩ := List.mem_map.1 hs
    exact Or.inl (v.mem_text c hc)

theorem not_mem_specs {c : Char} (hc : isSpecChar c = false) (hcomma : c ≠ ',') : c ∉ e.specs := by
  intro h
  rcases e.mem_specs c h with hs | rfl
  · rw [hc] at hs
    exact absurd hs (by decide)
  · exact hcomma rfl

theorem head?_specs : ∃ c, e.specs.head? = some c ∧ isWordChar c = true := by
  obtain ⟨c, hc, hw⟩ := e.head.head?_text
  have hne : e.head.text ≠ [] := by
    intro h
    rw [h] at hc
    cases hc
  exact ⟨c, by rw [specs, vars, List.map_cons, Text.head?_intercalate _ hne, hc], hw⟩

theorem getLast?_specs : ∃ c, e.specs.getLast? = some c ∧ (isWordChar c = true ∨ c = '*') := by
  have hne : ∀ s ∈ e.vars.map VarSpec.text, s ≠ [] := by
    rintro s hs rfl
    obtain ⟨v, _, hv⟩ := List.mem_map.1 hs
    obtain ⟨c, hc, _⟩ := v.head?_text
    rw [hv] at hc
    cases hc
  have hvars : e.vars ≠ [] := List.cons_ne_nil e.head e.tail
  obtain ⟨c, hc, hw⟩ := (e.vars.getLast hvars).getLast?_text
  refine ⟨c, ?_, hw⟩
  rw [specs, Text.getLast?_intercalate _ hne, List.getLast?_map,
    List.getLast?_eq_some_getLast hvars, Option.map_some, Option.bind_some, hc]

/-- No operator is a name character, and no name character is an operator. -/
theorem readOperator_body :
    Template.readOperator e.body = .ok (e.operator.toOperator, e.specs) := by
  have hline : Template.isOneLine e.specs = true :=
    Template.isOneLine_of_not_mem (e.not_mem_specs (by decide) (by decide))
  obtain ⟨c, hc, hw⟩ := e.head?_specs
  show Template.readOperator (e.operator.symbol ++ e.specs) = _
  generalize e.specs = specs at *
  cases e.operator with
  | simple =>
    cases specs with
    | nil => cases hc
    | cons d ds =>
      obtain rfl : d = c := Option.some.inj hc
      have hp : d ≠ '%' := by
        rintro rfl
        exact absurd hw (by decide)
      have hname : Template.startsWithName (d :: ds) = true := by
        rw [Template.startsWithName_cons hp, hw]
      exact Template.readOperator_of_startsWithName hname hline
  | reserved => rfl
  | fragment => rfl
  | label => rfl
  | path => rfl
  | parameter => rfl
  | query => rfl
  | continuation => rfl

theorem splitOn_specs : e.specs.splitOn ',' = e.vars.map VarSpec.text := by
  refine List.splitOn_intercalate ',' (fun s hs hcomma => ?_) (List.cons_ne_nil _ _)
  obtain ⟨v, _, rfl⟩ := List.mem_map.1 hs
  exact absurd (v.mem_text _ hcomma) (by decide)

theorem readExpression_body : Template.readExpression e.body = .ok e.toExpression := by
  obtain ⟨c, hc, hlast⟩ := e.getLast?_specs
  have hcloser : [',', '.', '/', ';', '&'].contains c = false := by
    rw [List.contains_eq_mem, decide_eq_false_iff_not]
    intro h
    simp only [List.mem_cons, List.not_mem_nil, or_false] at h
    rcases h with rfl | rfl | rfl | rfl | rfl <;> exact absurd hlast (by decide)
  exact Template.readExpression_of_parts e.readOperator_body
    (Template.splitCloser_of_getLast? hc hcloser) e.splitOn_specs
    (Outcome.mapM_map_eq_ok fun v _ => v.readVariable_text)

theorem not_mem_body : '}' ∉ e.body := by
  have hspecs : '}' ∉ e.specs := e.not_mem_specs (by decide) (by decide)
  show '}' ∉ e.operator.symbol ++ e.specs
  rw [List.mem_append, not_or]
  exact ⟨by cases e.operator <;> decide, hspecs⟩

end Expression

/-! ## Templates -/

theorem readSegment_segment (p : Part) : Template.readSegment p.segment = .ok p.toPart := by
  cases p with
  | literal l =>
    have hopen : l.text.contains '{' = false := by
      rw [List.contains_eq_mem, decide_eq_false_iff_not]
      exact l.braceFree.1
    have hclose : l.text.contains '}' = false := by
      rw [List.contains_eq_mem, decide_eq_false_iff_not]
      exact l.braceFree.2
    rw [Part.segment, Template.readSegment, hopen, hclose]
    rfl
  | expression e =>
    rw [Part.segment, Template.readSegment, e.readExpression_body]
    rfl

theorem split_text {parts : List Part} (h : Separated parts) :
    Template.Segment.split (text parts) = parts.map Part.segment := by
  induction parts with
  | nil => rfl
  | cons p ps ih =>
    show Template.Segment.split (p.segment.source ++ text ps) = _
    cases p with
    | literal l =>
      obtain ⟨hne, hstart, hps⟩ := h
      have hnext : ∀ u rest, ps.map Part.segment ≠ .plain u :: rest := by
        intro u rest hu
        match ps, hstart with
        | [], _ => cases hu
        | .expression e :: _, _ => cases hu
      show _ = Template.Segment.plain l.text :: ps.map Part.segment
      rw [← Template.Segment.foldr_consPlain hne hnext, ← ih hps]
      exact Template.Segment.split_append l.braceFree.1 _
    | expression e =>
      rw [List.map_cons, ← ih h]
      exact Template.Segment.split_braced_append e.not_mem_body _

/-- Reading undoes writing: a tree is read back from its text. -/
theorem parse_text {parts : List Part} (h : Separated parts) :
    Template.parse (String.ofList (text parts)) =
      .ok ⟨String.ofList (text parts), parts.map Part.toPart⟩ := by
  have hparts : Template.readParts (text parts) = .ok (parts.map Part.toPart) := by
    rw [Template.readParts, split_text h]
    exact Outcome.mapM_map_eq_ok fun p _ => readSegment_segment p
  rw [Template.parse, String.toList_ofList, hparts]

/-! ## What can be seen of a template

An expression shows its operator and, of each variable, the name, the length
and whether it explodes. -/

/-- An operator as it is written, and its variables. -/
abbrev Outline := List Char × List (String × Nat × Bool)

def Expression.outline (e : Expression) : Outline :=
  (e.operator.symbol, e.vars.map fun v => (v.name.string, v.modifier.length, v.modifier.explodes))

def outline (e : Template.Expression) : Outline :=
  (e.operator.symbol, e.vars.map fun v => (v.name, v.modifier.length, v.modifier.explodes))

def plain? : Template.Part → Option (List Char)
  | .literal s => some s
  | .expression _ => none

theorem outline_toExpression (e : Expression) : outline e.toExpression = e.outline := by
  have hop : e.operator.toOperator.symbol = e.operator.symbol := by
    cases e.operator <;> rfl
  have hvar : ∀ v : VarSpec, (v.toVariable.name, v.toVariable.modifier.length,
      v.toVariable.modifier.explodes) = (v.name.string, v.modifier.length, v.modifier.explodes) := by
    rintro ⟨name, modifier⟩
    cases modifier <;> rfl
  show (e.operator.toOperator.symbol, (e.vars.map VarSpec.toVariable).map _) = _
  rw [hop, List.map_map]
  exact congrArg _ (List.map_congr_left fun v _ => hvar v)

theorem filterMap_plain?_toPart (parts : List Part) :
    (parts.map Part.toPart).filterMap plain? = literals parts := by
  rw [List.filterMap_map]
  exact congrArg (List.filterMap · parts) (funext fun p => by cases p <;> rfl)

theorem filterMap_expression?_toPart (parts : List Part) :
    (parts.map Part.toPart).filterMap Template.Part.expression? =
      (expressions parts).map Expression.toExpression := by
  rw [List.filterMap_map, expressions, List.map_filterMap]
  exact congrArg (List.filterMap · parts) (funext fun p => by cases p <;> rfl)

theorem map_name_toExpression (es : List Expression) :
    ((es.map Expression.toExpression).flatMap Template.Expression.vars).map Template.Variable.name =
      es.flatMap fun e => e.vars.map fun v => v.name.string := by
  rw [List.map_flatMap, List.flatMap_map]
  refine congrArg (List.flatMap · es) (funext fun e => ?_)
  show (e.vars.map VarSpec.toVariable).map Template.Variable.name = _
  rw [List.map_map]
  rfl

/-- A standard template is accepted, and shows exactly the expressions, the
literals and the names that it was written with. -/
theorem parse_text_recovers {parts : List Part} (h : Separated parts) :
    ∃ t, Template.parse (String.ofList (text parts)) = .ok t ∧
      t.parts = parts.map Part.toPart ∧
      t.expressions.map outline = (expressions parts).map Expression.outline ∧
      t.parts.filterMap plain? = literals parts ∧
      Template.ByFirstAppearance t.variableNames (names parts) := by
  refine ⟨_, parse_text h, rfl, ?_, filterMap_plain?_toPart parts, ?_⟩
  · show ((parts.map Part.toPart).filterMap Template.Part.expression?).map outline = _
    rw [filterMap_expression?_toPart, List.map_map]
    exact List.map_congr_left fun e _ => outline_toExpression e
  · have hnames := Template.byFirstAppearance_variableNames
      ⟨String.ofList (text parts), parts.map Part.toPart⟩
    have hvars : (Template.vars ⟨String.ofList (text parts), parts.map Part.toPart⟩).map
        Template.Variable.name = names parts := by
      show (((parts.map Part.toPart).filterMap Template.Part.expression?).flatMap
        Template.Expression.vars).map Template.Variable.name = _
      rw [filterMap_expression?_toPart, map_name_toExpression]
      rfl
    rw [hvars] at hnames
    exact hnames

/-- The tree of `/users/{id}{?q*,id:3}`. -/
def userSearch : List Part :=
  let id := Name.ofRuns [['i', 'd']] (by decide)
  let q := Name.ofRuns [['q']] (by decide)
  [.literal ⟨"/users/".toList, by decide⟩,
    .expression ⟨.simple, ⟨id, .none⟩, []⟩,
    .expression ⟨.query, ⟨q, .explode⟩, [⟨id, .first 3 (by decide) (by decide)⟩]⟩]

theorem parse_text_recovers_userSearch :
    Separated userSearch ∧ ∃ t, Template.parse "/users/{id}{?q*,id:3}" = .ok t ∧
      t.expressions.map outline =
        [([], [("id", 0, false)]), (['?'], [("q", 0, true), ("id", 3, false)])] ∧
      t.parts.filterMap plain? = ["/users/".toList] ∧
      Template.ByFirstAppearance t.variableNames ["id", "q", "id"] := by
  have h : Separated userSearch := ⟨by decide, rfl, trivial⟩
  obtain ⟨t, ht, _, hexpressions, hliterals, hnames⟩ := parse_text_recovers h
  exact ⟨h, t, ht, hexpressions, hliterals, hnames⟩

end Standard
end RouteTemplate
