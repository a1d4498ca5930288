/-
The walk and the loop over the table expand every standard template alike.

The walk gathers the texts of an expression and joins them; the loop writes a
separator before each defined variable but the first.  What they share is the
list of texts that the row gives for the variables of the expression.  The table
knows no failure: where a length meets a composite the walk is refused, and where
an integer has too many digits to be written it stops.
-/
import RouteTemplate.Proofs.Standard.Variable

namespace RouteTemplate
namespace Standard

/-! ## Sequences of parts as they are read -/

section Join

variable (l : Literal) (parts : List Part)

/-- A literal is put before the literal that stands there, or is none, or stands alone. -/
theorem consLiteral_cases :
    (∃ m j rest, parts = .literal m :: rest ∧ j.text = l.text ++ m.text ∧
      consLiteral l parts = .literal j :: rest) ∨
    (l.text = [] ∧ consLiteral l parts = parts) ∨
    (l.text ≠ [] ∧ startsWithLiteral parts = false ∧
      consLiteral l parts = .literal l :: parts) := by
  by_cases hl : l.text = []
  · match parts with
    | [] => exact Or.inr (Or.inl ⟨hl, if_pos hl⟩)
    | .expression e :: rest => exact Or.inr (Or.inl ⟨hl, if_pos hl⟩)
    | .literal m :: rest => exact Or.inl ⟨m, _, rest, rfl, rfl, rfl⟩
  · match parts with
    | [] => exact Or.inr (Or.inr ⟨hl, rfl, if_neg hl⟩)
    | .expression e :: rest => exact Or.inr (Or.inr ⟨hl, rfl, if_neg hl⟩)
    | .literal m :: rest => exact Or.inl ⟨m, _, rest, rfl, rfl, rfl⟩

theorem text_consLiteral : text (consLiteral l parts) = l.text ++ text parts := by
  rcases consLiteral_cases l parts with ⟨m, j, rest, rfl, hj, h⟩ | ⟨hl, h⟩ | ⟨_, _, h⟩
  · rw [h]
    show j.text ++ text rest = l.text ++ (m.text ++ text rest)
    rw [hj, List.append_assoc]
  · rw [h, hl, List.nil_append]
  · rw [h]
    rfl

theorem separated_consLiteral {parts : List Part} (hparts : Separated parts) :
    Separated (consLiteral l parts) := by
  rcases consLiteral_cases l parts with ⟨m, j, rest, rfl, hj, h⟩ | ⟨_, h⟩ | ⟨hl, hstart, h⟩
  · rw [h]
    obtain ⟨hm, hrest⟩ := hparts
    refine ⟨?_, hrest⟩
    rw [hj]
    exact List.append_ne_nil_of_right_ne_nil _ hm
  · rw [h]
    exact hparts
  · rw [h]
    exact ⟨hl, hstart, hparts⟩

theorem expressions_consLiteral : expressions (consLiteral l parts) = expressions parts := by
  rcases consLiteral_cases l parts with ⟨m, j, rest, rfl, _, h⟩ | ⟨_, h⟩ | ⟨_, _, h⟩
  · rw [h]
    rfl
  · rw [h]
  · rw [h]
    rfl

theorem text_joinLiterals : text (joinLiterals parts) = text parts := by
  induction parts with
  | nil => rfl
  | cons part rest ih =>
    cases part with
    | literal l =>
      rw [joinLiterals, text_consLiteral, ih]
      rfl
    | expression e => exact congrArg ((Template.Segment.braced e.body).source ++ ·) ih

theorem separated_joinLiterals : Separated (joinLiterals parts) := by
  induction parts with
  | nil => exact trivial
  | cons part rest ih =>
    cases part with
    | literal l => exact separated_consLiteral l ih
    | expression e => exact ih

theorem expressions_joinLiterals : expressions (joinLiterals parts) = expressions parts := by
  induction parts with
  | nil => rfl
  | cons part rest ih =>
    cases part with
    | literal l =>
      rw [joinLiterals, expressions_consLiteral, ih]
      rfl
    | expression e => exact congrArg (e :: ·) ih

end Join

/-! ## The loop -/

namespace Row

variable (r : Row) (env : Name → Binding)

/-- The texts that the row gives for the variables that are defined. -/
def texts (vs : List VarSpec) : List (List Char) :=
  (vs.map fun v => r.text? v (env v.name)).reduceOption

theorem loop_true (vs : List VarSpec) :
    r.loop env true vs = (r.texts env vs).flatMap fun t => r.sep :: t := by
  induction vs with
  | nil => rfl
  | cons v vs ih =>
    rw [loop, texts, List.map_cons, text?]
    split
    · exact ih
    · rw [List.reduceOption_cons_of_some, List.flatMap_cons, ih, if_pos rfl]
      rfl

/-- The loop over the table joins the texts of the variables behind what comes first. -/
theorem loop_false (vs : List VarSpec) :
    r.loop env false vs =
      if r.texts env vs = [] then [] else r.first ++ List.intercalate [r.sep] (r.texts env vs) := by
  induction vs with
  | nil => rfl
  | cons v vs ih =>
    rw [loop, texts, List.map_cons, text?]
    split
    · exact ih
    · rw [List.reduceOption_cons_of_some, if_neg (List.cons_ne_nil _ _), loop_true,
        Text.intercalate_cons, List.append_assoc]
      rfl

end Row

/-! ## Expressions -/

theorem assemble_toExpression (e : Expression) (texts : List (List Char)) :
    e.toExpression.assemble texts =
      if texts = [] then []
      else e.operator.row.first ++ List.intercalate [e.operator.row.sep] texts := by
  by_cases h : texts = []
  · rw [h]
    rfl
  · rw [if_neg h, ← e.operator.lead_toOperator, ← e.operator.separator_toOperator]
    exact e.toExpression.assemble_of_ne_nil h

theorem isFlat_of_lookup {p : Params} (hflat : ∀ e ∈ p, e.2.isFlat = true) {key : String}
    {value : Value} (h : p.lookup key = some value) : value.isFlat = true := by
  obtain ⟨l₁, l₂, rfl, _⟩ := List.lookup_eq_some_iff.1 h
  exact hflat (key, value) (List.mem_append_right l₁ List.mem_cons_self)

section Expand

variable {p : Params} (hflat : ∀ e ∈ p, e.2.isFlat = true)
include hflat

theorem expand_bound (op : Operator) (v : VarSpec)
    (hw : ∀ value ∈ p.lookup v.name.string, value.isWritable = true)
    (hsolid : op = .parameter → ∀ value ∈ p.lookup v.name.string, Solid v.modifier value)
    (h : ¬v.Refuses (bind p v.name)) :
    v.toVariable.expand op.toOperator (v.toVariable.value p) =
      .ok (op.row.text? v (bind p v.name)) := by
  have hkey : v.toVariable.key = v.name.string := rfl
  rw [bind] at h ⊢
  rw [Template.Variable.value, hkey]
  cases hvalue : p.lookup v.name.string with
  | none => rfl
  | some value =>
    rw [hvalue] at h
    exact expand_variable op v (isFlat_of_lookup hflat hvalue) (hw value hvalue)
      (fun hop => hsolid hop value hvalue) h

theorem expand_expression {e : Expression}
    (hw : ∀ v ∈ e.vars, ∀ value ∈ p.lookup v.name.string, value.isWritable = true)
    (hsolid : e.operator = .parameter →
      ∀ v ∈ e.vars, ∀ value ∈ p.lookup v.name.string, Solid v.modifier value)
    (h : ∀ v ∈ e.vars, ¬v.Refuses (bind p v.name)) :
    e.toExpression.expand p = .ok (e.operator.row.loop (bind p) false e.vars) := by
  have htexts : e.toExpression.vars.mapM
      (fun v => v.expand e.operator.toOperator (v.value p)) =
        .ok (e.vars.map fun v => e.operator.row.text? v (bind p v.name)) :=
    Outcome.mapM_map_eq_ok fun v hv =>
      expand_bound hflat _ v (hw v hv) (fun hop => hsolid hop v hv) (h v hv)
  refine Outcome.bind_eq_ok.2 ⟨_, htexts, ?_⟩
  rw [Row.loop_false, Row.texts, ← assemble_toExpression e]
  rfl

/-! ## Templates -/

theorem expand_toPart {source : String} {parts : List Part} (hw : Writable p parts)
    (hsolid : SolidUnderParameter p parts) (h : ¬LengthMeetsComposite (bind p) parts) :
    Template.expand ⟨source, parts.map Part.toPart⟩ p =
      .ok (String.ofList (parts.flatMap (expandPart (bind p)))) := by
  have htexts : (parts.map Part.toPart).mapM (Template.Part.expand p) =
      .ok (parts.map (expandPart (bind p))) := by
    refine Outcome.mapM_map_eq_ok fun part hpart => ?_
    cases part with
    | literal l => rfl
    | expression e =>
      have he : e ∈ expressions parts := List.mem_filterMap.2 ⟨_, hpart, rfl⟩
      refine expand_expression hflat (hw e he) (hsolid e he) fun v hv hrefuses => ?_
      exact h ⟨e, he, v, hv, hrefuses⟩
  refine Outcome.bind_eq_ok.2 ⟨_, htexts, ?_⟩
  rw [List.flatMap_def]
  rfl

end Expand

/-! ## What the walk stops at -/

section Stops

variable {source : String} {parts : List Part} {p : Params}

theorem mem_vars_toPart {w : Template.Variable} :
    w ∈ Template.vars ⟨source, parts.map Part.toPart⟩ ↔
      ∃ e ∈ expressions parts, ∃ v ∈ e.vars, v.toVariable = w := by
  have hexpressions : Template.expressions ⟨source, parts.map Part.toPart⟩ =
      (expressions parts).map Expression.toExpression := by
    rw [Template.expressions, List.filterMap_map, expressions, List.map_filterMap]
    refine List.filterMap_congr fun part _ => ?_
    cases part <;> rfl
  simp only [Template.vars, hexpressions, List.mem_flatMap, List.mem_map, exists_exists_and_eq_and]
  exact exists_congr fun e => and_congr_right fun _ => List.mem_map

theorem refused_toPart_iff (source : String) (hflat : ∀ e ∈ p, e.2.isFlat = true) :
    (∃ w ∈ Template.vars ⟨source, parts.map Part.toPart⟩, w.Refused p) ↔
      LengthMeetsComposite (bind p) parts := by
  have hrefused : ∀ v : VarSpec, v.toVariable.Refused p ↔ v.Refuses (bind p v.name) :=
    fun v => refused_iff v fun _ hvalue => isFlat_of_lookup hflat hvalue
  constructor
  · rintro ⟨w, hw, h⟩
    obtain ⟨e, he, v, hv, rfl⟩ := mem_vars_toPart.1 hw
    exact ⟨e, he, v, hv, (hrefused v).1 h⟩
  · rintro ⟨e, he, v, hv, h⟩
    exact ⟨v.toVariable, mem_vars_toPart.2 ⟨e, he, v, hv, rfl⟩, (hrefused v).2 h⟩

theorem writableIn_toPart (h : Writable p parts) :
    p.WritableIn ⟨source, parts.map Part.toPart⟩ := by
  intro w hw
  obtain ⟨e, he, v, hv, rfl⟩ := mem_vars_toPart.1 hw
  exact h e he v hv

theorem exists_not_isWritable (hflat : ∀ e ∈ p, e.2.isFlat = true) (h : ¬Writable p parts) :
    ∃ w ∈ Template.vars ⟨source, parts.map Part.toPart⟩, (w.value p).isWritable = false := by
  rw [Writable] at h
  push Not at h
  obtain ⟨e, he, v, hv, value, hvalue, hwritable⟩ := h
  have hkey : v.toVariable.key = v.name.string := rfl
  refine ⟨v.toVariable, mem_vars_toPart.2 ⟨e, he, v, hv, rfl⟩, ?_⟩
  rw [Template.Variable.value, hkey, Option.mem_def.1 hvalue]
  show value.simplify.isWritable = false
  rw [Value.isWritable_simplify_eq (isFlat_of_lookup hflat hvalue)]
  exact Bool.eq_false_iff.2 hwritable

end Stops

/-- A reader sees one literal where the tree has several, and nothing where one is empty. -/
theorem parse_text_joinLiterals (parts : List Part) :
    Template.parse (String.ofList (text parts)) =
      .ok ⟨String.ofList (text parts), (joinLiterals parts).map Part.toPart⟩ := by
  rw [← text_joinLiterals parts]
  exact parse_text (separated_joinLiterals parts)

/-- A standard template with flat parameters is expanded as the table has it, and is refused
where a length meets a composite.  An integer of too many digits stops it, if nothing is
refused before. -/
theorem url_refines_table {p : Params} {parts : List Part} (hadmissible : p.Admissible)
    (hflat : ∀ e ∈ p, e.2.isFlat = true) (hsolid : SolidUnderParameter p parts) :
    let source := String.ofList (text parts)
    (Writable p parts → Template.url source p ≠ .error .tooManyDigits) ∧
    (¬LengthMeetsComposite (bind p) parts → ¬Writable p parts →
      Template.url source p = .error .tooManyDigits) ∧
    (Template.url source p ≠ .error .tooManyDigits →
      ((∃ v, Template.url source p = .error (.lengthOfComposite source v)) ↔
        LengthMeetsComposite (bind p) parts) ∧
      (¬LengthMeetsComposite (bind p) parts →
        Template.url source p = .ok (String.ofList (expand (bind p) parts)))) := by
  intro source
  have hread : Template.parse source = .ok ⟨source, (joinLiterals parts).map Part.toPart⟩ :=
    parse_text_joinLiterals parts
  have hmeets : LengthMeetsComposite (bind p) (joinLiterals parts) ↔
      LengthMeetsComposite (bind p) parts := by
    rw [LengthMeetsComposite, expressions_joinLiterals, LengthMeetsComposite]
  have hwritable : Writable p (joinLiterals parts) ↔ Writable p parts := by
    rw [Writable, expressions_joinLiterals, Writable]
  have hjoin : SolidUnderParameter p (joinLiterals parts) := by
    rw [SolidUnderParameter, expressions_joinLiterals]
    exact hsolid
  have hrefused := (refused_toPart_iff source hflat).trans hmeets
  have hstops : ¬LengthMeetsComposite (bind p) parts → ¬Writable p parts →
      Template.url source p = .error .tooManyDigits := fun h hw =>
    Template.url_eq_tooManyDigits hread hadmissible
      (fun v hv hrefuses => h (hrefused.1 ⟨v, hv, hrefuses⟩))
      (exists_not_isWritable hflat (hwritable.not.2 hw))
  refine ⟨fun hw => ?_, hstops, fun hdigits => ⟨?_, fun h => ?_⟩⟩
  · exact Template.url_ne_tooManyDigits hread hadmissible (writableIn_toPart (hwritable.2 hw))
  · rw [Template.exists_lengthOfComposite_iff hread hadmissible hdigits, hrefused]
  · have hw : Writable p parts := Decidable.not_not.1 fun hw => hdigits (hstops h hw)
    rw [Template.url_eq_ok_iff hread hadmissible]
    exact expand_toPart hflat (hwritable.2 hw) hjoin (hmeets.not.2 h)

/-- The tree of `/%41{;at*,tags}{?term:2,limit}`, where a triplet lies across two literals. -/
def itemSearch : List Part :=
  let place := Name.ofRuns [['a', 't']] (by decide)
  let tags := Name.ofRuns [['t', 'a', 'g', 's']] (by decide)
  let term := Name.ofRuns [['t', 'e', 'r', 'm']] (by decide)
  let limit := Name.ofRuns [['l', 'i', 'm', 'i', 't']] (by decide)
  [.literal ⟨"/%".toList, by decide⟩, .literal ⟨"41".toList, by decide⟩,
    .expression ⟨.parameter, ⟨place, .explode⟩, [⟨tags, .none⟩]⟩,
    .expression ⟨.query, ⟨term, .first 2 (by decide) (by decide)⟩, [⟨limit, .none⟩]⟩]

/-- A mapping with a gap and a fraction, a list with a gap, and `term` for what is searched. -/
def itemParams (term : Value) : Params :=
  [("at", .map [(.text "x", .float (.finite false ⟨4609434218613702656, by decide⟩)),
      (.text "y", .null), (.text "z", .int (-3))]),
    ("tags", .list [.text "a/b", .null, .bool true]), ("term", term), ("limit", .null)]

theorem url_refines_table_itemSearch :
    ((itemParams (.text "é b")).Admissible ∧
      (∀ e ∈ itemParams (.text "é b"), e.2.isFlat = true) ∧
      SolidUnderParameter (itemParams (.text "é b")) itemSearch) ∧
    Template.url "/%41{;at*,tags}{?term:2,limit}" (itemParams (.text "é b")) =
      .ok "/%41;x=1.5;z=-3;tags=a%2Fb,true?term=%C3%A9%20" ∧
    ∃ v, Template.url "/%41{;at*,tags}{?term:2,limit}" (itemParams (.list [.null, .text "é"])) =
      .error (.lengthOfComposite "/%41{;at*,tags}{?term:2,limit}" v) := by
  have hadmissible : (itemParams (.text "é b")).Admissible := by decide
  have hflat : ∀ e ∈ itemParams (.text "é b"), e.2.isFlat = true := by decide
  have hsolid : SolidUnderParameter (itemParams (.text "é b")) itemSearch := by decide +kernel
  have hsource : String.ofList (text itemSearch) = "/%41{;at*,tags}{?term:2,limit}" := by decide
  have hexpand : String.ofList (expand (bind (itemParams (.text "é b"))) itemSearch) =
      "/%41;x=1.5;z=-3;tags=a%2Fb,true?term=%C3%A9%20" := by decide +kernel
  refine ⟨⟨hadmissible, hflat, hsolid⟩, ?_, ?_⟩
  · obtain ⟨hok, _, htable⟩ := url_refines_table hadmissible hflat hsolid
    rw [← hsource, ← hexpand]
    exact (htable (hok (by decide +kernel))).2 (by decide +kernel)
  · obtain ⟨hok, _, htable⟩ := url_refines_table (p := itemParams (.list [.null, .text "é"]))
      (by decide) (by decide) (by decide +kernel : SolidUnderParameter _ itemSearch)
    rw [← hsource]
    exact (htable (hok (by decide +kernel))).1.2 (by decide +kernel)

/-- The table has a URL where there is none. -/
theorem table_writes_all_digits :
    let n := Name.ofRuns [['n']] (Eq.refl true)
    let parts : List Part := [.literal ⟨['/'], by decide⟩, .expression ⟨.simple, ⟨n, .none⟩, []⟩]
    let p := Template.tooLongParams
    (p.Admissible ∧ (∀ e ∈ p, e.2.isFlat = true) ∧ SolidUnderParameter p parts) ∧
      String.ofList (text parts) = "/{n}" ∧ ¬LengthMeetsComposite (bind p) parts ∧
      Template.url "/{n}" p = .error .tooManyDigits := by
  intro n parts p
  obtain ⟨t, ht, hvars⟩ : ∃ t, Template.parse "/{n}" = .ok t ∧
      t.vars = [⟨"n", "n", .none, none⟩] := ⟨_, rfl, rfl⟩
  have hp : p.Admissible := by decide
  have hflat : ∀ e ∈ p, e.2.isFlat = true := by
    intro e he
    rw [List.mem_singleton.1 he]
    rfl
  have hoperator : ∀ e ∈ expressions parts, e.operator ≠ .parameter := by decide
  refine ⟨⟨hp, hflat, fun e he hop => absurd hop (hoperator e he)⟩, by decide, ?_,
    Template.url_of_tooLong ht hvars hp rfl⟩
  rintro ⟨e, he, v, hv, hlength, _⟩
  have hlengths : ∀ e ∈ expressions parts, ∀ v ∈ e.vars, v.modifier.length = 0 := by decide
  exact hlength (hlengths e he v hv)

end Standard
end RouteTemplate
