/-
Queries give their parameters back.

A variable of a query comes to one field for each text that it stands for: one
for a scalar, one for each item of an exploded list, and none where it is
undefined.  The fields of a variable are joined as the variables are, so a query
is all its fields joined, and a name needs no encoding.  A query asks for no length,
so an integer of too many digits is all that can stop it.
-/
import RouteTemplate.Proofs.Percent.Fields
import RouteTemplate.Proofs.Standard.Refinement

namespace RouteTemplate

open Percent

namespace Text

/-- A group of texts joined, or nothing for an empty group. -/
def joined? (c : Char) (group : List (List Char)) : Option (List Char) :=
  if group = [] then none else some (List.intercalate [c] group)

theorem reduceOption_joined? (c : Char) (groups : List (List (List Char))) :
    (groups.map (joined? c)).reduceOption =
      (groups.filter fun g => !g.isEmpty).map (List.intercalate [c]) := by
  induction groups with
  | nil => rfl
  | cons g groups ih =>
    cases g with
    | nil => exact ih
    | cons s ss => exact congrArg (List.intercalate [c] (s :: ss) :: ·) ih

/-- Empty groups leave no trace when groups are joined. -/
theorem intercalate_reduceOption_joined? (c : Char) (groups : List (List (List Char))) :
    List.intercalate [c] (groups.map (joined? c)).reduceOption =
      List.intercalate [c] groups.flatten := by
  have hgroups : ∀ g ∈ groups.filter fun g => !g.isEmpty, g ≠ [] := by
    intro g hg
    have hempty := (List.mem_filter.1 hg).2
    rw [Bool.not_eq_true', List.isEmpty_eq_false_iff] at hempty
    exact hempty
  rw [reduceOption_joined?, intercalate_flatten c hgroups, List.flatten_filter_not_isEmpty]

theorem reduceOption_joined?_eq_nil_iff (c : Char) (groups : List (List (List Char))) :
    (groups.map (joined? c)).reduceOption = [] ↔ groups.flatten = [] := by
  rw [reduceOption_joined?, List.map_eq_nil_iff, List.filter_eq_nil_iff, List.flatten_eq_nil_iff]
  simp

end Text

/-! ## Texts of a parameter -/

/-- The texts that a parameter stands for in a query. -/
def Value.queryTexts : Value → List (List Char)
  | .null => []
  | .list xs => members xs
  | v => [v.scalarText]

namespace Standard

/-- A value that a query can hold: nothing, a scalar or, where it is exploded, a list of such. -/
def Modifier.holds (m : Modifier) : Value → Bool
  | .null => true
  | .list xs => m.explodes && xs.all fun x => x.isNull || x.isScalar
  | v => v.isScalar

theorem isFlat_of_holds {m : Modifier} {value : Value} (h : m.holds value = true) :
    value.isFlat = true := by
  cases value with
  | null => rfl
  | list xs => exact ((Bool.and_eq_true ..).mp h).2
  | bool _ | int _ | float _ | text _ => rfl
  | bytes _ | tuple _ | map _ => cases h

namespace VarSpec

variable (v : VarSpec)

/-- What a variable stands for; nothing where no value is given. -/
def value (p : Params) : Value := (p.lookup v.name.string).getD .null

/-- The fields that a variable comes to in a query. -/
def fields (p : Params) : List (String × String) :=
  (v.value p).queryTexts.map fun s => (v.name.string, String.ofList s)

theorem value_toVariable (p : Params) : v.toVariable.value p = (v.value p).simplify := by
  have hkey : v.toVariable.key = v.name.string := rfl
  rw [Template.Variable.value, value, hkey]
  cases p.lookup v.name.string <;> rfl

end VarSpec

/-! ## One variable -/

/-- The text of a field is the name and the equals sign, even where the value is empty. -/
theorem label_query (n : Name) (s : List Char) :
    Operator.query.row.label n.text s.isEmpty (Charset.unreserved.encode s) =
      fieldText (n.string, String.ofList s) := by
  have hname : (n.string, String.ofList s).1.toList = n.text := String.toList_ofList
  have hvalue : (n.string, String.ofList s).2.toList = s := String.toList_ofList
  rw [fieldText, hname, hvalue]
  exact Operator.query.label_encode rfl n.text fun h => by cases h

section Variable

variable {v : VarSpec}

theorem text?_query_text (hlength : v.modifier.length = 0) (s : List Char) :
    Operator.query.row.text? v (.text s) =
      Text.joined? '&' [fieldText (v.name.string, String.ofList s)] := by
  have hcut : v.modifier.cut s = s := by
    cases hm : v.modifier with
    | first n pos le =>
      rw [hm] at hlength
      exact absurd hlength (Nat.ne_of_gt pos)
    | none | explode => rfl
  have hwrite : Operator.query.row.write v (.text s) =
      Operator.query.row.label v.name.text s.isEmpty
        (Charset.unreserved.encode (v.modifier.cut s)) := rfl
  rw [Row.text?, if_neg (by cases ·), hwrite, hcut, label_query, Text.joined?,
    if_neg (List.cons_ne_nil _ _), List.intercalate_singleton]

theorem text?_query_list (hexplodes : v.modifier.explodes = true) (items : List (List Char)) :
    Operator.query.row.text? v (.ofItems items) =
      Text.joined? '&' (items.map fun s => fieldText (v.name.string, String.ofList s)) := by
  by_cases hitems : items = []
  · rw [hitems]
    rfl
  · have hfields : items.map (fun s => fieldText (v.name.string, String.ofList s)) ≠ [] :=
      List.map_eq_nil_iff.not.2 hitems
    rw [Binding.ofItems, if_neg hitems, Row.text?, if_neg (by cases ·), Row.write,
      if_pos hexplodes, Text.joined?, if_neg hfields]
    simp only [← label_query]
    rfl

/-- What the table gives for a value of a query is its fields, joined. -/
theorem text?_query (hlength : v.modifier.length = 0) {value : Value}
    (hvalue : v.modifier.holds value = true) :
    Operator.query.row.text? v (.ofValue value) = Text.joined? '&'
      (value.queryTexts.map fun s => fieldText (v.name.string, String.ofList s)) := by
  cases value with
  | null => rfl
  | bool b => exact text?_query_text hlength (Value.bool b).scalarText
  | int n => exact text?_query_text hlength (Value.int n).scalarText
  | float x => exact text?_query_text hlength (Value.float x).scalarText
  | text s => exact text?_query_text hlength (Value.text s).scalarText
  | list xs => exact text?_query_list ((Bool.and_eq_true ..).mp hvalue).1 (Value.members xs)
  | bytes _ | tuple _ | map _ => cases hvalue

theorem expand_query (hlength : v.modifier.length = 0) {p : Params}
    (hvalue : v.modifier.holds (v.value p) = true) (hw : (v.value p).isWritable = true) :
    v.toVariable.expand .query (v.toVariable.value p) =
      .ok (Text.joined? '&' ((v.fields p).map fieldText)) := by
  have hrefuses : ¬v.Refuses (.ofValue (v.value p)) := fun h => h.1 hlength
  have hexpand := expand_variable .query v (isFlat_of_holds hvalue) hw (by cases ·) hrefuses
  rw [text?_query hlength hvalue] at hexpand
  rw [v.value_toVariable, VarSpec.fields, List.map_map]
  exact hexpand

end Variable

theorem isPlain_name (n : Name) : '&' ∉ n.string.toList ∧ '=' ∉ n.string.toList ∧
    holdsTriplet n.string.toList = false := by
  have hnot : ∀ c, isUnreserved c = false → c ∉ n.string.toList := by
    intro c hc h
    rw [Name.string, String.toList_ofList] at h
    rw [n.isUnreserved_text c h] at hc
    cases hc
  exact ⟨hnot '&' rfl, hnot '=' rfl, holdsTriplet_of_not_mem (hnot '%' rfl)⟩

/-! ## Whole queries -/

/-- The text of a query over the given variables. -/
def querySource (specs : List VarSpec) : String :=
  String.ofList ('{' :: '?' :: List.intercalate [','] (specs.map VarSpec.text) ++ ['}'])

def queryFields (specs : List VarSpec) (p : Params) : List (String × String) :=
  specs.flatMap fun v => v.fields p

theorem parse_querySource (v : VarSpec) (vs : List VarSpec) :
    Template.parse (querySource (v :: vs)) = .ok ⟨querySource (v :: vs),
      [.expression (⟨.query, v, vs⟩ : Expression).toExpression]⟩ := by
  have hseparated : Separated [.expression ⟨.query, v, vs⟩] := trivial
  have hparse := parse_text hseparated
  have htext : text [.expression ⟨.query, v, vs⟩] =
      '{' :: '?' :: List.intercalate [','] ((v :: vs).map VarSpec.text) ++ ['}'] := by
    rw [text, List.flatMap_singleton]
    rfl
  rw [htext] at hparse
  exact hparse

theorem expand_query_expression {v : VarSpec} {vs : List VarSpec} {p : Params}
    (h : ∀ w ∈ v :: vs, w.modifier.length = 0 ∧ w.modifier.holds (w.value p) = true)
    (hw : ∀ w ∈ v :: vs, (w.value p).isWritable = true) :
    (⟨.query, v, vs⟩ : Expression).toExpression.expand p =
      .ok (if queryFields (v :: vs) p = [] then []
        else '?' :: List.intercalate ['&'] ((queryFields (v :: vs) p).map fieldText)) := by
  have htexts : (⟨.query, v, vs⟩ : Expression).toExpression.vars.mapM
      (fun w => w.expand .query (w.value p)) =
        .ok ((v :: vs).map fun w => Text.joined? '&' ((w.fields p).map fieldText)) :=
    Outcome.mapM_map_eq_ok fun w hmem => expand_query (h w hmem).1 (h w hmem).2 (hw w hmem)
  refine Outcome.bind_eq_ok.2 ⟨_, htexts, ?_⟩
  have hgroups : ((v :: vs).map fun w => Text.joined? '&' ((w.fields p).map fieldText)) =
      ((v :: vs).map fun w => (w.fields p).map fieldText).map (Text.joined? '&') := by
    rw [List.map_map]
    rfl
  have hfields : ((v :: vs).map fun w => (w.fields p).map fieldText).flatten =
      (queryFields (v :: vs) p).map fieldText := by
    rw [queryFields, List.map_flatMap, List.flatMap_def]
  have hjoin := Text.intercalate_reduceOption_joined? '&'
    ((v :: vs).map fun w => (w.fields p).map fieldText)
  have hnil := Text.reduceOption_joined?_eq_nil_iff '&'
    ((v :: vs).map fun w => (w.fields p).map fieldText)
  rw [hfields] at hjoin
  rw [hfields, List.map_eq_nil_iff] at hnil
  rw [assemble_toExpression, hgroups]
  simp only [hnil]
  show Except.ok (if _ then _ else '?' :: List.intercalate ['&'] _) = _
  rw [hjoin]

theorem url_query_of_not_isWritable {v : VarSpec} {vs : List VarSpec} {p : Params}
    (hp : p.Admissible)
    (h : ∀ w ∈ v :: vs, w.modifier.length = 0 ∧ w.modifier.holds (w.value p) = true)
    (hw : ∃ w ∈ v :: vs, (w.value p).isWritable = false) :
    Template.url (querySource (v :: vs)) p = .error .tooManyDigits := by
  have hvars : ∀ w, w ∈ Template.vars ⟨querySource (v :: vs),
      [Part.expression ⟨.query, v, vs⟩].map Part.toPart⟩ ↔ ∃ x ∈ v :: vs, x.toVariable = w := by
    intro w
    have hexpressions : expressions [.expression ⟨.query, v, vs⟩] = [⟨.query, v, vs⟩] := rfl
    rw [mem_vars_toPart, hexpressions]
    simp only [List.mem_singleton, exists_eq_left]
    rfl
  refine Template.url_eq_tooManyDigits (parse_querySource v vs) hp ?_ ?_
  · rintro w hmem ⟨hlength, _⟩
    obtain ⟨x, hx, rfl⟩ := (hvars w).1 hmem
    exact (isLength_iff x).1 hlength (h x hx).1
  · obtain ⟨w, hmem, hwritable⟩ := hw
    refine ⟨w.toVariable, (hvars _).2 ⟨w, hmem, rfl⟩, ?_⟩
    rw [w.value_toVariable, Value.isWritable_simplify_eq (isFlat_of_holds (h w hmem).2)]
    exact hwritable

/-- A query is empty where nothing is defined, and is else read back as its fields, if there is
no integer of too many digits to stop it. -/
theorem url_query_read_back {specs : List VarSpec} (hne : specs ≠ []) {p : Params}
    (hp : p.Admissible)
    (hspecs : ∀ v ∈ specs, v.modifier.length = 0 ∧ v.modifier.holds (v.value p) = true) :
    ((∀ v ∈ specs, (v.value p).isWritable = true) →
      ∃ u, Template.url (querySource specs) p = .ok u ∧
        if queryFields specs p = [] then u = ""
        else ∃ rest, u.toList = '?' :: rest ∧ readQuery? rest = some (queryFields specs p)) ∧
    ((∃ v ∈ specs, (v.value p).isWritable = false) →
      Template.url (querySource specs) p = .error .tooManyDigits) := by
  obtain ⟨v, vs, rfl⟩ := List.exists_cons_of_ne_nil hne
  refine ⟨fun hw => ⟨_, Template.url_of_expression (parse_querySource v vs) hp
    (expand_query_expression hspecs hw), ?_⟩, url_query_of_not_isWritable hp hspecs⟩
  by_cases hfields : queryFields (v :: vs) p = []
  · rw [if_pos hfields, if_pos hfields]
  · rw [if_neg hfields, if_neg hfields, String.toList_ofList]
    refine ⟨_, rfl, (readQuery?_iff hfields).2 fun e he => ?_⟩
    obtain ⟨w, _, hw⟩ := List.mem_flatMap.1 he
    obtain ⟨s, _, rfl⟩ := List.mem_map.1 hw
    exact isPlain_name w.name

/-- The variables of `{?q,tags*,n,page*,q}`. -/
def searchSpecs : List VarSpec :=
  let q := Name.ofRuns [['q']] (Eq.refl true)
  let tags := Name.ofRuns [['t', 'a', 'g', 's']] (Eq.refl true)
  let n := Name.ofRuns [['n']] (Eq.refl true)
  let page := Name.ofRuns [['p', 'a', 'g', 'e']] (Eq.refl true)
  [⟨q, .none⟩, ⟨tags, .explode⟩, ⟨n, .none⟩, ⟨page, .explode⟩, ⟨q, .none⟩]

/-- A text full of syntax, a list with a gap and an empty text, and a whole number as a fraction. -/
def searchParams : Params :=
  [("q", .text "é&=%41"), ("tags", .list [.text "a b", .null, .bool true, .text ""]),
    ("page", .float (.finite false ⟨4611686018427387904, by decide⟩))]

theorem url_query_read_back_search :
    (searchSpecs ≠ [] ∧ searchParams.Admissible ∧
      ∀ v ∈ searchSpecs, v.modifier.length = 0 ∧ v.modifier.holds (v.value searchParams) = true) ∧
    querySource searchSpecs = "{?q,tags*,n,page*,q}" ∧
    ∃ u rest, Template.url "{?q,tags*,n,page*,q}" searchParams = .ok u ∧ u.toList = '?' :: rest ∧
      readQuery? rest = some [("q", "é&=%41"), ("tags", "a b"), ("tags", "true"), ("tags", ""),
        ("page", "2"), ("q", "é&=%41")] := by
  have hne : searchSpecs ≠ [] := List.cons_ne_nil _ _
  have hadmissible : searchParams.Admissible := by decide
  have hspecs : ∀ v ∈ searchSpecs,
      v.modifier.length = 0 ∧ v.modifier.holds (v.value searchParams) = true := by decide +kernel
  have hsource : querySource searchSpecs = "{?q,tags*,n,page*,q}" := by decide +kernel
  have hfields : queryFields searchSpecs searchParams = [("q", "é&=%41"), ("tags", "a b"),
      ("tags", "true"), ("tags", ""), ("page", "2"), ("q", "é&=%41")] := by decide +kernel
  have hw : ∀ v ∈ searchSpecs, (v.value searchParams).isWritable = true := by decide +kernel
  obtain ⟨u, hu, h⟩ := (url_query_read_back hne hadmissible hspecs).1 hw
  rw [hfields, if_neg (List.cons_ne_nil _ _)] at h
  obtain ⟨rest, hrest, hread⟩ := h
  rw [hsource] at hu
  exact ⟨⟨hne, hadmissible, hspecs⟩, hsource, u, rest, hu, hrest, hread⟩

/-- One scalar is defined, and there is no query to read it from. -/
theorem no_query_of_long_number :
    let specs : List VarSpec := [⟨Name.ofRuns [['n']] (Eq.refl true), .none⟩]
    let p := Template.tooLongParams
    (p.Admissible ∧
      ∀ v ∈ specs, v.modifier.length = 0 ∧ v.modifier.holds (v.value p) = true) ∧
    querySource specs = "{?n}" ∧ Template.url "{?n}" p = .error .tooManyDigits := by
  intro specs p
  obtain ⟨t, ht, hvars⟩ : ∃ t, Template.parse "{?n}" = .ok t ∧
      t.vars = [⟨"n", "n", .none, none⟩] := ⟨_, rfl, rfl⟩
  have hp : p.Admissible := by decide
  refine ⟨⟨hp, fun v hv => ?_⟩, by decide, Template.url_of_tooLong ht hvars hp rfl⟩
  rw [List.mem_singleton.1 hv]
  exact ⟨rfl, rfl⟩

end Standard
end RouteTemplate
