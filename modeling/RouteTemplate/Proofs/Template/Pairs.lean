/-
Mappings of texts, read back from a URL.

The keys of a mapping are written as names are, so the delimiters and the
triplets of a key stand as they are, while a value can hold nothing that acts as
syntax.  A mapping in a query is therefore read back just where its keys are
free of what acts as syntax there, and its values are of no account.  Nothing is
said of empty keys, behind which no separator is written.
-/
import RouteTemplate.Proofs.Percent.Fields
import RouteTemplate.Proofs.Template.Output
import RouteTemplate.Proofs.Template.Url
import RouteTemplate.Proofs.Template.Writing

namespace RouteTemplate

open Percent

namespace Value

/-- A mapping from texts to texts. -/
def ofTexts (d : List (String × String)) : Value := .map (d.map fun e => (.text e.1, .text e.2))

theorem simplify_ofTexts (d : List (String × String)) : (ofTexts d).simplify = ofTexts d := by
  have hentries : simplifyEntries (d.map fun e => (.text e.1, .text e.2)) =
      d.map fun e => (.text e.1, .text e.2) := by
    induction d with
    | nil => rfl
    | cons e d ih => exact congrArg ((Value.text e.1, Value.text e.2) :: ·) ih
  rw [ofTexts, simplify, hentries]

end Value

namespace Template

theorem encodeName_ne_nil {s : String} (hs : s ≠ "") : encodeName s ≠ [] := by
  refine Charset.encode_ne_nil .reserved fun h => hs ?_
  rw [← String.toList_inj, h]
  rfl

/-! ## The walk over a mapping of texts -/

section Walk

variable {op : Operator} {v : Variable} {sep : Char} {p : Place} {f : String × String → List Char}

theorem encodeEntries_texts {d : List (String × String)}
    (hf : ∀ e ∈ d, encodeText op v (p.entry op.named v.modifier (encodeName e.1)) e.2.toList =
      .ok (f e)) :
    encodeEntries op v sep p (d.map fun e => (.text e.1, .text e.2)) = .ok (d.map f) := by
  induction d with
  | nil => rfl
  | cons e d ih =>
    have he := hf e List.mem_cons_self
    have hd := ih fun c hc => hf c (List.mem_cons_of_mem e hc)
    rw [List.map_cons, encodeEntries_cons (encodeKey_text e.1), encodeValue, he, hd]
    rfl

/-- A mapping with entries comes to its entries, each written by `f`. -/
theorem encodeValue_ofTexts {d : List (String × String)} (hne : d ≠ [])
    (hf : ∀ e ∈ d, encodeText op v (p.entry op.named v.modifier (encodeName e.1)) e.2.toList =
      .ok (f e)) :
    encodeValue op v sep p (.ofTexts d) = .ok (some (List.intercalate [sep] (d.map f))) := by
  have hempty : (d.map fun e => ((.text e.1 : Value), (.text e.2 : Value))).isEmpty = false :=
    List.isEmpty_eq_false_iff.2 (List.map_eq_nil_iff.not.2 hne)
  rw [Value.ofTexts, encodeValue, encodeEntries_texts hf, hempty]
  rfl

end Walk

/-! ## Two templates for a mapping -/

section Url

variable {d : List (String × String)} (hne : d ≠ []) (hkeys : ∀ e ∈ d, e.1 ≠ "")

/-- The parameters with a mapping of texts under `d`. -/
def pairParams (d : List (String × String)) : Params := [("d", .ofTexts d)]

theorem expand_pairs {op : Operator} {m : Modifier} {t : Option (List Char)}
    (h : Variable.expand op ⟨"d", "d", m, none⟩ (.ofTexts d) = .ok t) :
    Expression.expand ⟨op, [⟨"d", "d", m, none⟩], none⟩ (pairParams d) =
      .ok (Expression.assemble ⟨op, [⟨"d", "d", m, none⟩], none⟩ t.toList) := by
  have hvalue : Variable.value ⟨"d", "d", m, none⟩ (pairParams d) = .ofTexts d :=
    Value.simplify_ofTexts d
  rw [Expression.expand, List.mapM_cons, hvalue, h]
  cases t <;> rfl

include hne hkeys

theorem expand_list_pairs :
    Variable.expand .simple ⟨"d", "d", .none, none⟩ (.ofTexts d) =
      .ok (some (List.intercalate [','] (d.flatMap itemTexts))) := by
  have hgroups : ∀ ss ∈ d.map itemTexts, ss ≠ [] :=
    List.forall_mem_map.2 fun e _ => List.cons_ne_nil _ _
  have hentry : ∀ e ∈ d, encodeText .simple ⟨"d", "d", .none, none⟩
      ((Place.start (encodeName "d")).entry false .none (encodeName e.1)) e.2.toList =
        .ok (List.intercalate [','] (itemTexts e)) := by
    intro e he
    rw [encodeText_whole fun n h => by cases h]
    show Except.ok (Place.qualify (encodeName e.1) ',' _) = _
    rw [Place.qualify_of_ne_nil (encodeName_ne_nil (hkeys e he)), encodeName, itemTexts,
      List.intercalate_cons_cons, List.intercalate_singleton, List.append_assoc]
    rfl
  rw [Variable.expand_of_ne_null _ _ (by cases ·), encodeValue_ofTexts hne hentry,
    List.flatMap_def, ← Text.intercalate_flatten ',' hgroups, List.map_map]
  rfl

theorem expand_query_pairs :
    Variable.expand .query ⟨"d", "d", .explode, none⟩ (.ofTexts d) =
      .ok (some (List.intercalate ['&'] (d.map fieldText))) := by
  have hentry : ∀ e ∈ d, encodeText .query ⟨"d", "d", .explode, none⟩
      ((Place.start (encodeName "d")).entry true .explode (encodeName e.1)) e.2.toList =
        .ok (fieldText e) := by
    intro e he
    rw [encodeText_whole fun n h => by cases h]
    show Except.ok (Place.qualify (encodeName e.1) '=' _) = _
    rw [Place.qualify_of_ne_nil (encodeName_ne_nil (hkeys e he)), encodeName]
    rfl
  rw [Variable.expand_of_ne_null _ _ (by cases ·), encodeValue_ofTexts hne hentry]
  rfl

/-- A mapping is read back from a list if its keys hold no comma and no triplet, and from a
query just where its keys hold no delimiter of queries and no triplet. -/
theorem url_pairs :
    (∃ u, url "{d}" (pairParams d) = .ok u ∧
      ((∀ e ∈ d, ',' ∉ e.1.toList ∧ holdsTriplet e.1.toList = false) →
        readItems? u.toList = some (d.flatMap fun e => [e.1, e.2]))) ∧
    ∃ u rest, url "{?d*}" (pairParams d) = .ok u ∧ u.toList = '?' :: rest ∧
      (readQuery? rest = some d ↔
        ∀ e ∈ d, '&' ∉ e.1.toList ∧ '=' ∉ e.1.toList ∧ holdsTriplet e.1.toList = false) := by
  have hadmissible : (pairParams d).Admissible := by
    intro e he
    rw [List.mem_singleton.1 he]
    show "d" ≠ "self"
    decide
  have hlist : parse "{d}" =
      .ok ⟨"{d}", [.expression ⟨.simple, [⟨"d", "d", .none, none⟩], none⟩]⟩ := rfl
  have hquery : parse "{?d*}" =
      .ok ⟨"{?d*}", [.expression ⟨.query, [⟨"d", "d", .explode, none⟩], none⟩]⟩ := rfl
  refine ⟨⟨_, url_of_expression hlist hadmissible (expand_pairs (expand_list_pairs hne hkeys)), ?_⟩,
    ⟨_, List.intercalate ['&'] (d.map fieldText),
      url_of_expression hquery hadmissible (expand_pairs (expand_query_pairs hne hkeys)), ?_,
      readQuery?_iff hne⟩⟩
  · intro h
    rw [String.toList_ofList]
    show readItems? (List.intercalate [','] [List.intercalate [','] (d.flatMap itemTexts)]) = _
    rw [List.intercalate_singleton]
    exact readItems?_itemTexts hne h
  · rw [String.toList_ofList]
    show '?' :: List.intercalate ['&'] [List.intercalate ['&'] (d.map fieldText)] = _
    rw [List.intercalate_singleton]

end Url

/-- Values that are full of syntax, one that is empty, and keys that have to be encoded. -/
theorem url_pairs_syntax :
    let d := [("é b", "x,y&z=%41"), ("k/", "")]
    (d ≠ [] ∧ ∀ e ∈ d, e.1 ≠ "") ∧
      (∃ u, url "{d}" (pairParams d) = .ok u ∧
        readItems? u.toList = some ["é b", "x,y&z=%41", "k/", ""]) ∧
      ∃ u rest, url "{?d*}" (pairParams d) = .ok u ∧ u.toList = '?' :: rest ∧
        readQuery? rest = some d := by
  intro d
  have hne : d ≠ [] := by decide
  have hkeys : ∀ e ∈ d, e.1 ≠ "" := by decide
  obtain ⟨⟨u, hu, hitems⟩, w, rest, hw, hrest, hquery⟩ := url_pairs hne hkeys
  exact ⟨⟨hne, hkeys⟩, ⟨u, hu, hitems (by decide)⟩, w, rest, hw, hrest, hquery.2 (by decide)⟩

/-- A key can forge a pair of a query, and one that holds a triplet is read as another.  In a
list a key can forge an item, and an empty one is lost. -/
theorem keys_act_as_syntax :
    (url "{?d*}" (pairParams [("a=1&b", "2")]) = .ok "?a=1&b=2" ∧
      readQuery? "a=1&b=2".toList = some [("a", "1"), ("b", "2")]) ∧
    (url "{?d*}" (pairParams [("%41", "x")]) = .ok "?%41=x" ∧
      readQuery? "%41=x".toList = some [("A", "x")]) ∧
    (url "{d}" (pairParams [("a,b", "c")]) = .ok "a,b,c" ∧
      readItems? "a,b,c".toList = some ["a", "b", "c"]) ∧
    url "{d}" (pairParams [("", "x")]) = .ok "x" ∧ readItems? "x".toList = some ["x"] := by
  refine ⟨⟨?_, by decide +kernel⟩, ⟨?_, by decide +kernel⟩, ⟨?_, by decide +kernel⟩, ?_,
    by decide +kernel⟩
  · exact Outcome.eq_ok_of_toOption (by decide +kernel)
  · exact Outcome.eq_ok_of_toOption (by decide +kernel)
  · exact Outcome.eq_ok_of_toOption (by decide +kernel)
  · exact Outcome.eq_ok_of_toOption (by decide +kernel)

end Template
end RouteTemplate
