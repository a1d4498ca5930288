/-
What an expansion is made of.

Whatever a template splices together, be it names, keys, positions, values or
the delimiters of its own, comes out as encoded text.  The invariant of the walk is
that a place holds encoded text.  It is kept on the way down, and what is
written at a place only adds an encoding to it.
-/
import Mathlib.Data.List.ReduceOption
import RouteTemplate.Proofs.Percent.Encoded
import RouteTemplate.Proofs.Template.Reading
import RouteTemplate.Template.Expansion

namespace RouteTemplate
namespace Template

open Percent

theorem encoded_digitChars (n : Nat) : Encoded (Decimal.digitChars n) := by
  refine encoded_of_forall fun c hc => isUriChar_of_isUnreserved (isUnreserved_of_isHexDigit ?_)
  have hdigit : c.isDigit = true := Nat.isDigit_of_mem_toDigits (by decide) (by decide) hc
  rw [isHexDigit, hdigit, Bool.true_or, Bool.true_or]

theorem encoded_encodeName (name : String) : Encoded (encodeName name) :=
  Charset.encoded_encode .reserved _

theorem encoded_encodeKey {key : Value} {k : List Char} (h : encodeKey key = .ok k) :
    Encoded k := by
  unfold encodeKey at h
  split at h
  · cases h
    exact .nil
  · obtain ⟨s, _, rfl⟩ := Outcome.map_eq_ok.1 h
    exact Charset.encoded_encode .reserved s

/-! ## Places -/

namespace Place

@[simp] theorem outermost_item (named : Bool) (m : Modifier) (p : Place) (i : Nat) :
    (p.item named m i).outermost = false := by
  cases named <;> cases m <;> rfl

@[simp] theorem outermost_entry (named : Bool) (m : Modifier) (p : Place)
    (k : List Char) : (p.entry named m k).outermost = false := by
  cases named <;> cases m <;> rfl

theorem qualify_of_ne_nil {lead : List Char} (h : lead ≠ []) (mark : Char) (text : List Char) :
    qualify lead mark text = lead ++ mark :: text := by
  rw [qualify, if_neg]
  rw [List.isEmpty_iff]
  exact h

structure Sound (p : Place) : Prop where
  name : Encoded p.name
  lead : Encoded p.lead
  mark : isUriChar p.mark = true

theorem encoded_qualify {lead text : List Char} {mark : Char} (hl : Encoded lead)
    (hm : isUriChar mark = true) (ht : Encoded text) : Encoded (qualify lead mark text) := by
  unfold qualify
  split
  · exact ht
  · exact hl.append (.char hm ht)

theorem encoded_bracket {lead text : List Char} (hl : Encoded lead) (ht : Encoded text) :
    Encoded (bracket lead text) := by
  unfold bracket
  split
  · exact ht
  · exact (hl.append (.char (by decide) ht)).append (encoded_singleton (by decide))

theorem sound_start {name : List Char} (h : Encoded name) : (start name).Sound :=
  ⟨h, .nil, rfl⟩

variable {p : Place}

theorem Sound.encoded_bracketName (h : p.Sound) : Encoded p.bracketName := by
  unfold bracketName
  split
  · exact h.lead
  · exact encoded_bracket h.lead h.name

theorem Sound.atText (h : p.Sound) (named : Bool) (m : Modifier) : (p.atText named m).Sound := by
  cases named with
  | false => exact h
  | true =>
    cases m with
    | index => exact ⟨h.name, h.encoded_bracketName, h.mark⟩
    | explode => exact ⟨h.name, encoded_qualify h.lead (by decide) h.name, h.mark⟩
    | none => exact h
    | first n => exact h

theorem Sound.entry (h : p.Sound) (named : Bool) (m : Modifier) {k : List Char}
    (hk : Encoded k) : (p.entry named m k).Sound := by
  have hdot : Encoded (qualify p.lead '.' k) := encoded_qualify h.lead (by decide) hk
  cases named with
  | true =>
    cases m with
    | index =>
      refine ⟨.nil, ?_, h.mark⟩
      show Encoded (if p.outermost then _ else _)
      split
      · exact hk
      · exact encoded_bracket h.encoded_bracketName hk
    | explode =>
      refine ⟨hk, ?_, h.mark⟩
      show Encoded (if p.outermost then _ else _)
      split
      · exact .nil
      · exact encoded_qualify h.lead (by decide) h.name
    | none => exact ⟨hk, hdot, rfl⟩
    | first n => exact ⟨hk, hdot, rfl⟩
  | false =>
    cases m with
    | index =>
      refine ⟨.nil, ?_, rfl⟩
      show Encoded (if p.outermost then _ else _)
      split
      · exact hk
      · exact encoded_bracket h.lead hk
    | explode => exact ⟨.nil, hdot, rfl⟩
    | none => exact ⟨.nil, hdot, rfl⟩
    | first n => exact ⟨.nil, hdot, rfl⟩

theorem Sound.item (h : p.Sound) (named : Bool) (m : Modifier) (i : Nat) :
    (p.item named m i).Sound := by
  have hn : Encoded (Decimal.digitChars i) := encoded_digitChars i
  cases named with
  | true =>
    cases m with
    | index => exact ⟨hn, h.encoded_bracketName, h.mark⟩
    | explode => exact ⟨h.name, h.lead, rfl⟩
    | none => exact ⟨h.name, h.lead, rfl⟩
    | first n => exact ⟨h.name, h.lead, rfl⟩
  | false =>
    cases m with
    | index =>
      refine ⟨.nil, ?_, h.mark⟩
      show Encoded (if p.lead.isEmpty then _ else _)
      split
      · exact .nil
      · exact encoded_bracket h.lead hn
    | explode => exact ⟨h.name, h.lead, rfl⟩
    | none => exact ⟨h.name, h.lead, rfl⟩
    | first n => exact ⟨h.name, h.lead, rfl⟩

end Place

/-! ## The walk -/

variable {op : Operator} {v : Variable} {sep : Char} {p : Place}

/-- A length cuts the text, and only the text of the variable itself. -/
theorem encodeText_first {n : Nat} (hm : v.modifier = .first n) (s : List Char) :
    encodeText op v p s =
      if p.outermost then .ok (Place.qualify p.lead p.mark (op.charset.encode (s.take n)))
      else .error (.lengthOfComposite v) := by
  have hat : p.atText op.named (.first n) = p := by
    cases h : op.named <;> rfl
  unfold encodeText
  rw [hm, hat]

/-- Without a length the whole text is written behind the lead of its place. -/
theorem encodeText_whole (hm : ∀ n, v.modifier ≠ .first n) (s : List Char) :
    encodeText op v p s =
      .ok (Place.qualify (p.atText op.named v.modifier).lead (p.atText op.named v.modifier).mark
        (op.charset.encode s)) := by
  unfold encodeText
  cases h : v.modifier with
  | first n => exact absurd h (hm n)
  | none => rfl
  | explode => rfl
  | index => rfl

theorem encoded_encodeText (hp : p.Sound) {s r : List Char} (h : encodeText op v p s = .ok r) :
    Encoded r := by
  by_cases hm : ∃ n, v.modifier = .first n
  · obtain ⟨n, hn⟩ := hm
    rw [encodeText_first hn] at h
    split at h
    · cases h
      exact Place.encoded_qualify hp.lead hp.mark (op.charset.encoded_encode _)
    · cases h
  · rw [encodeText_whole fun n hn => hm ⟨n, hn⟩] at h
    cases h
    have hat := hp.atText op.named v.modifier
    exact Place.encoded_qualify hat.lead hat.mark (op.charset.encoded_encode s)

theorem encoded_joinItems (hsep : isUriChar sep = true) {composite : Bool}
    {rs : List (List Char)} (h : ∀ r ∈ rs, Encoded r) :
    ∀ r ∈ joinItems sep composite rs, Encoded r := by
  intro r hr
  cases composite with
  | false => cases hr
  | true =>
    obtain rfl : List.intercalate [sep] rs = r := Option.some.inj hr
    exact encoded_intercalate hsep h

theorem encoded_encodeBytes (hp : p.Sound) {bs : List UInt8} {i : Nat} {rs : List (List Char)}
    (h : encodeBytes op v p i bs = .ok rs) : ∀ r ∈ rs, Encoded r := by
  induction bs generalizing i rs with
  | nil =>
    cases h
    exact fun r hr => absurd hr List.not_mem_nil
  | cons b bs ih =>
    obtain ⟨s, hs, h⟩ := Outcome.bind_eq_ok.1 h
    obtain ⟨ss, hss, h⟩ := Outcome.bind_eq_ok.1 h
    cases h
    intro r hr
    rcases List.mem_cons.1 hr with rfl | hr
    · exact encoded_encodeText (hp.item _ _ i) hs
    · exact ih hss r hr

/-- The text of a scalar, as the walk returns it. -/
theorem encoded_of_map_encodeText (hp : p.Sound) {s : List Char} {r : Option (List Char)}
    (h : (do return some (← encodeText op v p s)) = Except.ok r) : ∀ t ∈ r, Encoded t := by
  obtain ⟨u, hu, h⟩ := Outcome.bind_eq_ok.1 h
  cases h
  rintro t ⟨⟩
  exact encoded_encodeText hp hu

theorem encoded_of_written (hp : p.Sound) {value : Value} {r : Option (List Char)}
    (h : (do return some (← encodeText op v p (← writeValue value))) = Except.ok r) :
    ∀ t ∈ r, Encoded t := by
  obtain ⟨s, _, h⟩ := Outcome.bind_eq_ok.1 h
  exact encoded_of_map_encodeText hp h

mutual

theorem encoded_encodeValue {p : Place} (hsep : isUriChar sep = true) (hp : p.Sound) :
    ∀ {value : Value} {r : Option (List Char)},
      encodeValue op v sep p value = .ok r → ∀ t ∈ r, Encoded t
  | .null, _, h => by
    cases h
    exact fun t ht => by cases ht
  | .text s, _, h => encoded_of_map_encodeText hp h
  | .bool b, _, h => encoded_of_written hp h
  | .int n, _, h => encoded_of_written hp h
  | .float x, _, h => encoded_of_written hp h
  | .bytes bs, _, h => by
    obtain ⟨rs, hrs, h⟩ := Outcome.bind_eq_ok.1 h
    cases h
    exact encoded_joinItems hsep (encoded_encodeBytes hp hrs)
  | .list items, _, h => by
    obtain ⟨rs, hrs, h⟩ := Outcome.bind_eq_ok.1 h
    cases h
    exact encoded_joinItems hsep (encoded_encodeItems hsep hp hrs)
  | .tuple items, _, h => by
    obtain ⟨rs, hrs, h⟩ := Outcome.bind_eq_ok.1 h
    cases h
    exact encoded_joinItems hsep (encoded_encodeItems hsep hp hrs)
  | .map entries, _, h => by
    obtain ⟨rs, hrs, h⟩ := Outcome.bind_eq_ok.1 h
    cases h
    exact encoded_joinItems hsep (encoded_encodeEntries hsep hp hrs)
termination_by structural value => value

theorem encoded_encodeItems {p : Place} (hsep : isUriChar sep = true) (hp : p.Sound) :
    ∀ {items : List Value} {i : Nat} {rs : List (List Char)},
      encodeItems op v sep p i items = .ok rs → ∀ t ∈ rs, Encoded t
  | [], _, _, h => by
    cases h
    exact fun t ht => absurd ht List.not_mem_nil
  | item :: items, i, _, h => by
    obtain ⟨r, hr, h⟩ := Outcome.bind_eq_ok.1 h
    obtain ⟨rs, hrs, h⟩ := Outcome.bind_eq_ok.1 h
    cases h
    intro t ht
    rcases List.mem_append.1 ht with ht | ht
    · exact encoded_encodeValue hsep (hp.item _ _ i) hr t (Option.mem_toList.1 ht)
    · exact encoded_encodeItems hsep hp hrs t ht
termination_by structural items => items

theorem encoded_encodeEntries {p : Place} (hsep : isUriChar sep = true) (hp : p.Sound) :
    ∀ {entries : List (Value × Value)} {rs : List (List Char)},
      encodeEntries op v sep p entries = .ok rs → ∀ t ∈ rs, Encoded t
  | [], _, h => by
    cases h
    exact fun t ht => absurd ht List.not_mem_nil
  | (key, item) :: entries, _, h => by
    obtain ⟨k, hk, h⟩ := Outcome.bind_eq_ok.1 h
    obtain ⟨r, hr, h⟩ := Outcome.bind_eq_ok.1 h
    obtain ⟨rs, hrs, h⟩ := Outcome.bind_eq_ok.1 h
    cases h
    intro t ht
    rcases List.mem_append.1 ht with ht | ht
    · rw [Option.mem_toList] at ht
      exact encoded_encodeValue hsep (hp.entry _ _ (encoded_encodeKey hk)) hr t ht
    · exact encoded_encodeEntries hsep hp hrs t ht
termination_by structural entries => entries

end

/-! ## Variables, expressions, templates -/

/-- A value that is not nothing goes through the walk, and its name may be put in front. -/
theorem Variable.expand_of_ne_null (op : Operator) (v : Variable) {value : Value}
    (h : value ≠ .null) :
    v.expand op value =
      (encodeValue op v (if v.modifier.explodes then op.itemSeparator else ',')
        (Place.start (encodeName v.name)) value).map fun text =>
          if op.named && !v.modifier.explodes then nameText op (encodeName v.name) text
          else text := by
  cases value with
  | null => exact absurd rfl h
  | _ => rfl

/-- A composite without items comes to nothing, but `;` still writes the name. -/
theorem Variable.expand_of_empty (op : Operator) (v : Variable) {value : Value}
    (h : value = .list [] ∨ value = .map []) :
    v.expand op value =
      .ok (if op = .parameter ∧ v.modifier.explodes = false then some (encodeName v.name)
        else none) := by
  have hname : v.expand op value = .ok (if op.named && !v.modifier.explodes then
      nameText op (encodeName v.name) none else none) := by
    rcases h with rfl | rfl <;> rfl
  rw [hname]
  by_cases hop : op = .parameter
  · subst hop
    cases hexplodes : v.modifier.explodes with
    | true => rfl
    | false => rfl
  · have hnone : nameText op (encodeName v.name) none = none := if_neg hop
    rw [hnone, ite_self, if_neg fun h => hop h.1]

theorem Expression.assemble_of_ne_nil (e : Expression) {texts : List (List Char)}
    (h : texts ≠ []) :
    e.assemble texts =
      match e.closer with
      | some c => List.intercalate [e.operator.separator] texts ++ [c]
      | none => e.operator.lead ++ List.intercalate [e.operator.separator] texts := by
  cases texts with
  | nil => exact absurd rfl h
  | cons t ts => rfl

namespace Operator

theorem isUriChar_separator (op : Operator) : isUriChar op.separator = true := by
  cases op <;> decide

theorem isUriChar_itemSeparator (op : Operator) : isUriChar op.itemSeparator = true := by
  cases op <;> decide

theorem encoded_lead (op : Operator) : Encoded op.lead := by
  refine encoded_of_forall (List.all_eq_true.1 ?_)
  cases op <;> decide

end Operator

theorem encoded_nameText {op : Operator} {name : List Char} (hname : Encoded name)
    {text : Option (List Char)} (htext : ∀ t ∈ text, Encoded t) :
    ∀ t ∈ nameText op name text, Encoded t := by
  intro t ht
  match text, htext with
  | none, _ =>
    change t ∈ (if op = .parameter then some name else none) at ht
    split at ht
    · cases ht
      exact hname
    · cases ht
  | some [], _ =>
    obtain rfl : (if op = .parameter then name else name ++ ['=']) = t := Option.some.inj ht
    split
    · exact hname
    · exact hname.append (encoded_singleton (by decide))
  | some (c :: cs), htext =>
    obtain rfl : name ++ '=' :: c :: cs = t := Option.some.inj ht
    exact hname.append (.char (by decide) (htext _ rfl))

/-- What stands between the items of a variable's value. -/
theorem isUriChar_sep (op : Operator) (v : Variable) :
    isUriChar (if v.modifier.explodes then op.itemSeparator else ',') = true := by
  split
  · exact op.isUriChar_itemSeparator
  · decide

theorem encoded_variable_expand {op : Operator} {v : Variable} {value : Value}
    {r : Option (List Char)} (h : v.expand op value = .ok r) : ∀ t ∈ r, Encoded t := by
  by_cases hnull : value = .null
  · subst hnull
    cases h
    exact fun t ht => by cases ht
  · rw [Variable.expand_of_ne_null op v hnull] at h
    obtain ⟨text, htext, rfl⟩ := Outcome.map_eq_ok.1 h
    have hname := encoded_encodeName v.name
    have hall := encoded_encodeValue (isUriChar_sep op v) (Place.sound_start hname) htext
    split
    · exact encoded_nameText hname hall
    · exact hall

theorem encoded_assemble {e : Expression} (hcloser : ∀ c ∈ e.closer, isUriChar c = true)
    {texts : List (List Char)} (h : ∀ t ∈ texts, Encoded t) : Encoded (e.assemble texts) := by
  by_cases hne : texts = []
  · subst hne
    exact .nil
  · have hbody := encoded_intercalate e.operator.isUriChar_separator h
    rw [e.assemble_of_ne_nil hne]
    split
    · exact hbody.append (encoded_singleton (hcloser _ ‹_›))
    · exact e.operator.encoded_lead.append hbody

theorem encoded_expression_expand {e : Expression} (hcloser : ∀ c ∈ e.closer, isUriChar c = true)
    {params : Params} {s : List Char} (h : e.expand params = .ok s) : Encoded s := by
  obtain ⟨texts, htexts, h⟩ := Outcome.bind_eq_ok.1 h
  cases h
  refine encoded_assemble hcloser fun t ht => ?_
  obtain ⟨v, _, hv⟩ := Outcome.exists_mem_of_mapM_eq_ok htexts (List.reduceOption_mem_iff.1 ht)
  exact encoded_variable_expand hv t rfl

/-- A separator that may close an expression may also stand in a URI. -/
theorem isUriChar_closer {source : String} {t : Template} (ht : parse source = .ok t)
    {e : Expression} (he : e ∈ t.expressions) : ∀ c ∈ e.closer, isUriChar c = true := by
  obtain ⟨body, hbody⟩ := exists_readExpression_of_mem ht he
  obtain ⟨rest, specs, _, hcloser, _⟩ := readExpression_eq_ok hbody
  intro c hc
  rw [Option.mem_def.1 hc] at hcloser
  have hmem := List.contains_iff_mem.1 (splitCloser_contains hcloser)
  simp only [List.mem_cons, List.not_mem_nil, or_false] at hmem
  rcases hmem with rfl | rfl | rfl | rfl | rfl <;> decide

theorem encoded_expand {source : String} {t : Template} (ht : parse source = .ok t)
    {params : Params} {u : String} (h : t.expand params = .ok u) : Encoded u.toList := by
  obtain ⟨texts, htexts, h⟩ := Outcome.bind_eq_ok.1 h
  cases h
  rw [String.toList_ofList]
  refine encoded_flatten fun s hs => ?_
  obtain ⟨part, hpart, hexpand⟩ := Outcome.exists_mem_of_mapM_eq_ok htexts hs
  cases part with
  | literal l =>
    cases hexpand
    exact Charset.encoded_encode .reserved l
  | expression e =>
    have he : e ∈ t.expressions := List.mem_filterMap.2 ⟨_, hpart, rfl⟩
    exact encoded_expression_expand (isUriChar_closer ht he) hexpand

end Template
end RouteTemplate
