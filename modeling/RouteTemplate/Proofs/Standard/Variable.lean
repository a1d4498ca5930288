/-
One variable: the walk over its value and the row of the table come to the same
text.

The walk puts a lead in front of a text and the row writes a name, so the names
that stand in a tree and the keys of a mapping have to be texts that no encoding
changes.  The two part where a composite under `;` holds an empty text, and there
`Solid` is asked for.
-/
import RouteTemplate.Proofs.Standard.Flat
import RouteTemplate.Proofs.Standard.RoundTrip
import RouteTemplate.Proofs.Template.Refusal

namespace RouteTemplate

open Template (Place)
open Percent (isUnreserved)

namespace Standard

/-! ## Names -/

theorem literalText_eq_self {s : List Char} (h : ∀ c ∈ s, isUnreserved c = true) :
    literalText s = s := Charset.encode_eq_self .reserved h

namespace Name

theorem isUnreserved_text (n : Name) : ∀ c ∈ n.text, isUnreserved c = true := by
  intro c hc
  rcases n.mem_text c hc with hw | rfl
  · rw [Template.isWordChar, Bool.or_eq_true, decide_eq_true_eq] at hw
    rcases hw with hw | rfl
    · rw [isUnreserved, hw, Bool.true_or]
    · rfl
  · rfl

theorem encodeName_string (n : Name) : Template.encodeName n.string = n.text :=
  Template.encodeName_ofList n.isUnreserved_text

end Name

/-! ## The table -/

namespace Operator

variable (op : Operator)

theorem lead_toOperator : op.toOperator.lead = op.row.first := by cases op <;> rfl

theorem separator_toOperator : op.toOperator.separator = op.row.sep := by cases op <;> rfl

theorem itemSeparator_toOperator : op.toOperator.itemSeparator = op.row.sep := by
  cases op <;> rfl

theorem named_toOperator : op.toOperator.named = op.row.named := by cases op <;> rfl

theorem charset_toOperator : op.toOperator.charset = op.row.allowed := by cases op <;> rfl

theorem toOperator_eq_parameter_iff : op.toOperator = .parameter ↔ op = .parameter := by
  cases op <;> decide

/-- An operator that writes names encodes every character that is not unreserved. -/
theorem encode_eq_nil_iff_of_named (h : op.row.named = true) {s : List Char} :
    op.row.allowed.encode s = [] ↔ s = [] := by
  have hallowed : op.row.allowed = .unreserved := by
    cases op <;> first | rfl | cases h
  rw [hallowed]
  exact Percent.encodeAll_eq_nil_iff

end Operator

/-! ## Names in front of texts -/

theorem Modifier.cut_eq_nil_iff (m : Modifier) {s : List Char} : m.cut s = [] ↔ s = [] := by
  cases m with
  | first n pos le =>
    rw [cut, List.take_eq_nil_iff]
    exact ⟨fun h => h.resolve_left (by omega), Or.inr⟩
  | none => exact Iff.rfl
  | explode => exact Iff.rfl

namespace Operator

variable (op : Operator)

theorem ifEmpty_of_ne_parameter (h : op.row.named = true) (hop : op ≠ .parameter) :
    op.row.ifEmpty = ['='] := by
  cases op with
  | parameter => exact absurd rfl hop
  | query | continuation => rfl
  | _ => cases h

/-- The equals sign always stands where `;` is given no empty text. -/
theorem ite_ifEmpty (h : op.row.named = true) {s shown : List Char}
    (hs : op = .parameter → s ≠ []) (hshown : s = [] → shown = []) :
    (if s.isEmpty then op.row.ifEmpty else '=' :: shown) = '=' :: shown := by
  cases s with
  | cons c cs => rfl
  | nil =>
    have hop : op ≠ .parameter := fun hop => hs hop rfl
    rw [hshown rfl]
    exact op.ifEmpty_of_ne_parameter h hop

theorem label_encode (h : op.row.named = true) (name : List Char) {s : List Char}
    (hs : op = .parameter → s ≠ []) :
    op.row.label name s.isEmpty (op.row.allowed.encode s) =
      literalText name ++ '=' :: op.row.allowed.encode s := by
  have hnil : s = [] → op.row.allowed.encode s = [] := by
    rintro rfl
    cases op.row.allowed <;> rfl
  rw [Row.label, op.ite_ifEmpty h hs hnil]

theorem nameText_toOperator (h : op.row.named = true) (name shown : List Char) :
    Template.nameText op.toOperator name (some shown) =
      some (name ++ if shown.isEmpty then op.row.ifEmpty else '=' :: shown) := by
  cases shown with
  | cons c cs => rfl
  | nil =>
    cases op with
    | parameter => exact congrArg some (List.append_nil _).symm
    | query | continuation => rfl
    | _ => cases h

theorem nameText_of_ne_nil (h : op.row.named = true) (name : List Char) {shown : List Char}
    (hs : op = .parameter → shown ≠ []) :
    Template.nameText op.toOperator name (some shown) = some (name ++ '=' :: shown) := by
  rw [op.nameText_toOperator h, op.ite_ifEmpty h hs id]

theorem nameText_eq_label (h : op.row.named = true) (n : Name) {s shown : List Char}
    (hs : shown = [] ↔ s = []) :
    Template.nameText op.toOperator n.text (some shown) =
      some (op.row.label n.text s.isEmpty shown) := by
  have hempty : shown.isEmpty = s.isEmpty := by
    rw [Bool.eq_iff_iff, List.isEmpty_iff, List.isEmpty_iff, hs]
  rw [op.nameText_toOperator h, hempty, Row.label, literalText_eq_self n.isUnreserved_text]

end Operator

/-! ## Variables -/

section Variables

variable (op : Operator) (v : VarSpec)

theorem named_and_not_explodes :
    (op.toOperator.named && !v.toVariable.modifier.explodes) =
      (op.row.named && !v.modifier.explodes) := by
  rw [op.named_toOperator]
  obtain ⟨name, modifier⟩ := v
  cases modifier <;> rfl

/-- What stands between the items of a composite. -/
def innerSep : Char := if v.modifier.explodes then op.row.sep else ','

theorem expand_of_ne_null {value : Value} (h : value ≠ .null) :
    v.toVariable.expand op.toOperator value =
      (Template.encodeValue op.toOperator v.toVariable (innerSep op v) (.start v.name.text)
        value).map fun text =>
          if op.row.named && !v.modifier.explodes then
            Template.nameText op.toOperator v.name.text text
          else text := by
  have hname : Template.encodeName v.toVariable.name = v.name.text :=
    v.name.encodeName_string
  have hsep : (if v.toVariable.modifier.explodes then op.toOperator.itemSeparator else ',') =
      innerSep op v := by
    rw [op.itemSeparator_toOperator, innerSep]
    obtain ⟨name, modifier⟩ := v
    cases modifier <;> rfl
  rw [Template.Variable.expand_of_ne_null _ _ h, hname, hsep, named_and_not_explodes]

theorem encodeText_start (s : List Char) :
    Template.encodeText op.toOperator v.toVariable (.start v.name.text) s =
      .ok (if op.row.named && v.modifier.explodes then
        v.name.text ++ '=' :: op.row.allowed.encode s
      else op.row.allowed.encode (v.modifier.cut s)) := by
  obtain ⟨name, modifier⟩ := v
  rw [← op.named_toOperator, ← op.charset_toOperator]
  cases modifier with
  | first n pos le =>
    rw [Template.encodeText_first (v := (⟨name, .first n pos le⟩ : VarSpec).toVariable) rfl]
    cases op.toOperator.named <;> rfl
  | none =>
    rw [Template.encodeText_whole fun n h => by cases h]
    cases op.toOperator.named <;> rfl
  | explode =>
    rw [Template.encodeText_whole fun n h => by cases h]
    cases op.toOperator.named with
    | false => rfl
    | true =>
      show Except.ok (Place.qualify name.text '=' _) = _
      rw [Place.qualify_of_ne_nil name.text_ne_nil]
      rfl

theorem expand_scalar {value : Value} (hs : value.isScalar = true)
    (hw : value.isWritable = true)
    (hsolid : op = .parameter → v.modifier.explodes = true → value.scalarText ≠ []) :
    v.toVariable.expand op.toOperator value.simplify =
      .ok (some (op.row.write v (.text value.scalarText))) := by
  rw [expand_of_ne_null op v (Value.simplify_ne_null (Value.ne_null_of_isScalar hs)),
    Template.encodeValue_simplify_scalar _ _ _ _ hs hw, encodeText_start]
  generalize value.scalarText = s at *
  show Except.ok _ = _
  cases hnamed : op.row.named with
  | false => simp only [Row.write, hnamed, Bool.false_and, Bool.false_eq_true, if_false]
  | true =>
    cases hexplodes : v.modifier.explodes with
    | true =>
      have hcut : v.modifier.cut s = s := by
        cases hm : v.modifier with
        | explode => rfl
        | _ => rw [hm] at hexplodes; cases hexplodes
      have hlabel := op.label_encode hnamed v.name.text fun hop => hsolid hop hexplodes
      rw [literalText_eq_self v.name.isUnreserved_text] at hlabel
      simp only [Row.write, hnamed, hcut, hlabel, Bool.and_self, Bool.not_true, Bool.and_false,
        Bool.false_eq_true, if_false, if_true]
    | false =>
      -- The row asks whether the text is empty, the walk whether what is left of it is.
      have hempty : op.row.allowed.encode (v.modifier.cut s) = [] ↔ s = [] := by
        rw [op.encode_eq_nil_iff_of_named hnamed, v.modifier.cut_eq_nil_iff]
      simp only [Row.write, hnamed, Bool.and_false, Bool.false_eq_true, if_false, Bool.not_false,
        Bool.and_self, if_true, op.nameText_eq_label hnamed v.name hempty]

/-! ## Composites

Inside a composite no text is cut: a length is refused there. -/

/-- What stands in front of the text of an item. -/
def itemText (s : List Char) : List Char :=
  if op.row.named && v.modifier.explodes then v.name.text ++ '=' :: op.row.allowed.encode s
  else op.row.allowed.encode s

def pairText (e : List Char × List Char) : List Char :=
  e.1 ++ (if v.modifier.explodes then '=' else ',') :: op.row.allowed.encode e.2

section NoLength

variable (hlength : v.modifier.length = 0)
include hlength

theorem encodeText_item (i : Nat) (s : List Char) :
    Template.encodeText op.toOperator v.toVariable
        ((Place.start v.name.text).item op.toOperator.named v.toVariable.modifier i) s =
      .ok (itemText op v s) := by
  obtain ⟨name, modifier⟩ := v
  rw [itemText, ← op.named_toOperator, ← op.charset_toOperator]
  cases modifier with
  | first n pos le => exact absurd hlength (Nat.ne_of_gt pos)
  | none =>
    rw [Template.encodeText_whole fun n h => by cases h]
    cases op.toOperator.named <;> rfl
  | explode =>
    rw [Template.encodeText_whole fun n h => by cases h]
    cases op.toOperator.named with
    | false => rfl
    | true =>
      show Except.ok (Place.qualify name.text '=' _) = _
      rw [Place.qualify_of_ne_nil name.text_ne_nil]
      rfl

theorem encodeText_entry {k : List Char} (hk : k ≠ []) (s : List Char) :
    Template.encodeText op.toOperator v.toVariable
        ((Place.start v.name.text).entry op.toOperator.named v.toVariable.modifier k) s =
      .ok (pairText op v (k, s)) := by
  obtain ⟨name, modifier⟩ := v
  rw [pairText, ← op.charset_toOperator]
  cases modifier with
  | first n pos le => exact absurd hlength (Nat.ne_of_gt pos)
  | none =>
    rw [Template.encodeText_whole fun n h => by cases h]
    have hqualify := Place.qualify_of_ne_nil hk ',' (op.toOperator.charset.encode s)
    cases op.toOperator.named <;> exact congrArg Except.ok hqualify
  | explode =>
    rw [Template.encodeText_whole fun n h => by cases h]
    have hqualify := Place.qualify_of_ne_nil hk '=' (op.toOperator.charset.encode s)
    cases op.toOperator.named <;> exact congrArg Except.ok hqualify

theorem encodeValue_list {xs : List Value} (hx : ∀ x ∈ xs, (x.isNull || x.isScalar) = true)
    (hw : ∀ x ∈ xs, x.isWritable = true) (hne : Value.members xs ≠ []) (sep : Char) :
    Template.encodeValue op.toOperator v.toVariable sep (.start v.name.text)
        (.list (Value.simplifyItems xs)) =
      .ok (some (List.intercalate [sep] ((Value.members xs).map (itemText op v)))) := by
  have hempty : (Value.simplifyItems xs).isEmpty = false := by
    rw [List.isEmpty_eq_false_iff, ne_eq, Value.simplifyItems_eq_nil_iff]
    exact hne
  rw [Template.encodeValue, encodeItems_simplifyItems (encodeText_item op v hlength) hx hw, hempty]
  rfl

theorem encodeValue_map {es : List (Value × Value)}
    (he : ∀ e ∈ es, (e.1.isPlainKey && (e.2.isNull || e.2.isScalar)) = true)
    (hw : ∀ e ∈ es, e.2.isWritable = true) (hne : Value.pairs es ≠ []) (sep : Char) :
    Template.encodeValue op.toOperator v.toVariable sep (.start v.name.text)
        (.map (Value.simplifyEntries es)) =
      .ok (some (List.intercalate [sep] ((Value.pairs es).map (pairText op v)))) := by
  have hempty : (Value.simplifyEntries es).isEmpty = false := by
    rw [List.isEmpty_eq_false_iff, ne_eq, Value.simplifyEntries_eq_nil_iff]
    exact hne
  rw [Template.encodeValue, encodeEntries_simplifyEntries
    (fun _ s hk => encodeText_entry op v hlength hk s) he hw, hempty]
  rfl

end NoLength

/-- A text that may have the name of its variable in front. -/
def withName (shown : List Char) : List Char :=
  if op.row.named && !v.modifier.explodes then v.name.text ++ '=' :: shown else shown

theorem nameText_eq_withName {shown : List Char} (h : op = .parameter → shown ≠ []) :
    (if op.row.named && !v.modifier.explodes then
      Template.nameText op.toOperator v.name.text (some shown)
    else some shown) = some (withName op v shown) := by
  rw [withName]
  split
  · have hnamed : op.row.named = true := ((Bool.and_eq_true ..).mp ‹_›).1
    exact op.nameText_of_ne_nil hnamed _ h
  · rfl

/-- A composite gets the name in front. -/
theorem expand_composite {value : Value} (h : value ≠ .null) {shown : List Char}
    (hencode : Template.encodeValue op.toOperator v.toVariable (innerSep op v)
      (.start v.name.text) value = .ok (some shown))
    (hshown : op = .parameter → shown ≠ []) :
    v.toVariable.expand op.toOperator value = .ok (some (withName op v shown)) := by
  rw [expand_of_ne_null op v h, hencode]
  exact congrArg Except.ok (nameText_eq_withName op v hshown)

theorem itemText_ne_nil (h : op = .parameter) {s : List Char} (hs : s ≠ []) :
    itemText op v s ≠ [] := by
  subst h
  rw [itemText]
  split
  · exact List.append_ne_nil_of_right_ne_nil _ (List.cons_ne_nil _ _)
  · rw [ne_eq, Operator.encode_eq_nil_iff_of_named _ rfl]
    exact hs

theorem pairText_ne_nil (e : List Char × List Char) : pairText op v e ≠ [] :=
  List.append_ne_nil_of_right_ne_nil _ (List.cons_ne_nil _ _)

theorem write_list {items : List (List Char)} (hne : items ≠ [])
    (hs : op = .parameter → [] ∉ items) :
    op.row.write v (.list items) =
      withName op v (List.intercalate [innerSep op v] (items.map (itemText op v))) := by
  have hempty : items.isEmpty = false := List.isEmpty_eq_false_iff.2 hne
  have hname : literalText v.name.text = v.name.text := literalText_eq_self v.name.isUnreserved_text
  cases hexplodes : v.modifier.explodes with
  | true =>
    have hitem : ∀ s ∈ items, (if op.row.named then
          op.row.label v.name.text s.isEmpty (op.row.allowed.encode s)
        else op.row.allowed.encode s) = itemText op v s := by
      intro s hmem
      rw [itemText, hexplodes, Bool.and_true]
      split
      · rw [op.label_encode ‹_›, hname]
        rintro hop rfl
        exact hs hop hmem
      · rfl
    simp only [Row.write, hexplodes, withName, innerSep, Bool.not_true, Bool.and_false,
      Bool.false_eq_true, if_false, if_true]
    rw [List.map_congr_left hitem]
  | false =>
    have hitem : ∀ s ∈ items, op.row.allowed.encode s = itemText op v s := by
      intro s _
      rw [itemText, hexplodes, Bool.and_false]
      rfl
    simp only [Row.write, Row.label, hexplodes, withName, innerSep, hempty, hname, Bool.not_false,
      Bool.and_true, Bool.false_eq_true, if_false]
    rw [List.map_congr_left hitem]

theorem write_pairs {entries : List (List Char × List Char)} (hne : entries ≠ [])
    (hkey : ∀ e ∈ entries, ∀ c ∈ e.1, isUnreserved c = true)
    (hs : op = .parameter → ∀ e ∈ entries, e.2 ≠ []) :
    op.row.write v (.pairs entries) =
      withName op v (List.intercalate [innerSep op v] (entries.map (pairText op v))) := by
  have hempty : entries.isEmpty = false := List.isEmpty_eq_false_iff.2 hne
  have hname : literalText v.name.text = v.name.text := literalText_eq_self v.name.isUnreserved_text
  cases hexplodes : v.modifier.explodes with
  | true =>
    have hpair : ∀ e ∈ entries, (if op.row.named then
          op.row.label e.1 e.2.isEmpty (op.row.allowed.encode e.2)
        else op.row.allowed.encode e.1 ++ '=' :: op.row.allowed.encode e.2) = pairText op v e := by
      intro e hmem
      rw [pairText, hexplodes, if_pos rfl, Charset.encode_eq_self _ (hkey e hmem)]
      split
      · rw [op.label_encode ‹_› _ fun hop => hs hop e hmem, literalText_eq_self (hkey e hmem)]
      · rfl
    simp only [Row.write, hexplodes, withName, innerSep, Bool.not_true, Bool.and_false,
      Bool.false_eq_true, if_false, if_true]
    rw [List.map_congr_left hpair]
  | false =>
    have hpair : ∀ e ∈ entries, op.row.allowed.encode e.1 ++ ',' :: op.row.allowed.encode e.2 =
        pairText op v e := by
      intro e hmem
      rw [pairText, hexplodes, if_neg Bool.false_ne_true, Charset.encode_eq_self _ (hkey e hmem)]
    simp only [Row.write, Row.label, hexplodes, withName, innerSep, hempty, hname, Bool.not_false,
      Bool.and_true, Bool.false_eq_true, if_false]
    rw [List.map_congr_left hpair]

/-! ## All values that are flat -/

theorem expand_empty {value : Value} (h : value = .list [] ∨ value = .map [])
    (hop : op ≠ .parameter) : v.toVariable.expand op.toOperator value = .ok none := by
  have hparameter : op.toOperator ≠ .parameter := fun h => hop (op.toOperator_eq_parameter_iff.1 h)
  rw [Template.Variable.expand_of_empty _ _ h, if_neg fun h => hparameter h.1]

/-- The text of a variable, unless it is undefined. -/
def Row.text? (r : Row) (v : VarSpec) (b : Binding) : Option (List Char) :=
  if b = .undefined then none else some (r.write v b)

/-- A length is asked of something that is not a single text. -/
def VarSpec.Refuses (b : Binding) : Prop := v.modifier.length ≠ 0 ∧ b.isComposite = true

instance (b : Binding) : Decidable (v.Refuses b) :=
  inferInstanceAs (Decidable (v.modifier.length ≠ 0 ∧ b.isComposite = true))

theorem text?_of_ne_undefined (r : Row) {b : Binding} (hb : b ≠ .undefined) :
    r.text? v b = some (r.write v b) := if_neg hb

theorem expand_list {xs : List Value} (hx : ∀ x ∈ xs, (x.isNull || x.isScalar) = true)
    (hw : ∀ x ∈ xs, x.isWritable = true)
    (hsolid : op = .parameter → Value.members xs ≠ [] ∧ [] ∉ Value.members xs)
    (h : ¬v.Refuses (.ofItems (Value.members xs))) :
    v.toVariable.expand op.toOperator (.list (Value.simplifyItems xs)) =
      .ok (op.row.text? v (.ofItems (Value.members xs))) := by
  by_cases hne : Value.members xs = []
  · have hop : op ≠ .parameter := fun hop => (hsolid hop).1 hne
    have hempty : Value.list (Value.simplifyItems xs) = .list [] :=
      congrArg Value.list ((Value.simplifyItems_eq_nil_iff xs).2 hne)
    rw [expand_empty op v (.inl hempty) hop, hne]
    rfl
  · have hbinding : Binding.ofItems (Value.members xs) = .list (Value.members xs) := if_neg hne
    rw [hbinding] at h ⊢
    have hlength : v.modifier.length = 0 := Decidable.not_not.1 fun hlength => h ⟨hlength, rfl⟩
    rw [text?_of_ne_undefined v _ (by cases ·), write_list op v hne fun hop => (hsolid hop).2]
    refine expand_composite op v (by cases ·) (encodeValue_list op v hlength hx hw hne _)
      fun hop => ?_
    refine Text.intercalate_ne_nil _ (List.map_eq_nil_iff.not.2 hne) ?_
    rw [List.forall_mem_map]
    intro s hs
    refine itemText_ne_nil op v hop ?_
    rintro rfl
    exact (hsolid hop).2 hs

theorem expand_map {es : List (Value × Value)}
    (he : ∀ e ∈ es, (e.1.isPlainKey && (e.2.isNull || e.2.isScalar)) = true)
    (hw : ∀ e ∈ es, e.2.isWritable = true)
    (hsolid : op = .parameter → Value.pairs es ≠ [] ∧ ∀ e ∈ Value.pairs es, e.2 ≠ [])
    (h : ¬v.Refuses (.ofPairs (Value.pairs es))) :
    v.toVariable.expand op.toOperator (.map (Value.simplifyEntries es)) =
      .ok (op.row.text? v (.ofPairs (Value.pairs es))) := by
  by_cases hne : Value.pairs es = []
  · have hop : op ≠ .parameter := fun hop => (hsolid hop).1 hne
    have hempty : Value.map (Value.simplifyEntries es) = .map [] :=
      congrArg Value.map ((Value.simplifyEntries_eq_nil_iff es).2 hne)
    rw [expand_empty op v (.inr hempty) hop, hne]
    rfl
  · have hbinding : Binding.ofPairs (Value.pairs es) = .pairs (Value.pairs es) := if_neg hne
    have hkey := fun e hmem => (Value.isPlainKey_of_mem_pairs he e hmem).2
    rw [hbinding] at h ⊢
    have hlength : v.modifier.length = 0 := Decidable.not_not.1 fun hlength => h ⟨hlength, rfl⟩
    rw [text?_of_ne_undefined v _ (by cases ·), write_pairs op v hne hkey fun hop => (hsolid hop).2]
    refine expand_composite op v (by cases ·) (encodeValue_map op v hlength he hw hne _) fun _ => ?_
    refine Text.intercalate_ne_nil _ (List.map_eq_nil_iff.not.2 hne) ?_
    rw [List.forall_mem_map]
    exact fun e _ => pairText_ne_nil op v e

/-- One variable of one expression: where no length is asked of a composite, what the walk comes
to is what the row writes. -/
theorem expand_variable {value : Value} (hflat : value.isFlat = true)
    (hw : value.isWritable = true) (hsolid : op = .parameter → Solid v.modifier value)
    (h : ¬v.Refuses (.ofValue value)) :
    v.toVariable.expand op.toOperator value.simplify =
      .ok (op.row.text? v (.ofValue value)) := by
  cases value with
  | null => rfl
  | text _ | bool _ | int _ | float _ => exact expand_scalar op v rfl hw fun hop => hsolid hop
  | bytes _ | tuple _ => cases hflat
  | list xs =>
    exact expand_list op v (List.all_eq_true.1 hflat) (Value.areWritable_eq_true_iff.1 hw)
      (fun hop => hsolid hop) h
  | map es =>
    refine expand_map op v (List.all_eq_true.1 hflat) (fun e he => ?_) (fun hop => hsolid hop) h
    exact (Value.areWritableEntries_eq_true_iff.1 hw e he).2

end Variables

/-! ## Lengths of composites -/

theorem isLength_iff (v : VarSpec) :
    v.toVariable.modifier.isLength = true ↔ v.modifier.length ≠ 0 := by
  obtain ⟨name, modifier⟩ := v
  cases modifier with
  | first n pos le => exact ⟨fun _ => Nat.ne_of_gt pos, fun _ => rfl⟩
  | none | explode => exact ⟨(by cases ·), fun h => absurd rfl h⟩

theorem hasLeaf_simplify {value : Value} (h : value.isScalar = true) :
    value.simplify.hasLeaf = true ∧ value.simplify.isComposite = false := by
  cases value with
  | text _ | bool _ | int _ => exact ⟨rfl, rfl⟩
  | float x =>
    rw [Value.simplify]
    split <;> exact ⟨rfl, rfl⟩
  | _ => cases h

theorem anyLeaf_simplifyItems {xs : List Value}
    (hx : ∀ x ∈ xs, (x.isNull || x.isScalar) = true) :
    Value.anyLeaf (Value.simplifyItems xs) = !(Value.members xs).isEmpty := by
  induction xs with
  | nil => rfl
  | cons x xs ih =>
    cases hn : x.isNull with
    | true =>
      obtain rfl := Value.eq_null_of_isNull hn
      exact ih fun y hy => hx y (List.mem_cons_of_mem _ hy)
    | false =>
      have hscalar := Value.isScalar_of_not_isNull (hx x List.mem_cons_self) hn
      rw [Value.simplifyItems_cons (Value.ne_null_of_isScalar hscalar), Value.anyLeaf,
        (hasLeaf_simplify hscalar).1, Value.members_cons hn]
      rfl

theorem anyLeafBelow_simplifyEntries {es : List (Value × Value)}
    (he : ∀ e ∈ es, (e.1.isPlainKey && (e.2.isNull || e.2.isScalar)) = true) :
    Value.anyLeafBelow (Value.simplifyEntries es) = !(Value.pairs es).isEmpty := by
  induction es with
  | nil => rfl
  | cons e es ih =>
    obtain ⟨key, value⟩ := e
    have hvalue := ((Bool.and_eq_true ..).mp (he _ List.mem_cons_self)).2
    cases hn : value.isNull with
    | true =>
      obtain rfl := Value.eq_null_of_isNull hn
      exact ih fun d hd => he d (List.mem_cons_of_mem _ hd)
    | false =>
      have hscalar := Value.isScalar_of_not_isNull hvalue hn
      rw [Value.simplifyEntries_cons (Value.ne_null_of_isScalar hscalar), Value.anyLeafBelow,
        (hasLeaf_simplify hscalar).1, Value.pairs_cons hn]
      rfl

/-- A flat value is a composite with a scalar in it just where it is a defined composite. -/
theorem isComposite_ofValue {value : Value} (hflat : value.isFlat = true) :
    (Binding.ofValue value).isComposite =
      (value.simplify.isComposite && value.simplify.hasLeaf) := by
  cases value with
  | null => rfl
  | text _ | bool _ | int _ | float _ =>
    rw [(hasLeaf_simplify rfl).2]
    rfl
  | bytes _ | tuple _ => cases hflat
  | list xs =>
    rw [Value.simplify, Value.isComposite, Value.hasLeaf,
      anyLeaf_simplifyItems (List.all_eq_true.1 hflat), Binding.ofValue, Binding.ofItems]
    cases Value.members xs <;> rfl
  | map es =>
    rw [Value.simplify, Value.isComposite, Value.hasLeaf,
      anyLeafBelow_simplifyEntries (List.all_eq_true.1 hflat), Binding.ofValue, Binding.ofPairs]
    cases Value.pairs es <;> rfl

theorem refused_iff (v : VarSpec) {p : Params}
    (hflat : ∀ value ∈ p.lookup v.name.string, value.isFlat = true) :
    v.toVariable.Refused p ↔ v.Refuses (bind p v.name) := by
  have hkey : v.toVariable.key = v.name.string := rfl
  have hcomposite : (bind p v.name).isComposite =
      ((v.toVariable.value p).isComposite && (v.toVariable.value p).hasLeaf) := by
    rw [bind, Template.Variable.value, hkey]
    cases h : p.lookup v.name.string with
    | none => rfl
    | some value => exact isComposite_ofValue (hflat value h)
  rw [Template.Variable.Refused, VarSpec.Refuses, isLength_iff, hcomposite, Bool.and_eq_true]

end Standard
end RouteTemplate
