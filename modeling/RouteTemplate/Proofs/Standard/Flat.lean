/-
The walk over values that are flat: scalars, and lists and mappings of scalars
with gaps among them.

A list comes to the texts of its members and a mapping to its pairs, whatever
the places write around them.  A gap leaves no trace, so neither does a
composite of nothing but gaps.
-/
import RouteTemplate.Proofs.Percent.Encoded
import RouteTemplate.Proofs.Standard.Expansion
import RouteTemplate.Proofs.Template.Output

namespace RouteTemplate

open Template (Place)
open Percent (isUnreserved)

/-! ## Text that no encoding changes -/

theorem Charset.encode_eq_self (cs : Charset) {s : List Char}
    (h : ∀ c ∈ s, isUnreserved c = true) : cs.encode s = s := by
  cases cs with
  | unreserved => exact Percent.encodeAll_eq_self h
  | reserved =>
    exact reserved_encode_eq_self (Percent.encoded_of_forall fun c hc =>
      Percent.isUriChar_of_isUnreserved (h c hc))

theorem Template.encodeName_ofList {s : List Char} (h : ∀ c ∈ s, isUnreserved c = true) :
    encodeName (String.ofList s) = s := by
  rw [encodeName, String.toList_ofList, Charset.encode_eq_self _ h]

namespace Value

variable {x value key : Value}

theorem isScalar_of_not_isNull (h : (x.isNull || x.isScalar) = true) (hn : x.isNull = false) :
    x.isScalar = true := by
  rw [hn, Bool.false_or] at h
  exact h

theorem members_cons (hn : x.isNull = false) (xs : List Value) :
    members (x :: xs) = x.scalarText :: members xs := by
  rw [members, List.filter_cons_of_pos (by rw [hn]; rfl)]
  rfl

theorem pairs_cons (hn : value.isNull = false) (es : List (Value × Value)) :
    pairs ((key, value) :: es) = (key.scalarText, value.scalarText) :: pairs es := by
  rw [pairs, List.filter_cons_of_pos (by rw [hn]; rfl)]
  rfl

/-- Members are what is left when a list is simplified. -/
theorem simplifyItems_eq_nil_iff (xs : List Value) : simplifyItems xs = [] ↔ members xs = [] := by
  induction xs with
  | nil => exact ⟨fun _ => rfl, fun _ => rfl⟩
  | cons x xs ih =>
    cases hn : x.isNull with
    | true =>
      obtain rfl := eq_null_of_isNull hn
      exact ih
    | false =>
      have hne : x ≠ .null := by
        rintro rfl
        cases hn
      rw [simplifyItems_cons hne, members_cons hn]
      exact ⟨(by cases ·), (by cases ·)⟩

theorem simplifyEntries_eq_nil_iff (es : List (Value × Value)) :
    simplifyEntries es = [] ↔ pairs es = [] := by
  induction es with
  | nil => exact ⟨fun _ => rfl, fun _ => rfl⟩
  | cons e es ih =>
    obtain ⟨key, value⟩ := e
    cases hn : value.isNull with
    | true =>
      obtain rfl := eq_null_of_isNull hn
      exact ih
    | false =>
      have hne : value ≠ .null := by
        rintro rfl
        cases hn
      rw [simplifyEntries_cons hne, pairs_cons hn]
      exact ⟨(by cases ·), (by cases ·)⟩

theorem isWritable_simplify_scalar (h : x.isScalar = true) :
    x.simplify.isWritable = x.isWritable := by
  cases x with
  | text _ | bool _ | int _ => rfl
  | float f =>
    rw [simplify]
    split <;> rfl
  | _ => cases h

theorem areWritable_simplifyItems_eq {xs : List Value}
    (hx : ∀ x ∈ xs, (x.isNull || x.isScalar) = true) :
    areWritable (simplifyItems xs) = areWritable xs := by
  induction xs with
  | nil => rfl
  | cons x xs ih =>
    have hrest := ih fun y hy => hx y (List.mem_cons_of_mem x hy)
    cases hn : x.isNull with
    | true =>
      obtain rfl := eq_null_of_isNull hn
      exact hrest
    | false =>
      have hscalar := isScalar_of_not_isNull (hx x List.mem_cons_self) hn
      rw [simplifyItems_cons (ne_null_of_isScalar hscalar), areWritable, areWritable, hrest,
        isWritable_simplify_scalar hscalar]

theorem areWritableEntries_simplifyEntries_eq {es : List (Value × Value)}
    (he : ∀ e ∈ es, (e.1.isPlainKey && (e.2.isNull || e.2.isScalar)) = true) :
    areWritableEntries (simplifyEntries es) = areWritableEntries es := by
  induction es with
  | nil => rfl
  | cons e es ih =>
    obtain ⟨key, value⟩ := e
    have hrest := ih fun d hd => he d (List.mem_cons_of_mem _ hd)
    obtain ⟨hkey, hvalue⟩ := (Bool.and_eq_true ..).mp (he _ List.mem_cons_self)
    cases hn : value.isNull with
    | true =>
      -- with the gap goes its key, which is a text
      obtain rfl := eq_null_of_isNull hn
      cases key with
      | text s => exact hrest
      | _ => cases hkey
    | false =>
      have hscalar := isScalar_of_not_isNull hvalue hn
      rw [simplifyEntries_cons (ne_null_of_isScalar hscalar), areWritableEntries,
        areWritableEntries, hrest, isWritable_simplify_scalar hscalar]

/-- Nothing that is left out of a flat value has too many digits. -/
theorem isWritable_simplify_eq (hflat : value.isFlat = true) :
    value.simplify.isWritable = value.isWritable := by
  cases value with
  | null => rfl
  | text _ | bool _ | int _ | float _ => exact isWritable_simplify_scalar rfl
  | bytes _ | tuple _ => cases hflat
  | list xs => exact areWritable_simplifyItems_eq (List.all_eq_true.1 hflat)
  | map es => exact areWritableEntries_simplifyEntries_eq (List.all_eq_true.1 hflat)

theorem isPlainKey_scalarText (h : key.isPlainKey = true) :
    key.scalarText ≠ [] ∧ ∀ c ∈ key.scalarText, isUnreserved c = true := by
  cases key with
  | text s =>
    obtain ⟨hne, hall⟩ := (Bool.and_eq_true ..).mp h
    rw [Bool.not_eq_true', List.isEmpty_eq_false_iff] at hne
    exact ⟨hne, List.all_eq_true.1 hall⟩
  | _ => cases h

/-- The keys of the pairs of a mapping are plain, if all keys of the mapping are. -/
theorem isPlainKey_of_mem_pairs {es : List (Value × Value)}
    (he : ∀ e ∈ es, (e.1.isPlainKey && (e.2.isNull || e.2.isScalar)) = true) :
    ∀ e ∈ pairs es, e.1 ≠ [] ∧ ∀ c ∈ e.1, isUnreserved c = true := by
  intro e h
  obtain ⟨d, hd, rfl⟩ := List.mem_map.1 h
  obtain ⟨hkey, _⟩ := (Bool.and_eq_true ..).mp (he d (List.mem_filter.1 hd).1)
  exact isPlainKey_scalarText hkey

end Value

theorem Template.encodeKey_plainKey {key : Value} (h : key.isPlainKey = true) :
    encodeKey key = .ok key.scalarText := by
  have hall := (Value.isPlainKey_scalarText h).2
  cases key with
  | text s =>
    rw [encodeKey_text, encodeName]
    exact congrArg Except.ok (Charset.encode_eq_self _ hall)
  | _ => cases h

/-! ## The walk over flat values -/

namespace Standard
section Walk

variable {op : Template.Operator} {v : Template.Variable} {sep : Char} {p : Place}

/-- A list of scalars comes to the texts of its members, each written by `f`. -/
theorem encodeItems_simplifyItems {f : List Char → List Char}
    (hf : ∀ i s, Template.encodeText op v (p.item op.named v.modifier i) s = .ok (f s))
    {xs : List Value} (hx : ∀ x ∈ xs, (x.isNull || x.isScalar) = true)
    (hw : ∀ x ∈ xs, x.isWritable = true) (i : Nat) :
    Template.encodeItems op v sep p i (Value.simplifyItems xs) =
      .ok ((Value.members xs).map f) := by
  induction xs generalizing i with
  | nil => rfl
  | cons x xs ih =>
    have hxs := fun y hy => hx y (List.mem_cons_of_mem x hy)
    have hws := fun y hy => hw y (List.mem_cons_of_mem x hy)
    cases hn : x.isNull with
    | true =>
      obtain rfl := Value.eq_null_of_isNull hn
      exact ih hxs hws i
    | false =>
      have hscalar := Value.isScalar_of_not_isNull (hx x List.mem_cons_self) hn
      rw [Value.simplifyItems_cons (Value.ne_null_of_isScalar hscalar), Template.encodeItems,
        Template.encodeValue_simplify_scalar op v sep _ hscalar (hw x List.mem_cons_self), hf,
        ih hxs hws (i + 1), Value.members_cons hn]
      rfl

/-- A mapping to scalars comes to its pairs, each written by `f`. -/
theorem encodeEntries_simplifyEntries {f : List Char × List Char → List Char}
    (hf : ∀ k s, k ≠ [] →
      Template.encodeText op v (p.entry op.named v.modifier k) s = .ok (f (k, s)))
    {es : List (Value × Value)}
    (he : ∀ e ∈ es, (e.1.isPlainKey && (e.2.isNull || e.2.isScalar)) = true)
    (hw : ∀ e ∈ es, e.2.isWritable = true) :
    Template.encodeEntries op v sep p (Value.simplifyEntries es) =
      .ok ((Value.pairs es).map f) := by
  induction es with
  | nil => rfl
  | cons e es ih =>
    obtain ⟨key, value⟩ := e
    have hes := fun d hd => he d (List.mem_cons_of_mem _ hd)
    have hws := fun d hd => hw d (List.mem_cons_of_mem _ hd)
    obtain ⟨hkey, hvalue⟩ := (Bool.and_eq_true ..).mp (he _ List.mem_cons_self)
    cases hn : value.isNull with
    | true =>
      obtain rfl := Value.eq_null_of_isNull hn
      exact ih hes hws
    | false =>
      have hscalar := Value.isScalar_of_not_isNull hvalue hn
      rw [Value.simplifyEntries_cons (Value.ne_null_of_isScalar hscalar),
        Template.encodeEntries_cons (Template.encodeKey_plainKey hkey),
        Template.encodeValue_simplify_scalar op v sep _ hscalar (hw _ List.mem_cons_self),
        hf _ _ (Value.isPlainKey_scalarText hkey).1, ih hes hws, Value.pairs_cons hn]
      rfl

end Walk

end Standard
end RouteTemplate
