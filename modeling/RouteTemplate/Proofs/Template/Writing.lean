/-
Which values can be written.

An integer has a text unless it has too many digits, and a value has one unless
it holds such an integer.  A key is written wherever an entry is, so this decides
on keys as much as on scalars.  What is put into the form for expansion can be
written if it could before.
-/
import RouteTemplate.Proofs.Decimal.Digits
import RouteTemplate.Proofs.Outcome
import RouteTemplate.Template.Expansion

namespace RouteTemplate

open Outcome

namespace Value

mutual

/-- Whether all integers in a value can be written, those in its keys included. -/
def isWritable : Value → Bool
  | .int n => Decimal.isWritable n
  | .list items | .tuple items => areWritable items
  | .map entries => areWritableEntries entries
  | .null | .bool _ | .float _ | .text _ | .bytes _ => true
termination_by structural value => value

def areWritable : List Value → Bool
  | [] => true
  | item :: items => item.isWritable && areWritable items
termination_by structural items => items

def areWritableEntries : List (Value × Value) → Bool
  | [] => true
  | (key, item) :: entries => key.isWritable && item.isWritable && areWritableEntries entries
termination_by structural entries => entries

end

theorem areWritable_eq_true_iff {items : List Value} :
    areWritable items = true ↔ ∀ item ∈ items, item.isWritable = true := by
  induction items with
  | nil => simp [areWritable]
  | cons item items ih => simp [areWritable, ih]

theorem areWritableEntries_eq_true_iff {entries : List (Value × Value)} :
    areWritableEntries entries = true ↔
      ∀ e ∈ entries, e.1.isWritable = true ∧ e.2.isWritable = true := by
  induction entries with
  | nil => simp [areWritableEntries]
  | cons e entries ih => simp [areWritableEntries, ih]

/-! ## Text -/

mutual

theorem isSome_repr? : ∀ value : Value, value.repr?.isSome = value.isWritable
  | .null | .bool _ | .float _ | .text _ | .bytes _ => rfl
  | .int n => by
    rw [repr?, isWritable, Decimal.write?]
    cases Decimal.isWritable n <;> rfl
  | .list items => by
    rw [isWritable, ← isSome_reprItems? items, repr?]
    cases reprItems? items <;> rfl
  | .tuple items => by
    rw [isWritable, ← isSome_reprItems? items, repr?]
    cases reprItems? items <;> rfl
  | .map entries => by
    rw [isWritable, ← isSome_reprEntries? entries, repr?]
    cases reprEntries? entries <;> rfl
termination_by structural value => value

theorem isSome_reprItems? : ∀ items : List Value, (reprItems? items).isSome = areWritable items
  | [] => rfl
  | item :: items => by
    rw [areWritable, ← isSome_repr? item, ← isSome_reprItems? items, reprItems?]
    cases item.repr? <;> cases reprItems? items <;> rfl
termination_by structural items => items

theorem isSome_reprEntries? : ∀ entries : List (Value × Value),
    (reprEntries? entries).isSome = areWritableEntries entries
  | [] => rfl
  | (key, item) :: entries => by
    rw [areWritableEntries, ← isSome_repr? key, ← isSome_repr? item, ← isSome_reprEntries? entries,
      reprEntries?]
    cases key.repr? <;> cases item.repr? <;> cases reprEntries? entries <;> rfl
termination_by structural entries => entries

end

theorem isSome_display? (value : Value) : value.display?.isSome = value.isWritable := by
  cases value with
  | text s => rfl
  | _ => exact isSome_repr? _

theorem display?_int {n : Int} (h : Decimal.isWritable n = true) :
    (Value.int n).display? = some (toString n).toList := if_pos h

/-- What is blank is short. -/
theorem isWritable_of_isBlank {value : Value} (h : value.isBlank = true) :
    value.isWritable = true := by
  cases value with
  | int n =>
    obtain rfl : n = 0 := eq_of_beq h
    decide
  | list items | tuple items =>
    obtain rfl := List.isEmpty_iff.1 h
    rfl
  | map entries =>
    obtain rfl := List.isEmpty_iff.1 h
    rfl
  | _ => rfl

/-! ## Form for expansion -/

mutual

theorem isWritable_simplify : ∀ {value : Value},
    value.isWritable = true → value.simplify.isWritable = true
  | .null, h | .bool _, h | .text _, h | .bytes _, h | .int _, h => h
  | .float x, _ => by
    rw [simplify]
    split <;> rfl
  | .list _, h => areWritable_simplifyItems h
  | .tuple _, h => areWritable_simplifyItems h
  | .map _, h => areWritableEntries_simplifyEntries h
termination_by structural value => value

theorem areWritable_simplifyItems : ∀ {items : List Value},
    areWritable items = true → areWritable (simplifyItems items) = true
  | [], _ => rfl
  | item :: items, h => by
    obtain ⟨hitem, hitems⟩ := (Bool.and_eq_true ..).mp h
    have hrest := areWritable_simplifyItems hitems
    have hcons := isWritable_simplify hitem
    cases item with
    | null => exact hrest
    | _ => exact (Bool.and_eq_true ..).mpr ⟨hcons, hrest⟩
termination_by structural items => items

theorem areWritableEntries_simplifyEntries : ∀ {entries : List (Value × Value)},
    areWritableEntries entries = true → areWritableEntries (simplifyEntries entries) = true
  | [], _ => rfl
  | (key, item) :: entries, h => by
    obtain ⟨hentry, hentries⟩ := (Bool.and_eq_true ..).mp h
    obtain ⟨hkey, hitem⟩ := (Bool.and_eq_true ..).mp hentry
    have hrest := areWritableEntries_simplifyEntries hentries
    have hcons := isWritable_simplify hitem
    cases item with
    | null => exact hrest
    | _ =>
      exact (Bool.and_eq_true ..).mpr ⟨(Bool.and_eq_true ..).mpr ⟨hkey, hcons⟩, hrest⟩
termination_by structural entries => entries

end

end Value

/-- Whether a template meets no integer of too many digits among its parameters. -/
def Params.WritableIn (p : Params) (t : Template) : Prop :=
  ∀ v ∈ t.vars, ∀ value ∈ p.lookup v.key, value.isWritable = true

instance (p : Params) (t : Template) : Decidable (p.WritableIn t) :=
  inferInstanceAs (Decidable (∀ v ∈ t.vars, ∀ value ∈ p.lookup v.key, value.isWritable = true))

theorem Params.writableIn_of_forall {p : Params} (h : ∀ e ∈ p, e.2.isWritable = true)
    (t : Template) : p.WritableIn t := by
  intro v _ value hvalue
  obtain ⟨before, after, rfl, _⟩ := List.lookup_eq_some_iff.1 hvalue
  exact h (v.key, value) (List.mem_append_right before List.mem_cons_self)

namespace Template

theorem writeValue_eq_ok {value : Value} {s : List Char} :
    writeValue value = .ok s ↔ value.display? = some s := by
  rw [writeValue]
  cases value.display? <;> simp

theorem fault?_writeValue (value : Value) :
    fault? (writeValue value) = if value.isWritable then none else some .tooManyDigits := by
  rw [writeValue, ← Value.isSome_display?]
  cases value.display? <;> rfl

theorem fault?_encodeKey (key : Value) :
    fault? (encodeKey key) = if key.isWritable then none else some .tooManyDigits := by
  rw [encodeKey]
  by_cases h : key.isBlank = true
  · rw [if_pos h, Value.isWritable_of_isBlank h]
    rfl
  · rw [if_neg h, fault?_map, fault?_writeValue]

/-- The key of an entry is written as a name is. -/
theorem encodeKey_text (s : String) : encodeKey (.text s) = .ok (encodeName s) := by
  rw [encodeKey]
  split
  · have hs : s = "" := String.isEmpty_iff.1 ‹_›
    rw [hs]
    rfl
  · rfl

/-- An entry whose key is written. -/
theorem encodeEntries_cons {key : Value} {k : List Char} (h : encodeKey key = .ok k)
    (op : Operator) (v : Variable) (sep : Char) (p : Place) (item : Value)
    (entries : List (Value × Value)) :
    encodeEntries op v sep p ((key, item) :: entries) = do
      let r ← encodeValue op v sep (p.entry op.named v.modifier k) item
      let rs ← encodeEntries op v sep p entries
      return r.toList ++ rs := by
  rw [encodeEntries, h]
  rfl

theorem Variable.isWritable_value {t : Template} {p : Params} (h : p.WritableIn t) {v : Variable}
    (hv : v ∈ t.vars) : (v.value p).isWritable = true := by
  rw [Variable.value]
  cases hp : p.lookup v.key with
  | some value => exact Value.isWritable_simplify (h v hv value hp)
  | none => cases v.fallback <;> rfl

end Template
end RouteTemplate
