/-
Scalars in an expansion.  A scalar has a text, the one it is expanded as, and
the walk writes that text where the scalar stands, if the scalar can be written.
-/
import RouteTemplate.Proofs.Template.Writing

namespace RouteTemplate

namespace Value

def isNull : Value → Bool
  | .null => true
  | _ => false

theorem eq_null_of_isNull {x : Value} (h : x.isNull = true) : x = .null := by
  cases x with
  | null => rfl
  | _ => cases h

def isScalar : Value → Bool
  | .bool _ | .int _ | .float _ | .text _ => true
  | _ => false

/-- The text that a scalar is expanded as, whatever its length. -/
def scalarText : Value → List Char
  | .bool b => (if b then "true" else "false").toList
  | .int n => (toString n).toList
  | .float x =>
    match x.toInt? with
    | some n => (toString n).toList
    | none => x.text .plain
  | .text s => s.toList
  | _ => []

theorem simplify_ne_null {v : Value} (h : v ≠ .null) : v.simplify ≠ .null := by
  cases v with
  | null => exact absurd rfl h
  | float x =>
    rw [simplify]
    split
    · exact fun h => by cases h
    · exact fun h => by cases h
  | _ => exact fun h => by cases h

theorem simplifyItems_cons {v : Value} (h : v ≠ .null) (vs : List Value) :
    simplifyItems (v :: vs) = v.simplify :: simplifyItems vs := by
  cases v with
  | null => exact absurd rfl h
  | _ => rfl

theorem simplifyEntries_cons {key v : Value} (h : v ≠ .null) (es : List (Value × Value)) :
    simplifyEntries ((key, v) :: es) = (key, v.simplify) :: simplifyEntries es := by
  cases v with
  | null => exact absurd rfl h
  | _ => rfl

theorem ne_null_of_isScalar {v : Value} (h : v.isScalar = true) : v ≠ .null := by
  rintro rfl
  cases h

/-- No scalar is left out of a sequence. -/
theorem simplifyItems_of_isScalar {vs : List Value} (h : ∀ v ∈ vs, v.isScalar = true) :
    simplifyItems vs = vs.map simplify := by
  induction vs with
  | nil => rfl
  | cons v vs ih =>
    rw [simplifyItems_cons (ne_null_of_isScalar (h v List.mem_cons_self)), List.map_cons,
      ih fun w hw => h w (List.mem_cons_of_mem v hw)]

end Value

namespace Template

open Outcome

/-- Where a scalar stands that can be written, the walk writes its text. -/
theorem encodeValue_simplify_scalar (op : Operator) (v : Variable) (sep : Char) (p : Place)
    {value : Value} (h : value.isScalar = true) (hw : value.isWritable = true) :
    encodeValue op v sep p value.simplify = (encodeText op v p value.scalarText).map some := by
  cases value with
  | bool _ | text _ => rfl
  | int n =>
    show encodeValue op v sep p (.int n) = _
    rw [encodeValue, writeValue_eq_ok.2 (Value.display?_int hw)]
    rfl
  | float x =>
    rw [Value.scalarText, Value.simplify]
    cases x.toInt? <;> rfl
  | _ => cases h

theorem encodeValue_of_not_isWritable (op : Operator) (v : Variable) (sep : Char) (p : Place)
    {value : Value} (h : value.isScalar = true) (hw : value.isWritable = false) :
    encodeValue op v sep p value.simplify = .error .tooManyDigits := by
  cases value with
  | int n =>
    have hn : writeValue (.int n) = .error .tooManyDigits := by
      rw [← fault?_eq_some, fault?_writeValue, hw]
      rfl
    show encodeValue op v sep p (.int n) = _
    rw [encodeValue, hn]
    rfl
  | bool _ | float _ | text _ => cases hw
  | _ => cases h

end Template
end RouteTemplate
