/-
When an expansion is refused.

A length is taken of a text.  The walk meets a composite value and does not look
at the length until it arrives at a scalar inside, so what is refused is a
length of a composite with a scalar at some depth: empty composites, and
composites of nothing but such, go through.  On the way keys and scalars are
written, and the walk stops as well at one that holds an integer of too many
digits.  Nothing else ever stops it.

The walk comes to the keys and scalars of a value in the order in which they
stand, and to the variables of a template from left to right.  The first spot
where it stops decides on the failure.
-/
import RouteTemplate.Proofs.Template.Output
import RouteTemplate.Proofs.Template.Url
import RouteTemplate.Proofs.Template.Writing

namespace RouteTemplate

open Outcome

/-! ## Keys and scalars inside a value -/

/-- Where the walk over a value writes: the key of an entry, or a scalar. -/
inductive Spot where
  | key (k : Value)
  | leaf (x : Value)

namespace Spot

def isLeaf : Spot → Bool
  | .key _ => false
  | .leaf _ => true

def isWritable : Spot → Bool
  | .key k => k.isWritable
  | .leaf x => x.isWritable

end Spot

namespace Value

def isComposite : Value → Bool
  | .bytes _ | .list _ | .tuple _ | .map _ => true
  | _ => false

mutual

/-- Whether there is a scalar at any depth.  Each byte of a string of bytes is one. -/
def hasLeaf : Value → Bool
  | .null => false
  | .bool _ | .int _ | .float _ | .text _ => true
  | .bytes bs => !bs.isEmpty
  | .list items | .tuple items => anyLeaf items
  | .map entries => anyLeafBelow entries
termination_by structural value => value

def anyLeaf : List Value → Bool
  | [] => false
  | item :: items => item.hasLeaf || anyLeaf items
termination_by structural items => items

def anyLeafBelow : List (Value × Value) → Bool
  | [] => false
  | (_, item) :: entries => item.hasLeaf || anyLeafBelow entries
termination_by structural entries => entries

end

mutual

/-- The spots of a value in the order in which the walk comes to them. -/
def spots : Value → List Spot
  | .null => []
  | .bool b => [.leaf (.bool b)]
  | .int n => [.leaf (.int n)]
  | .float x => [.leaf (.float x)]
  | .text s => [.leaf (.text s)]
  | .bytes bs => bs.map fun b => .leaf (.int b.toNat)
  | .list items | .tuple items => spotsOfItems items
  | .map entries => spotsOfEntries entries
termination_by structural value => value

def spotsOfItems : List Value → List Spot
  | [] => []
  | item :: items => item.spots ++ spotsOfItems items
termination_by structural items => items

def spotsOfEntries : List (Value × Value) → List Spot
  | [] => []
  | (key, item) :: entries => .key key :: (item.spots ++ spotsOfEntries entries)
termination_by structural entries => entries

end

mutual

theorem all_spots : ∀ value : Value, value.spots.all Spot.isWritable = value.isWritable
  | .null => rfl
  | .bool _ | .int _ | .float _ | .text _ => Bool.and_true _
  | .bytes bs => by
    rw [spots, List.all_map, isWritable, List.all_eq_true]
    exact fun b _ => Decimal.isWritable_of_byte b
  | .list items => all_spotsOfItems items
  | .tuple items => all_spotsOfItems items
  | .map entries => all_spotsOfEntries entries
termination_by structural value => value

theorem all_spotsOfItems : ∀ items : List Value,
    (spotsOfItems items).all Spot.isWritable = areWritable items
  | [] => rfl
  | item :: items => by
    rw [spotsOfItems, areWritable, List.all_append, all_spots item, all_spotsOfItems items]
termination_by structural items => items

theorem all_spotsOfEntries : ∀ entries : List (Value × Value),
    (spotsOfEntries entries).all Spot.isWritable = areWritableEntries entries
  | [] => rfl
  | (key, item) :: entries => by
    rw [spotsOfEntries, areWritableEntries, List.all_cons, List.all_append, all_spots item,
      all_spotsOfEntries entries, Spot.isWritable, Bool.and_assoc]
termination_by structural entries => entries

end

mutual

theorem any_spots : ∀ value : Value, value.spots.any Spot.isLeaf = value.hasLeaf
  | .null | .bool _ | .int _ | .float _ | .text _ => rfl
  | .bytes bs => by cases bs <;> rfl
  | .list items => any_spotsOfItems items
  | .tuple items => any_spotsOfItems items
  | .map entries => any_spotsOfEntries entries
termination_by structural value => value

theorem any_spotsOfItems : ∀ items : List Value,
    (spotsOfItems items).any Spot.isLeaf = anyLeaf items
  | [] => rfl
  | item :: items => by
    rw [spotsOfItems, anyLeaf, List.any_append, any_spots item, any_spotsOfItems items]
termination_by structural items => items

theorem any_spotsOfEntries : ∀ entries : List (Value × Value),
    (spotsOfEntries entries).any Spot.isLeaf = anyLeafBelow entries
  | [] => rfl
  | (key, item) :: entries => by
    rw [spotsOfEntries, anyLeafBelow, List.any_cons, List.any_append, any_spots item,
      any_spotsOfEntries entries]
    rfl
termination_by structural entries => entries

end

end Value

namespace Template

def Modifier.isLength : Modifier → Bool
  | .first _ => true
  | _ => false

/-- The fault of a variable whose walk arrives at a scalar, where `inside` says that this
is inside a composite. -/
def refusal (v : Variable) (inside : Bool) : Option ExpansionFault :=
  if v.modifier.isLength && inside then some (.lengthOfComposite v) else none

/-- What the walk stops with at a spot, if it stops there.  A scalar is written before it
can be cut. -/
def Variable.stopAt? (v : Variable) (inside : Bool) : Spot → Option ExpansionFault
  | .key k => if k.isWritable then none else some .tooManyDigits
  | .leaf x => if x.isWritable then refusal v inside else some .tooManyDigits

/-! ## The walk -/

section Walk

variable {op : Operator} {v : Variable} {sep : Char}

theorem fault?_encodeText (p : Place) (s : List Char) :
    fault? (encodeText op v p s) = refusal v !p.outermost := by
  unfold encodeText refusal
  cases v.modifier with
  | first n =>
    show fault? (if p.outermost then _ else _) = _
    cases p.outermost <;> rfl
  | none | explode | index => rfl

theorem fault?_encodeText_written (p : Place) (x : Value) :
    fault? (do return some (← encodeText op v p (← writeValue x))) =
      v.stopAt? (!p.outermost) (.leaf x) := by
  have htext : ∀ s, fault? (do return some (← encodeText op v p s)) =
      refusal v !p.outermost := fun s => by rw [fault?_return, fault?_encodeText]
  rw [fault?_bind htext, fault?_writeValue, Variable.stopAt?]
  cases x.isWritable <;> rfl

theorem fault?_encodeBytes (p : Place) (bs : List UInt8) (i : Nat) :
    fault? (encodeBytes op v p i bs) =
      (bs.map fun b => Spot.leaf (.int b.toNat)).findSome? (v.stopAt? true) := by
  induction bs generalizing i with
  | nil => rfl
  | cons b bs ih =>
    have hb : (Value.int b.toNat).isWritable = true := Decimal.isWritable_of_byte b
    rw [encodeBytes, fault?_both, fault?_encodeText, ih, Place.outermost_item, List.map_cons,
      findSome?_cons_or, Variable.stopAt?, if_pos hb]
    rfl

mutual

/-- At the place of the variable itself a single text can be cut. -/
theorem fault?_encodeValue (p : Place) : ∀ value : Value,
    fault? (encodeValue op v sep p value) =
      value.spots.findSome? (v.stopAt? (value.isComposite || !p.outermost))
  | .null => rfl
  | .text s => by
    rw [encodeValue, fault?_return, fault?_encodeText, Value.spots, findSome?_cons_or]
    exact (Option.or_none).symm
  | .bool _ | .int _ | .float _ => by
    rw [encodeValue, fault?_encodeText_written, Value.spots, findSome?_cons_or]
    exact (Option.or_none).symm
  | .bytes bs => by
    rw [encodeValue, fault?_return, fault?_encodeBytes]
    rfl
  | .list items => by
    rw [encodeValue, fault?_return, fault?_encodeItems p 0 items]
    rfl
  | .tuple items => by
    rw [encodeValue, fault?_return, fault?_encodeItems p 0 items]
    rfl
  | .map entries => by
    rw [encodeValue, fault?_return, fault?_encodeEntries p entries]
    rfl
termination_by structural value => value

theorem fault?_encodeItems (p : Place) (i : Nat) : ∀ items : List Value,
    fault? (encodeItems op v sep p i items) =
      (Value.spotsOfItems items).findSome? (v.stopAt? true)
  | [] => rfl
  | item :: items => by
    rw [encodeItems, fault?_both, fault?_encodeValue _ item, fault?_encodeItems p (i + 1) items,
      Place.outermost_item, Bool.not_false, Bool.or_true, Value.spotsOfItems,
      List.findSome?_append]
termination_by structural items => items

theorem fault?_encodeEntries (p : Place) : ∀ entries : List (Value × Value),
    fault? (encodeEntries op v sep p entries) =
      (Value.spotsOfEntries entries).findSome? (v.stopAt? true)
  | [] => rfl
  | (key, item) :: entries => by
    -- behind any key the item is met inside the mapping
    have hitem : ∀ k, fault? (do
        let r ← encodeValue op v sep (p.entry op.named v.modifier k) item
        let rs ← encodeEntries op v sep p entries
        return r.toList ++ rs) =
          (item.spots ++ Value.spotsOfEntries entries).findSome? (v.stopAt? true) := by
      intro k
      rw [fault?_both, fault?_encodeValue _ item, fault?_encodeEntries p entries,
        Place.outermost_entry, Bool.not_false, Bool.or_true, List.findSome?_append]
    rw [encodeEntries, fault?_bind hitem, fault?_encodeKey, Value.spotsOfEntries,
      findSome?_cons_or]
    rfl
termination_by structural entries => entries

end

end Walk

/-! ## Variables, expressions, templates -/

/-- A length is asked of a composite value that holds a scalar. -/
def Variable.Refused (v : Variable) (p : Params) : Prop :=
  v.modifier.isLength = true ∧ (v.value p).isComposite = true ∧ (v.value p).hasLeaf = true

instance (v : Variable) (p : Params) : Decidable (v.Refused p) :=
  inferInstanceAs (Decidable (_ ∧ _ ∧ _))

/-- What the walk over the value of a variable stops with. -/
def Variable.stop? (v : Variable) (p : Params) : Option ExpansionFault :=
  (v.value p).spots.findSome? (v.stopAt? (v.value p).isComposite)

/-- What stops the expansion of a template: the first variable that is stopped. -/
def stop? (t : Template) (p : Params) : Option ExpansionFault :=
  t.vars.findSome? fun v => v.stop? p

theorem fault?_variable (op : Operator) (v : Variable) (p : Params) :
    fault? (v.expand op (v.value p)) = v.stop? p := by
  rw [Variable.stop?]
  by_cases hnull : v.value p = .null
  · rw [hnull]
    rfl
  · rw [Variable.expand_of_ne_null op v hnull, fault?_map, fault?_encodeValue, Place.start,
      Bool.not_true, Bool.or_false]

theorem fault?_expression (e : Expression) (p : Params) :
    fault? (e.expand p) = e.vars.findSome? fun v => v.stop? p := by
  rw [Expression.expand, fault?_return, fault?_mapM]
  exact congrArg (List.findSome? · e.vars) (funext fun v => fault?_variable _ v p)

theorem fault?_expand (t : Template) (p : Params) : fault? (t.expand p) = t.stop? p := by
  rw [expand, fault?_return, fault?_mapM, stop?, vars, expressions]
  induction t.parts with
  | nil => rfl
  | cons part parts ih =>
    rw [findSome?_cons_or, ih]
    cases part with
    | literal s => rfl
    | expression e =>
      have hvars : ((Part.expression e :: parts).filterMap Part.expression?).flatMap
          Expression.vars = e.vars ++ (parts.filterMap Part.expression?).flatMap
          Expression.vars := rfl
      have hpart : (Part.expression e).expand p = e.expand p := rfl
      rw [hvars, List.findSome?_append, hpart, fault?_expression]

/-! ## What stops a variable -/

section Stops

variable {v : Variable} {p : Params}

theorem stopAt?_eq_none_iff {inside : Bool} {s : Spot} :
    v.stopAt? inside s = none ↔ s.isWritable = true ∧ refusal v (inside && s.isLeaf) = none := by
  cases s with
  | key k => cases h : k.isWritable <;> simp [Variable.stopAt?, Spot.isWritable, Spot.isLeaf,
      refusal, h]
  | leaf x => cases h : x.isWritable <;> simp [Variable.stopAt?, Spot.isWritable, Spot.isLeaf, h]

theorem stopAt?_eq_some {inside : Bool} {s : Spot} {f : ExpansionFault}
    (h : v.stopAt? inside s = some f) :
    (f = .tooManyDigits ∧ s.isWritable = false) ∨
      (f = .lengthOfComposite v ∧ v.modifier.isLength = true ∧ inside = true ∧
        s.isLeaf = true) := by
  cases s with
  | key k =>
    cases hk : k.isWritable with
    | true => simp [Variable.stopAt?, hk] at h
    | false => exact Or.inl ⟨by simpa [Variable.stopAt?, hk, eq_comm] using h, hk⟩
  | leaf x =>
    cases hx : x.isWritable with
    | true =>
      simp only [Variable.stopAt?, hx, if_true, refusal] at h
      obtain ⟨hboth, hf⟩ := Option.ite_none_right_eq_some.1 h
      obtain ⟨hlength, hinside⟩ := (Bool.and_eq_true ..).mp hboth
      exact Or.inr ⟨(Option.some.inj hf).symm, hlength, hinside, rfl⟩
    | false => exact Or.inl ⟨by simpa [Variable.stopAt?, hx, eq_comm] using h, hx⟩

theorem hasLeaf_of_mem {value : Value} {s : Spot} (hs : s ∈ value.spots) (h : s.isLeaf = true) :
    value.hasLeaf = true := by
  rw [← Value.any_spots]
  exact List.any_eq_true.2 ⟨s, hs, h⟩

namespace Variable

/-- A variable that is stopped has an integer of too many digits, or a length is asked of
it. -/
theorem stop?_eq_some {f : ExpansionFault} (h : v.stop? p = some f) :
    (f = .tooManyDigits ∧ (v.value p).isWritable = false) ∨
      (f = .lengthOfComposite v ∧ v.Refused p) := by
  obtain ⟨before, s, after, hspots, hs, _⟩ := List.findSome?_eq_some_iff.1 h
  have hmem : s ∈ (v.value p).spots := hspots ▸ List.mem_append_right _ List.mem_cons_self
  refine (stopAt?_eq_some hs).imp ?_ ?_
  · rintro ⟨rfl, hwritable⟩
    refine ⟨rfl, ?_⟩
    rw [← Value.all_spots, List.all_eq_false]
    exact ⟨s, hmem, by simp [hwritable]⟩
  · rintro ⟨rfl, hlength, hinside, hleaf⟩
    exact ⟨rfl, hlength, hinside, hasLeaf_of_mem hmem hleaf⟩

theorem stop?_eq_none_iff : v.stop? p = none ↔ (v.value p).isWritable = true ∧ ¬v.Refused p := by
  rw [stop?, List.findSome?_eq_none_iff, ← Value.all_spots, List.all_eq_true]
  simp only [stopAt?_eq_none_iff]
  refine ⟨fun h => ⟨fun s hs => (h s hs).1, fun ⟨hlength, hcomposite, hleaf⟩ => ?_⟩,
    fun ⟨hwritable, hrefused⟩ s hs => ⟨hwritable s hs, ?_⟩⟩
  · rw [← Value.any_spots] at hleaf
    obtain ⟨s, hs, hsleaf⟩ := List.any_eq_true.1 hleaf
    have hnone := (h s hs).2
    simp [refusal, hlength, hcomposite, hsleaf] at hnone
  · refine if_neg fun hall => hrefused ?_
    obtain ⟨hlength, hboth⟩ := (Bool.and_eq_true ..).mp hall
    obtain ⟨hcomposite, hsleaf⟩ := (Bool.and_eq_true ..).mp hboth
    exact ⟨hlength, hcomposite, hasLeaf_of_mem hs hsleaf⟩

end Variable
end Stops

/-! ## What stops a template -/

section

variable {t : Template} {p : Params}

theorem stop?_eq_none_iff :
    t.stop? p = none ↔ ∀ v ∈ t.vars, (v.value p).isWritable = true ∧ ¬v.Refused p := by
  rw [stop?, List.findSome?_eq_none_iff]
  simp only [Variable.stop?_eq_none_iff]

theorem exists_expand_iff :
    (∃ u, t.expand p = .ok u) ↔ ∀ v ∈ t.vars, (v.value p).isWritable = true ∧ ¬v.Refused p := by
  rw [← fault?_eq_none, fault?_expand, stop?_eq_none_iff]

theorem stop?_ne_tooManyDigits (h : p.WritableIn t) : t.stop? p ≠ some .tooManyDigits := by
  intro hstop
  obtain ⟨before, v, after, hvars, hv, _⟩ := List.findSome?_eq_some_iff.1 hstop
  have hmem : v ∈ t.vars := hvars ▸ List.mem_append_right _ List.mem_cons_self
  rcases Variable.stop?_eq_some hv with ⟨_, hwritable⟩ | ⟨hf, _⟩
  · rw [Variable.isWritable_value h hmem] at hwritable
    cases hwritable
  · cases hf

/-- Where no digits are in the way, the first variable that is refused is at fault. -/
theorem stop?_eq_first_refused (h : t.stop? p ≠ some .tooManyDigits) :
    t.stop? p = (t.vars.find? fun v => v.Refused p).map ExpansionFault.lengthOfComposite := by
  rw [stop?] at h ⊢
  generalize t.vars = vs at h
  induction vs with
  | nil => rfl
  | cons v vs ih =>
    rw [findSome?_cons_or] at h ⊢
    cases hv : v.stop? p with
    | none =>
      rw [hv, Option.none_or] at h
      rw [List.find?_cons_of_neg (by simpa using (Variable.stop?_eq_none_iff.1 hv).2), ← ih h]
      rfl
    | some f =>
      rw [hv] at h
      rcases Variable.stop?_eq_some hv with ⟨rfl, _⟩ | ⟨rfl, hrefused⟩
      · exact absurd rfl h
      · rw [List.find?_cons_of_pos (by simpa using hrefused)]
        rfl

end

/-- The message of a refusal shows the variable as it is written. -/
theorem text_infix_message (source : String) (v : Variable) :
    v.text <:+: (Failure.lengthOfComposite source v).message.toList := by
  have hmessage : (Failure.lengthOfComposite source v).message = String.ofList
      ("Cannot expand ".toList ++ v.text ++ " in ".toList ++ Text.quoted source.toList) := rfl
  rw [hmessage, String.toList_ofList, List.append_assoc]
  exact List.infix_append _ _ _

section

variable {source : String} {t : Template} (ht : parse source = .ok t) {p : Params}
  (hp : p.Admissible)

include ht hp

theorem url_eq_error_iff_stop? (fault : ExpansionFault) :
    url source p = .error (.ofFault source fault) ↔ t.stop? p = some fault := by
  rw [url_eq_error_iff ht hp, ← fault?_eq_some, fault?_expand]

theorem exists_url_iff :
    (∃ u, url source p = .ok u) ↔
      ∀ v ∈ t.vars, (v.value p).isWritable = true ∧ ¬v.Refused p := by
  simp only [url_eq_ok_iff ht hp, exists_expand_iff]

theorem url_ne_tooManyDigits (h : p.WritableIn t) : url source p ≠ .error .tooManyDigits :=
  fun hurl => stop?_ne_tooManyDigits h ((url_eq_error_iff_stop? ht hp .tooManyDigits).1 hurl)

/-- Where nothing is refused, an integer of too many digits is what is left to go wrong. -/
theorem url_eq_tooManyDigits (hrefused : ∀ v ∈ t.vars, ¬v.Refused p)
    (hdigits : ∃ v ∈ t.vars, (v.value p).isWritable = false) :
    url source p = .error .tooManyDigits := by
  refine (url_eq_error_iff_stop? ht hp .tooManyDigits).2 ?_
  cases hstop : t.stop? p with
  | none =>
    obtain ⟨v, hv, hwritable⟩ := hdigits
    rw [(stop?_eq_none_iff.1 hstop v hv).1] at hwritable
    cases hwritable
  | some f =>
    obtain ⟨before, v, after, hvars, hv, _⟩ := List.findSome?_eq_some_iff.1 hstop
    rcases Variable.stop?_eq_some hv with ⟨rfl, _⟩ | ⟨_, h⟩
    · rfl
    · exact absurd h (hrefused v (hvars ▸ List.mem_append_right _ List.mem_cons_self))

section Refusals

variable (hdigits : url source p ≠ .error .tooManyDigits)
include hdigits

/-- Where no digits are in the way, the first variable of which a length is asked is at fault. -/
theorem url_eq_lengthOfComposite_iff (v : Variable) :
    url source p = .error (.lengthOfComposite source v) ↔
      (t.vars.find? fun w => w.Refused p) = some v := by
  have hstop : t.stop? p =
      (t.vars.find? fun w => w.Refused p).map ExpansionFault.lengthOfComposite :=
    stop?_eq_first_refused fun h => hdigits ((url_eq_error_iff_stop? ht hp .tooManyDigits).2 h)
  refine (url_eq_error_iff_stop? ht hp (.lengthOfComposite v)).trans ?_
  rw [hstop, Option.map_eq_some_iff]
  constructor
  · rintro ⟨w, hw, hwv⟩
    cases hwv
    exact hw
  · exact fun h => ⟨v, h, rfl⟩

theorem exists_lengthOfComposite_iff :
    (∃ v, url source p = .error (.lengthOfComposite source v)) ↔ ∃ v ∈ t.vars, v.Refused p := by
  simp only [url_eq_lengthOfComposite_iff ht hp hdigits]
  rw [← Option.isSome_iff_exists, List.find?_isSome]
  simp only [decide_eq_true_eq]

theorem exists_url_of_not_refused (h : ¬∃ v ∈ t.vars, v.Refused p) :
    ∃ u, url source p = .ok u := by
  refine (exists_url_iff ht hp).2 fun v hv => ⟨?_, fun hrefused => h ⟨v, hv, hrefused⟩⟩
  rw [← Bool.not_eq_false]
  intro hwritable
  exact hdigits (url_eq_tooManyDigits ht hp (fun w hw hrefused => h ⟨w, hw, hrefused⟩)
    ⟨v, hv, hwritable⟩)

end Refusals

/-- There is a URL just where all values can be written and no length is asked of a composite
with a scalar in it.  Else the first variable that is stopped says why.  Unless that is for an
integer of too many digits, an expansion is refused just where a length is asked of such a
composite, for the first variable that asks. -/
theorem url_refused_iff :
    ((∃ u, url source p = .ok u) ↔
        ∀ v ∈ t.vars, (v.value p).isWritable = true ∧ ¬v.Refused p) ∧
      (∀ fault, url source p = .error (.ofFault source fault) ↔ t.stop? p = some fault) ∧
      (p.WritableIn t → url source p ≠ .error .tooManyDigits) ∧
      (url source p ≠ .error .tooManyDigits →
        ((∃ v, url source p = .error (.lengthOfComposite source v)) ↔ ∃ v ∈ t.vars, v.Refused p) ∧
          (∀ before v after, t.vars = before ++ v :: after → (∀ w ∈ before, ¬w.Refused p) →
            v.Refused p → url source p = .error (.lengthOfComposite source v) ∧
              v.text <:+: (Failure.lengthOfComposite source v).message.toList) ∧
          ((¬∃ v ∈ t.vars, v.Refused p) → ∃ u, url source p = .ok u)) := by
  refine ⟨exists_url_iff ht hp, url_eq_error_iff_stop? ht hp,
    url_ne_tooManyDigits ht hp, fun hdigits => ⟨exists_lengthOfComposite_iff ht hp hdigits,
      fun before v after hvars hbefore hv => ⟨?_, text_infix_message _ v⟩,
      exists_url_of_not_refused ht hp hdigits⟩⟩
  rw [url_eq_lengthOfComposite_iff ht hp hdigits, List.find?_eq_some_iff_append]
  exact ⟨decide_eq_true hv, before, after, hvars, by simpa using hbefore⟩

end

/-- A mapping without a scalar under `d`, nothing under `e`, and what is given under `n`. -/
def nestedParams (n : Value) : Params :=
  [("d", .map [(.text "k", .list [.null, .list [], .tuple [.null]])]), ("n", n)]

theorem url_refused_iff_nested :
    let source := "/{d:2}{?e:3=x,n:4}"
    let last : Variable := ⟨"n", "n", .first 4, none⟩
    (∃ t, parse source = .ok t ∧ t.vars.getLast? = some last) ∧
      (nestedParams (.tuple [.map [(.int 1, .bytes [7])]])).Admissible ∧
      url source (nestedParams (.tuple [.map [(.int 1, .bytes [7])]])) =
        .error (.lengthOfComposite source last) ∧
      ∃ u, url source (nestedParams (.tuple [.map [(.int 1, .bytes [])]])) = .ok u := by
  have hread : ∃ t, parse "/{d:2}{?e:3=x,n:4}" = .ok t ∧
      t.vars = [⟨"d", "d", .first 2, none⟩, ⟨"e", "e", .first 3, some "x"⟩] ++
        ⟨"n", "n", .first 4, none⟩ :: [] := ⟨_, rfl, by decide⟩
  obtain ⟨t, ht, hvars⟩ := hread
  have hp : ∀ n, (nestedParams n).Admissible := by simp [nestedParams, Params.Admissible]
  have hwritable : ∀ n : Value, n.isWritable = true → (nestedParams n).WritableIn t := by
    intro n hn
    refine Params.writableIn_of_forall (fun e he => ?_) t
    rcases List.mem_cons.1 he with rfl | he
    · rfl
    · rw [List.mem_singleton.1 he]
      exact hn
  refine ⟨⟨t, ht, by rw [hvars]; rfl⟩, hp _, ?_, ?_⟩
  · obtain ⟨_, _, hdigits, hrefused⟩ :=
      url_refused_iff ht (hp (.tuple [.map [(.int 1, .bytes [7])]]))
    obtain ⟨_, hfirst, _⟩ := hrefused (hdigits (hwritable _ (by decide)))
    exact (hfirst _ _ _ hvars (by decide) (by decide)).1
  · obtain ⟨_, _, hdigits, hrefused⟩ :=
      url_refused_iff ht (hp (.tuple [.map [(.int 1, .bytes [])]]))
    obtain ⟨_, _, hurl⟩ := hrefused (hdigits (hwritable _ (by decide)))
    refine hurl ?_
    rw [hvars]
    decide

/-- A number of too many digits under `n`. -/
def tooLongParams : Params := [("n", .int Decimal.tooLong)]

/-- A template that looks up just such a number makes no URL. -/
theorem url_of_tooLong {source : String} {t : Template} (ht : parse source = .ok t)
    (hvars : t.vars = [⟨"n", "n", .none, none⟩]) {p : Params} (hp : p.Admissible)
    (hn : p.lookup "n" = some (.int Decimal.tooLong)) :
    url source p = .error .tooManyDigits := by
  refine url_eq_tooManyDigits ht hp ?_ ⟨⟨"n", "n", .none, none⟩, ?_, ?_⟩
  · rw [hvars]
    rintro v hv ⟨hlength, _⟩
    rw [List.mem_singleton.1 hv] at hlength
    cases hlength
  · rw [hvars]
    exact List.mem_cons_self
  · have hvalue : Variable.value ⟨"n", "n", .none, none⟩ p = .int Decimal.tooLong := by
      rw [Variable.value, hn]
      rfl
    rw [hvalue]
    exact Decimal.not_isWritable_tooLong

/-- No length is asked for, and there is no URL. -/
theorem too_many_digits_are_no_refusal :
    ∃ t, parse "/{n}" = .ok t ∧ tooLongParams.Admissible ∧
      (¬∃ v ∈ t.vars, v.Refused tooLongParams) ∧
      url "/{n}" tooLongParams = .error .tooManyDigits := by
  obtain ⟨t, ht, hvars⟩ : ∃ t, parse "/{n}" = .ok t ∧ t.vars = [⟨"n", "n", .none, none⟩] :=
    ⟨_, rfl, rfl⟩
  refine ⟨t, ht, by decide, ?_, url_of_tooLong ht hvars (by decide) rfl⟩
  rintro ⟨v, hv, hlength, _⟩
  rw [hvars] at hv
  rw [List.mem_singleton.1 hv] at hlength
  cases hlength

end Template
end RouteTemplate
