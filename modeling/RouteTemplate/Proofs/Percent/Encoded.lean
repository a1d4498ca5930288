/-
Text that can stand in a URI as it is: unreserved characters, reserved
characters and whole triplets.

Every encoding comes out as such text, and the encoding that keeps triplets
leaves such text as it finds it.  The two together are what makes encoding a
second time do nothing, and neither says anything about where the text came
from, so they serve for literals, names, keys and values alike.
-/
import RouteTemplate.Text.Percent

namespace RouteTemplate
namespace Percent

/-- The characters that a URI holds outside triplets. -/
def isUriChar (c : Char) : Bool := isUnreserved c || isReserved c

inductive Encoded : List Char → Prop where
  | nil : Encoded []
  | char {c : Char} {s : List Char} (hc : isUriChar c = true) (hs : Encoded s) : Encoded (c :: s)
  | triplet {a b : Char} {s : List Char} (ha : isHexDigit a = true) (hb : isHexDigit b = true)
      (hs : Encoded s) : Encoded ('%' :: a :: b :: s)

/-! ## Characters -/

theorem isUriChar_of_isUnreserved {c : Char} (h : isUnreserved c = true) : isUriChar c = true := by
  rw [isUriChar, h, Bool.true_or]

theorem ne_percent_of_isUriChar {c : Char} (h : isUriChar c = true) : c ≠ '%' := by
  rintro rfl
  exact absurd h (by decide)

theorem isAlphanum_of_isHexDigit {c : Char} (h : isHexDigit c = true) : c.isAlphanum = true := by
  simp only [isHexDigit, Char.isDigit, Bool.or_eq_true, Bool.and_eq_true, decide_eq_true_eq,
    Char.le_def, ge_iff_le] at h
  have hupper : c.isUpper = decide (c.val ≥ 'A'.val ∧ c.val ≤ 'Z'.val) := rfl
  have hlower : c.isLower = (decide (c.val ≥ 'a'.val) && decide (c.val ≤ 'z'.val)) := rfl
  have halpha : c.isAlpha = (c.isUpper || c.isLower) := rfl
  simp only [Char.isAlphanum, halpha, hupper, hlower, Char.isDigit, Bool.or_eq_true,
    Bool.and_eq_true, decide_eq_true_eq, ge_iff_le]
  rcases h with (h | h) | h
  · exact Or.inr h
  · exact Or.inl (Or.inr ⟨h.1, Nat.le_trans h.2 (by decide)⟩)
  · exact Or.inl (Or.inl ⟨h.1, Nat.le_trans h.2 (by decide)⟩)

theorem isUnreserved_of_isHexDigit {c : Char} (h : isHexDigit c = true) :
    isUnreserved c = true := by
  rw [isUnreserved, isAlphanum_of_isHexDigit h, Bool.true_or]

theorem isHexDigit_hexDigit : ∀ {n : Nat}, n < 16 → isHexDigit (hexDigit n) = true := by
  decide

/-! ## Triplets from left to right -/

def startsWithTriplet : List Char → Bool
  | '%' :: a :: b :: _ => isHexDigit a && isHexDigit b
  | _ => false

theorem startsWithTriplet_iff {s : List Char} : startsWithTriplet s = true ↔
    ∃ a b rest, s = '%' :: a :: b :: rest ∧ isHexDigit a = true ∧ isHexDigit b = true := by
  constructor
  · intro h
    unfold startsWithTriplet at h
    split at h
    · exact ⟨_, _, _, rfl, (Bool.and_eq_true ..).mp h⟩
    · cases h
  · rintro ⟨a, b, rest, rfl, ha, hb⟩
    rw [startsWithTriplet, ha, hb, Bool.and_true]

theorem startsWithTriplet_of_ne {c : Char} (hc : c ≠ '%') (s : List Char) :
    startsWithTriplet (c :: s) = false := by
  rw [← Bool.not_eq_true, startsWithTriplet_iff]
  rintro ⟨a, b, rest, h, _⟩
  exact hc (List.cons.inj h).1

/-- A triplet is passed as a whole, any other character by itself. -/
@[elab_as_elim]
theorem tripletInduction {motive : List Char → Prop} (nil : motive [])
    (triplet : ∀ a b s, isHexDigit a = true → isHexDigit b = true → motive s →
      motive ('%' :: a :: b :: s))
    (char : ∀ c s, startsWithTriplet (c :: s) = false → motive s → motive (c :: s))
    (s : List Char) : motive s := by
  have hbound : ∀ (n : Nat) (s : List Char), s.length ≤ n → motive s := by
    intro n
    induction n with
    | zero =>
      intro s hs
      rw [List.length_eq_zero_iff.1 (Nat.le_zero.1 hs)]
      exact nil
    | succ n ih =>
      intro s hs
      match s with
      | [] => exact nil
      | c :: cs =>
        rw [List.length_cons] at hs
        cases h : startsWithTriplet (c :: cs) with
        | false => exact char c cs h (ih cs (Nat.le_of_succ_le_succ hs))
        | true =>
          obtain ⟨a, b, rest, hcs, ha, hb⟩ := startsWithTriplet_iff.1 h
          cases hcs
          rw [List.length_cons, List.length_cons] at hs
          exact triplet a b rest ha hb (ih rest (by omega))
  exact hbound s.length s (Nat.le_refl _)

theorem encodeKeeping_triplet (keep : Char → Bool) {a b : Char} (ha : isHexDigit a = true)
    (hb : isHexDigit b = true) (s : List Char) :
    encodeKeeping keep ('%' :: a :: b :: s) = '%' :: a :: b :: encodeKeeping keep s := by
  rw [encodeKeeping, ha, hb, Bool.and_true, if_pos rfl]

theorem encodeKeeping_cons (keep : Char → Bool) {c : Char} {s : List Char}
    (h : startsWithTriplet (c :: s) = false) :
    encodeKeeping keep (c :: s) = encodeUnless keep c ++ encodeKeeping keep s := by
  rw [encodeKeeping.eq_def]
  split
  · contradiction
  · split
    · rename_i heq hab
      cases heq
      rw [startsWithTriplet, hab] at h
      cases h
    · rename_i heq _
      cases heq
      rfl
  · rename_i heq
    cases heq
    rfl

/-! ## Building encoded text -/

theorem encoded_singleton {c : Char} (h : isUriChar c = true) : Encoded [c] :=
  .char h .nil

theorem Encoded.append {s t : List Char} (hs : Encoded s) (ht : Encoded t) : Encoded (s ++ t) := by
  induction hs with
  | nil => exact ht
  | char hc _ ih => exact .char hc ih
  | triplet ha hb _ ih => exact .triplet ha hb ih

theorem encoded_flatten {ss : List (List Char)} (h : ∀ s ∈ ss, Encoded s) :
    Encoded ss.flatten := by
  induction ss with
  | nil => exact .nil
  | cons s ss ih =>
    rw [List.flatten_cons]
    exact (h s List.mem_cons_self).append (ih fun t ht => h t (List.mem_cons_of_mem s ht))

theorem encoded_intercalate {c : Char} (hc : isUriChar c = true) :
    ∀ {ss : List (List Char)}, (∀ s ∈ ss, Encoded s) → Encoded (List.intercalate [c] ss)
  | [], _ => .nil
  | [s], h => by
    rw [List.intercalate_singleton]
    exact h s List.mem_cons_self
  | s :: t :: ss, h => by
    rw [List.intercalate_cons_cons]
    have ht := encoded_intercalate hc fun u hu => h u (List.mem_cons_of_mem s hu)
    exact ((h s List.mem_cons_self).append (encoded_singleton hc)).append ht

theorem encoded_of_forall {s : List Char} (h : ∀ c ∈ s, isUriChar c = true) : Encoded s := by
  induction s with
  | nil => exact .nil
  | cons c cs ih =>
    exact .char (h c List.mem_cons_self) (ih fun d hd => h d (List.mem_cons_of_mem c hd))

/-! ## What encodings come to -/

theorem encoded_triplet (b : UInt8) : Encoded (triplet b) := by
  have hb : b.toNat < 256 := b.toNat_lt_size
  exact .triplet (isHexDigit_hexDigit (by omega)) (isHexDigit_hexDigit (by omega)) .nil

theorem encodeChar_ne_nil (c : Char) : encodeChar c ≠ [] := by
  have hlength : (String.utf8EncodeChar c).length ≠ 0 := by
    rw [String.length_utf8EncodeChar]
    exact Nat.ne_of_gt c.utf8Size_pos
  cases h : String.utf8EncodeChar c with
  | nil =>
    rw [h] at hlength
    exact absurd rfl hlength
  | cons b bs =>
    rw [encodeChar, h, List.flatMap_cons, triplet]
    exact List.cons_ne_nil _ _

theorem encodeUnless_ne_nil (keep : Char → Bool) (c : Char) : encodeUnless keep c ≠ [] := by
  unfold encodeUnless
  split
  · exact List.cons_ne_nil _ _
  · exact encodeChar_ne_nil c

theorem encodeAll_eq_nil_iff {keep : Char → Bool} {s : List Char} :
    encodeAll keep s = [] ↔ s = [] := by
  cases s with
  | nil => exact ⟨fun _ => rfl, fun _ => rfl⟩
  | cons c cs =>
    exact ⟨fun h => absurd (List.append_eq_nil_iff.1 h).1 (encodeUnless_ne_nil keep c),
      fun h => by cases h⟩

theorem encodeKeeping_ne_nil (keep : Char → Bool) {s : List Char} (h : s ≠ []) :
    encodeKeeping keep s ≠ [] := by
  fun_cases encodeKeeping keep s with
  | case1 => exact absurd rfl h
  | case2 => exact List.cons_ne_nil _ _
  | case3 => exact List.append_ne_nil_of_left_ne_nil (encodeUnless_ne_nil keep '%') _
  | case4 c cs => exact List.append_ne_nil_of_left_ne_nil (encodeUnless_ne_nil keep c) _

theorem encoded_encodeChar (c : Char) : Encoded (encodeChar c) := by
  refine encoded_flatten fun s hs => ?_
  obtain ⟨b, _, rfl⟩ := List.mem_map.1 hs
  exact encoded_triplet b

section Keeping

variable {keep : Char → Bool} (hkeep : ∀ c, keep c = true → isUriChar c = true)

include hkeep

theorem encoded_encodeUnless (c : Char) : Encoded (encodeUnless keep c) := by
  unfold encodeUnless
  split
  · exact encoded_singleton (hkeep c ‹_›)
  · exact encoded_encodeChar c

theorem encoded_encodeAll (s : List Char) : Encoded (encodeAll keep s) := by
  induction s with
  | nil => exact .nil
  | cons c cs ih => exact (encoded_encodeUnless hkeep c).append ih

theorem encoded_encodeKeeping (s : List Char) : Encoded (encodeKeeping keep s) := by
  induction s using tripletInduction with
  | nil => exact .nil
  | triplet a b s ha hb ih =>
    rw [encodeKeeping_triplet keep ha hb]
    exact .triplet ha hb ih
  | char c s h ih =>
    rw [encodeKeeping_cons keep h]
    exact (encoded_encodeUnless hkeep c).append ih

end Keeping

/-! ## Encoded text encoded again -/

theorem encodeKeeping_eq_self {s : List Char} (h : Encoded s) :
    encodeKeeping isUriChar s = s := by
  induction h with
  | nil => rfl
  | char hc _ ih =>
    rw [encodeKeeping_cons _ (startsWithTriplet_of_ne (ne_percent_of_isUriChar hc) _), ih,
      encodeUnless, if_pos hc]
    rfl
  | triplet ha hb _ ih => rw [encodeKeeping_triplet _ ha hb, ih]

/-- Encoded text holds no brace, so it is a template without expressions. -/
theorem Encoded.not_mem {s : List Char} {c : Char} (h : Encoded s) (hc : c ≠ '%')
    (hu : isUriChar c = false) : c ∉ s := by
  induction h with
  | nil => exact List.not_mem_nil
  | char hd _ ih =>
    rintro (_ | ⟨_, hm⟩)
    · exact absurd hd (by rw [hu]; exact Bool.false_ne_true)
    · exact ih hm
  | triplet ha hb _ ih =>
    have hex : isHexDigit c ≠ true := fun hx => by
      rw [isUriChar_of_isUnreserved (isUnreserved_of_isHexDigit hx)] at hu
      exact absurd hu (by decide)
    simp only [List.mem_cons, not_or]
    exact ⟨hc, fun h => hex (h ▸ ha), fun h => hex (h ▸ hb), ih⟩

end Percent

namespace Charset

open Percent

theorem encoded_encode (cs : Charset) (s : List Char) : Encoded (cs.encode s) := by
  cases cs with
  | unreserved => exact encoded_encodeAll (fun _ => isUriChar_of_isUnreserved) s
  | reserved => exact encoded_encodeKeeping (fun _ => id) s

/-- No text vanishes when it is encoded. -/
theorem encode_ne_nil (cs : Charset) {s : List Char} (h : s ≠ []) : cs.encode s ≠ [] := by
  cases cs with
  | unreserved => exact mt encodeAll_eq_nil_iff.1 h
  | reserved => exact encodeKeeping_ne_nil _ h

/-- What has been encoded already stays as it is in the set that keeps triplets. -/
theorem reserved_encode_eq_self {s : List Char} (h : Encoded s) : reserved.encode s = s :=
  encodeKeeping_eq_self h

end Charset
end RouteTemplate
