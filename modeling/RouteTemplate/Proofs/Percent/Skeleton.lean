/-
What of a URI is structure.  The skeleton of a text is the text without its
unreserved characters and its triplets, so what is left is the delimiters in
their order and any `%` that opens no triplet.

A value that is encoded with the unreserved set leaves no trace in a skeleton.
Skeletons are taken from left to right and a cut through a triplet would show in
them, which is why `skeleton_append` asks for encoded text on its left.
-/
import Mathlib.Data.List.Forall2
import RouteTemplate.Proofs.Percent.Encoded

namespace RouteTemplate
namespace Percent

def skeleton : List Char → List Char
  | [] => []
  | '%' :: a :: b :: rest =>
    if isHexDigit a && isHexDigit b then skeleton rest else '%' :: skeleton (a :: b :: rest)
  | c :: cs => if isUnreserved c then skeleton cs else c :: skeleton cs

theorem skeleton_triplet {a b : Char} (ha : isHexDigit a = true) (hb : isHexDigit b = true)
    (s : List Char) : skeleton ('%' :: a :: b :: s) = skeleton s := by
  rw [skeleton, ha, hb, Bool.and_true, if_pos rfl]

theorem skeleton_cons {c : Char} (hc : c ≠ '%') (s : List Char) :
    skeleton (c :: s) = if isUnreserved c then skeleton s else c :: skeleton s := by
  rw [skeleton]
  intro a b rest h
  exact absurd h hc

theorem skeleton_append {s : List Char} (hs : Encoded s) (t : List Char) :
    skeleton (s ++ t) = skeleton s ++ skeleton t := by
  induction hs with
  | nil => rfl
  | char hc _ ih =>
    rw [List.cons_append, skeleton_cons (ne_percent_of_isUriChar hc),
      skeleton_cons (ne_percent_of_isUriChar hc), ih]
    split
    · rfl
    · rfl
  | triplet ha hb _ ih =>
    rw [List.cons_append, List.cons_append, List.cons_append, skeleton_triplet ha hb,
      skeleton_triplet ha hb, ih]

/-! ## Encoded values -/

theorem skeleton_triplets (bs : List UInt8) : skeleton (bs.flatMap triplet) = [] := by
  induction bs with
  | nil => rfl
  | cons b bs ih =>
    have hb : b.toNat < 256 := b.toNat_lt_size
    rw [List.flatMap_cons, skeleton_append (encoded_triplet b), ih, triplet,
      skeleton_triplet (isHexDigit_hexDigit (by omega)) (isHexDigit_hexDigit (by omega))]
    rfl

theorem skeleton_encodeUnless_isUnreserved (c : Char) :
    skeleton (encodeUnless isUnreserved c) = [] := by
  unfold encodeUnless
  split
  · have hc : c ≠ '%' := ne_percent_of_isUriChar (isUriChar_of_isUnreserved ‹_›)
    rw [skeleton_cons hc, if_pos ‹_›]
    rfl
  · exact skeleton_triplets _

/-- No text can add a delimiter when it is encoded as a value. -/
theorem skeleton_unreserved_encode (s : List Char) : skeleton (Charset.unreserved.encode s) = [] := by
  induction s with
  | nil => rfl
  | cons c cs ih =>
    have hc : Encoded (encodeUnless isUnreserved c) :=
      encoded_encodeUnless (fun _ => isUriChar_of_isUnreserved) c
    show skeleton (encodeUnless isUnreserved c ++ Charset.unreserved.encode cs) = []
    rw [skeleton_append hc, skeleton_encodeUnless_isUnreserved, ih]
    rfl

/-! ## Texts with the same skeleton -/

/-- Encoded texts that differ at most in values. -/
structure SameSkeleton (s t : List Char) : Prop where
  left : Encoded s
  right : Encoded t
  eq : skeleton s = skeleton t

namespace SameSkeleton

theorem refl {s : List Char} (hs : Encoded s) : SameSkeleton s s := ⟨hs, hs, rfl⟩

theorem append {s t s' t' : List Char} (h : SameSkeleton s t) (h' : SameSkeleton s' t') :
    SameSkeleton (s ++ s') (t ++ t') where
  left := h.left.append h'.left
  right := h.right.append h'.right
  eq := by rw [skeleton_append h.left, skeleton_append h.right, h.eq, h'.eq]

theorem nil : SameSkeleton [] [] := refl .nil

theorem flatten {ss ts : List (List Char)} (h : List.Forall₂ SameSkeleton ss ts) :
    SameSkeleton ss.flatten ts.flatten := by
  induction h with
  | nil => exact nil
  | cons hst _ ih =>
    rw [List.flatten_cons, List.flatten_cons]
    exact hst.append ih

theorem intercalate {c : Char} (hc : isUriChar c = true) {ss ts : List (List Char)}
    (h : List.Forall₂ SameSkeleton ss ts) :
    SameSkeleton (List.intercalate [c] ss) (List.intercalate [c] ts) := by
  induction h with
  | nil => exact nil
  | @cons s t ss ts hst hrest ih =>
    cases hrest with
    | nil =>
      rw [List.intercalate_singleton, List.intercalate_singleton]
      exact hst
    | cons _ _ =>
      rw [List.intercalate_cons_cons, List.intercalate_cons_cons]
      exact (hst.append (refl (encoded_singleton hc))).append ih

theorem encode_unreserved (s t : List Char) :
    SameSkeleton (Charset.unreserved.encode s) (Charset.unreserved.encode t) where
  left := Charset.unreserved.encoded_encode s
  right := Charset.unreserved.encoded_encode t
  eq := by rw [skeleton_unreserved_encode, skeleton_unreserved_encode]

end SameSkeleton
end Percent
end RouteTemplate
