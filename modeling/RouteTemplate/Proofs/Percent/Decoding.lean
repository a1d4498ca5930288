/-
What encoded text stands for.

Decoding passes over a text as encoding does, triplet by triplet, so the two are
compared by one induction.  A value that was encoded decodes to the UTF-8 form of
the text it came from.  Text in which triplets are kept decodes to what it
decoded to before, which is its own UTF-8 form only if it holds no triplet.

A delimiter is neither part of a triplet nor ever the result of encoding
something else.  That is why a list and a query can be cut at their delimiters
first and decoded piece by piece afterwards.
-/
import RouteTemplate.Proofs.Outcome
import RouteTemplate.Proofs.Percent.Encoded
import RouteTemplate.Text.Pieces

namespace RouteTemplate
namespace Percent

/-! ## Bytes -/

/-- The UTF-8 form of a text. -/
def utf8 (s : List Char) : List UInt8 := s.flatMap String.utf8EncodeChar

def holdsTriplet : List Char → Bool
  | [] => false
  | c :: cs => startsWithTriplet (c :: cs) || holdsTriplet cs

theorem utf8_cons (c : Char) (s : List Char) : utf8 (c :: s) = String.utf8EncodeChar c ++ utf8 s :=
  List.flatMap_cons

theorem length_utf8EncodeChar_pos (c : Char) : 0 < (String.utf8EncodeChar c).length := by
  rw [String.length_utf8EncodeChar]
  exact c.utf8Size_pos

theorem hexValue?_hexDigit : ∀ {n : Nat}, n < 16 → hexValue? (hexDigit n) = some n := by
  decide

theorem exists_hexValue? {c : Char} (h : isHexDigit c = true) : ∃ n, hexValue? c = some n := by
  simp only [isHexDigit, Bool.or_eq_true, Bool.and_eq_true, decide_eq_true_eq] at h
  unfold hexValue?
  split
  · exact ⟨_, rfl⟩
  · split
    · exact ⟨_, rfl⟩
    · split
      · exact ⟨_, rfl⟩
      · simp_all

theorem isHexDigit_of_hexValue? {c : Char} {n : Nat} (h : hexValue? c = some n) :
    isHexDigit c = true := by
  simp only [isHexDigit, Bool.or_eq_true, Bool.and_eq_true, decide_eq_true_eq]
  unfold hexValue? at h
  split at h
  · exact Or.inl (Or.inl ‹_›)
  · split at h
    · exact Or.inl (Or.inr ‹_›)
    · split at h
      · exact Or.inr ‹_›
      · cases h

/-! ## Decoding from left to right -/

/-- A triplet is one byte, whatever stands behind it. -/
theorem exists_decode_triplet {a b : Char} (ha : isHexDigit a = true) (hb : isHexDigit b = true) :
    ∃ byte, ∀ s, decode ('%' :: a :: b :: s) = byte :: decode s := by
  obtain ⟨x, hx⟩ := exists_hexValue? ha
  obtain ⟨y, hy⟩ := exists_hexValue? hb
  refine ⟨UInt8.ofNat (16 * x + y), fun s => ?_⟩
  rw [decode, hx, hy]

theorem decode_cons {c : Char} {s : List Char} (h : startsWithTriplet (c :: s) = false) :
    decode (c :: s) = String.utf8EncodeChar c ++ decode s := by
  rw [decode.eq_def]
  split
  · contradiction
  · rename_i heq
    cases heq
    split
    · rename_i hx hy
      rw [startsWithTriplet, isHexDigit_of_hexValue? hx, isHexDigit_of_hexValue? hy] at h
      cases h
    · rfl
  · rename_i heq
    cases heq
    rfl

theorem decode_triplet_append (b : UInt8) (s : List Char) :
    decode (triplet b ++ s) = b :: decode s := by
  have hb : b.toNat < 256 := b.toNat_lt_size
  have hbyte : UInt8.ofNat (16 * (b.toNat / 16) + b.toNat % 16) = b := by
    rw [Nat.div_add_mod, UInt8.ofNat_toNat]
  show decode ('%' :: hexDigit (b.toNat / 16) :: hexDigit (b.toNat % 16) :: s) = _
  rw [decode, hexValue?_hexDigit (by omega), hexValue?_hexDigit (by omega)]
  show UInt8.ofNat (16 * (b.toNat / 16) + b.toNat % 16) :: decode s = b :: decode s
  rw [hbyte]

theorem decode_encodeChar_append (c : Char) (s : List Char) :
    decode (encodeChar c ++ s) = String.utf8EncodeChar c ++ decode s := by
  rw [encodeChar]
  induction String.utf8EncodeChar c with
  | nil => rfl
  | cons b bs ih => rw [List.flatMap_cons, List.append_assoc, decode_triplet_append, ih, List.cons_append]

section Keep

variable {keep : Char → Bool} (hkeep : keep '%' = false)
include hkeep

theorem decode_encodeUnless_append (c : Char) (s : List Char) :
    decode (encodeUnless keep c ++ s) = String.utf8EncodeChar c ++ decode s := by
  unfold encodeUnless
  split
  · have hc : c ≠ '%' := by
      rintro rfl
      simp_all
    exact decode_cons (startsWithTriplet_of_ne hc s)
  · exact decode_encodeChar_append c s

/-- Encoding everything is undone by decoding. -/
theorem decode_encodeAll (s : List Char) : decode (encodeAll keep s) = utf8 s := by
  induction s with
  | nil => rfl
  | cons c s ih =>
    show decode (encodeUnless keep c ++ encodeAll keep s) = _
    rw [decode_encodeUnless_append hkeep, ih, utf8_cons]

/-- Encoding around triplets makes no difference to decoding. -/
theorem decode_encodeKeeping (s : List Char) : decode (encodeKeeping keep s) = decode s := by
  induction s using tripletInduction with
  | nil => rfl
  | triplet a b s ha hb ih =>
    obtain ⟨byte, hbyte⟩ := exists_decode_triplet ha hb
    rw [encodeKeeping_triplet keep ha hb, hbyte, hbyte, ih]
  | char c s h ih =>
    rw [encodeKeeping_cons keep h, decode_encodeUnless_append hkeep, decode_cons h, ih]

end Keep

/-! ## What a text stands for by itself -/

theorem holdsTriplet_cons {c : Char} {s : List Char} (h : startsWithTriplet (c :: s) = false) :
    holdsTriplet (c :: s) = holdsTriplet s := by
  rw [holdsTriplet, h, Bool.false_or]

theorem holdsTriplet_of_not_mem {s : List Char} (h : '%' ∉ s) : holdsTriplet s = false := by
  induction s with
  | nil => rfl
  | cons c s ih =>
    rw [List.mem_cons, not_or] at h
    rw [holdsTriplet_cons (startsWithTriplet_of_ne (Ne.symm h.1) s), ih h.2]

theorem length_decode_le (s : List Char) : (decode s).length ≤ (utf8 s).length := by
  induction s using tripletInduction with
  | nil => exact Nat.le_refl _
  | triplet a b s ha hb ih =>
    obtain ⟨byte, hbyte⟩ := exists_decode_triplet ha hb
    have hpos := length_utf8EncodeChar_pos '%'
    simp only [hbyte, utf8_cons, List.length_cons, List.length_append]
    omega
  | char c s h ih =>
    simp only [decode_cons h, utf8_cons, List.length_append]
    omega

/-- Each triplet makes the decoded form shorter than the text. -/
theorem length_decode_lt {s : List Char} (htriplet : holdsTriplet s = true) :
    (decode s).length < (utf8 s).length := by
  induction s using tripletInduction with
  | nil => cases htriplet
  | triplet a b s ha hb ih =>
    obtain ⟨byte, hbyte⟩ := exists_decode_triplet ha hb
    have hpos := length_utf8EncodeChar_pos '%'
    have hpos' := length_utf8EncodeChar_pos a
    have hle := length_decode_le s
    simp only [hbyte, utf8_cons, List.length_cons, List.length_append]
    omega
  | char c s h ih =>
    rw [holdsTriplet_cons h] at htriplet
    have hlt := ih htriplet
    simp only [decode_cons h, utf8_cons, List.length_append]
    omega

theorem decode_eq_utf8_iff (s : List Char) : decode s = utf8 s ↔ holdsTriplet s = false := by
  constructor
  · intro h
    rw [← Bool.not_eq_true]
    intro htriplet
    have hlt := length_decode_lt htriplet
    rw [h] at hlt
    omega
  · intro h
    induction s with
    | nil => rfl
    | cons c s ih =>
      rw [holdsTriplet, Bool.or_eq_false_iff] at h
      rw [decode_cons h.1, ih h.2, utf8_cons]

/-! ## Delimiters -/

section Delimiters

variable {c : Char} (hc : isReserved c = true)
include hc

theorem ne_percent_of_isReserved : c ≠ '%' :=
  ne_percent_of_isUriChar (by rw [isUriChar, hc, Bool.or_true])

theorem isUnreserved_of_isReserved : isUnreserved c = false := by
  simp only [isReserved, List.contains_cons, List.contains_nil, Bool.or_false, Bool.or_eq_true,
    beq_iff_eq] at hc
  rcases hc with rfl | rfl | rfl | rfl | rfl | rfl | rfl | rfl | rfl | rfl | rfl | rfl | rfl |
    rfl | rfl | rfl | rfl | rfl <;> rfl

theorem isHexDigit_of_isReserved : isHexDigit c = false := by
  rw [← Bool.not_eq_true]
  intro h
  have hunreserved := isUnreserved_of_isHexDigit h
  rw [isUnreserved_of_isReserved hc] at hunreserved
  cases hunreserved

theorem not_mem_triplet {a b : Char} (ha : isHexDigit a = true) (hb : isHexDigit b = true) :
    c ∉ ['%', a, b] := by
  have hhex := isHexDigit_of_isReserved hc
  simp only [List.mem_cons, List.not_mem_nil, or_false, not_or]
  refine ⟨ne_percent_of_isReserved hc, ?_, ?_⟩
  · rintro rfl
    rw [hhex] at ha
    cases ha
  · rintro rfl
    rw [hhex] at hb
    cases hb

theorem not_mem_encodeChar (d : Char) : c ∉ encodeChar d := by
  intro h
  obtain ⟨b, _, hb⟩ := List.mem_flatMap.1 h
  have hlt : b.toNat < 256 := b.toNat_lt_size
  exact not_mem_triplet hc (isHexDigit_hexDigit (by omega)) (isHexDigit_hexDigit (by omega)) hb

/-- No value brings a delimiter of its own. -/
theorem not_mem_unreserved_encode (s : List Char) : c ∉ Charset.unreserved.encode s := by
  intro h
  obtain ⟨d, _, hd⟩ := List.mem_flatMap.1 h
  unfold encodeUnless at hd
  split at hd
  · obtain rfl := List.mem_singleton.1 hd
    have hd' := isUnreserved_of_isReserved hc
    simp_all
  · exact not_mem_encodeChar hc d hd

/-- Where delimiters are kept they are neither lost nor added. -/
theorem mem_reserved_encode_iff (s : List Char) : c ∈ Charset.reserved.encode s ↔ c ∈ s := by
  show c ∈ encodeKeeping isUriChar s ↔ c ∈ s
  have hkeep : isUriChar c = true := by rw [isUriChar, hc, Bool.or_true]
  induction s using tripletInduction with
  | nil => exact Iff.rfl
  | triplet a b s ha hb ih =>
    have htriplet := not_mem_triplet hc ha hb
    have hencoded : c ∈ encodeKeeping isUriChar ('%' :: a :: b :: s) ↔
        c ∈ ['%', a, b] ++ encodeKeeping isUriChar s := by
      rw [encodeKeeping_triplet _ ha hb]
      rfl
    have htext : c ∈ '%' :: a :: b :: s ↔ c ∈ ['%', a, b] ++ s := Iff.rfl
    rw [hencoded, htext, List.mem_append, List.mem_append]
    exact or_congr Iff.rfl ih
  | char d s h ih =>
    have hd : c ∈ encodeUnless isUriChar d ↔ c = d := by
      unfold encodeUnless
      split
      · exact List.mem_singleton
      · refine ⟨fun h => absurd h (not_mem_encodeChar hc d), ?_⟩
        rintro rfl
        contradiction
    rw [encodeKeeping_cons _ h, List.mem_append, List.mem_cons]
    exact or_congr hd ih

/-- What stands before a delimiter and what stands behind it are decoded apart. -/
theorem decode_append_cons (s t : List Char) :
    decode (s ++ c :: t) = decode s ++ String.utf8EncodeChar c ++ decode t := by
  induction s using tripletInduction with
  | nil => exact decode_cons (startsWithTriplet_of_ne (ne_percent_of_isReserved hc) t)
  | triplet a b s ha hb ih =>
    obtain ⟨byte, hbyte⟩ := exists_decode_triplet ha hb
    show decode ('%' :: a :: b :: (s ++ c :: t)) = _
    rw [hbyte, hbyte, ih]
    rfl
  | char d s h ih =>
    have hseam : startsWithTriplet (d :: (s ++ c :: t)) = false := by
      rw [← Bool.not_eq_true]
      intro htriplet
      obtain ⟨a, b, rest, heq, ha, hb⟩ := startsWithTriplet_iff.1 htriplet
      have hhex := isHexDigit_of_isReserved hc
      match s, h with
      | [], _ =>
        cases heq
        rw [hhex] at ha
        cases ha
      | [_], _ =>
        cases heq
        rw [hhex] at hb
        cases hb
      | _ :: _ :: s, h =>
        cases heq
        rw [startsWithTriplet, ha, hb] at h
        cases h
    rw [List.cons_append, decode_cons hseam, decode_cons h, ih, List.append_assoc,
      List.append_assoc, List.append_assoc]

end Delimiters

/-! ## Reading texts -/

/-- The text that encoded text stands for, if its bytes are those of a text. -/
def text? (s : List Char) : Option String := String.fromUTF8? (decode s).toByteArray

theorem text?_eq_some_iff {s : List Char} {t : String} :
    text? s = some t ↔ decode s = utf8 t.toList := by
  have hbytes : t.toByteArray = (utf8 t.toList).toByteArray := String.utf8Encode_toList.symm
  rw [← List.toByteArray_inj, ← hbytes, text?, String.fromUTF8?]
  split
  · rw [Option.some.injEq, ← String.toByteArray_inj]
    rfl
  · rename_i hinvalid
    refine ⟨(by cases ·), fun h => ?_⟩
    rw [h] at hinvalid
    exact absurd t.isValidUTF8 hinvalid

theorem text?_unreserved_encode (t : String) :
    text? (Charset.unreserved.encode t.toList) = some t :=
  text?_eq_some_iff.2 (decode_encodeAll rfl t.toList)

theorem decode_reserved_encode (s : List Char) : decode (Charset.reserved.encode s) = decode s :=
  decode_encodeKeeping rfl s

/-- A text that is encoded as if it were URI already is read back unless it holds triplets. -/
theorem text?_reserved_encode_iff (t : String) :
    text? (Charset.reserved.encode t.toList) = some t ↔ holdsTriplet t.toList = false := by
  rw [text?_eq_some_iff, decode_reserved_encode, decode_eq_utf8_iff]

end Percent
end RouteTemplate
