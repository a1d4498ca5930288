/-
Numerals in parts.

A number in floating point is laid out in positions or with an exponent, and
either way it is a numeral of the same build: digits, a point and more digits,
an exponent.  A numeral is read by its parts, so two layouts of one decimal are
read as the same, whichever of them writes out the power of ten.
-/
import RouteTemplate.Decimal.Layout
import RouteTemplate.Proofs.Decimal.Digits

namespace RouteTemplate
namespace Decimal

structure Numeral where
  whole : List Char
  /-- The digits behind the point; there is no point where there are none. -/
  fraction : List Char
  /-- What stands behind the `e`. -/
  power : Option (List Char)

namespace Numeral

def pointText (n : Numeral) : List Char := if n.fraction = [] then [] else '.' :: n.fraction

def powerText (n : Numeral) : List Char := (n.power.map fun p => 'e' :: p).getD []

def text (n : Numeral) : List Char := n.whole ++ (n.pointText ++ n.powerText)

/-- The decimal that a numeral means. -/
def value? (n : Numeral) : Option Decimal :=
  ((n.power.map readInt?).getD (some 0)).map fun e =>
    ⟨ofDigits (n.whole ++ n.fraction), e - n.fraction.length⟩

/-- A numeral that is not the text of an integer, and has no zero in front of its digits. -/
structure Proper (n : Numeral) : Prop where
  whole : isDigits n.whole = true
  leading : n.whole = ['0'] ∨ n.whole.head? ≠ some '0'
  fraction : ∀ c ∈ n.fraction, c.isDigit = true
  power : ∀ p ∈ n.power, ∃ e, readInt? p = some e
  broken : n.fraction ≠ [] ∨ n.power ≠ none

variable {n : Numeral}

theorem head?_powerText : ∀ c ∈ n.powerText.head?, c = 'e' := by
  unfold powerText
  cases n.power with
  | none => simp
  | some p => simp

theorem head?_tail : ∀ c ∈ (n.pointText ++ n.powerText).head?, c.isDigit = false := by
  have hpower := @head?_powerText n
  unfold pointText
  split
  · intro c hc
    rw [hpower c hc]
    rfl
  · intro c hc
    cases hc
    rfl

theorem takeWhile_text (h : n.Proper) : n.text.takeWhile Char.isDigit = n.whole :=
  Text.takeWhile_run (isDigits_iff.1 h.whole).2 head?_tail

theorem dropWhile_text (h : n.Proper) :
    n.text.dropWhile Char.isDigit = n.pointText ++ n.powerText :=
  Text.dropWhile_run (isDigits_iff.1 h.whole).2 head?_tail

theorem takeWhile_fraction (h : n.Proper) :
    (n.fraction ++ n.powerText).takeWhile Char.isDigit = n.fraction :=
  Text.takeWhile_run h.fraction fun c hc => by rw [head?_powerText c hc]; rfl

theorem dropWhile_fraction (h : n.Proper) :
    (n.fraction ++ n.powerText).dropWhile Char.isDigit = n.powerText :=
  Text.dropWhile_run h.fraction fun c hc => by rw [head?_powerText c hc]; rfl

theorem read?_text (h : n.Proper) : read? n.text = n.value? := by
  have hne : n.whole.isEmpty = false := List.isEmpty_eq_false_iff.2 (isDigits_iff.1 h.whole).1
  have htake := takeWhile_fraction h
  have hdrop := dropWhile_fraction h
  unfold read? value?
  simp only [takeWhile_text h, dropWhile_text h, hne, Bool.false_and, Bool.false_eq_true, if_false]
  by_cases hfraction : n.fraction = []
  · rw [pointText, if_pos hfraction, hfraction, List.nil_append, powerText]
    cases n.power with
    | none => simp
    | some p => simp
  · rw [pointText, if_neg hfraction, List.cons_append]
    simp only [htake, hdrop]
    rw [powerText]
    cases n.power with
    | none => simp
    | some p => simp

theorem mem_text (h : n.Proper) {c : Char} (hc : c ∈ n.text) :
    c.isDigit = true ∨ c = '.' ∨ c = 'e' ∨ c = '+' ∨ c = '-' := by
  rcases List.mem_append.1 hc with hc | hc
  · exact Or.inl ((isDigits_iff.1 h.whole).2 c hc)
  rcases List.mem_append.1 hc with hc | hc
  · unfold pointText at hc
    split at hc
    · exact absurd hc List.not_mem_nil
    · rcases List.mem_cons.1 hc with rfl | hc
      · exact Or.inr (Or.inl rfl)
      · exact Or.inl (h.fraction c hc)
  · unfold powerText at hc
    cases hpower : n.power with
    | none =>
      rw [hpower] at hc
      exact absurd hc List.not_mem_nil
    | some p =>
      rw [hpower] at hc
      obtain ⟨e, he⟩ := h.power p hpower
      rcases List.mem_cons.1 hc with rfl | hc
      · exact Or.inr (Or.inr (Or.inl rfl))
      · rcases mem_of_readInt? he c hc with rfl | rfl | hdigit
        · exact Or.inr (Or.inr (Or.inr (Or.inr rfl)))
        · exact Or.inr (Or.inr (Or.inr (Or.inl rfl)))
        · exact Or.inl hdigit

theorem exists_text_eq_cons (h : n.Proper) :
    ∃ c cs, n.text = c :: cs ∧ c.isDigit = true := by
  obtain ⟨hne, hdigits⟩ := isDigits_iff.1 h.whole
  obtain ⟨c, cs, hwhole⟩ := List.exists_cons_of_ne_nil hne
  rw [hwhole] at hdigits
  exact ⟨c, cs ++ (n.pointText ++ n.powerText), by rw [text, hwhole, List.cons_append],
    hdigits c List.mem_cons_self⟩

end Numeral

namespace Layout

/-! ## Layouts -/

def positionalParts (ds : List Char) (x : Int) : Numeral :=
  if x < 0 then ⟨['0'], zeros (-x - 1).toNat ++ ds, none⟩
  else if ds.length ≤ (x + 1).toNat then ⟨ds ++ zeros ((x + 1).toNat - ds.length), ['0'], none⟩
  else ⟨ds.take (x + 1).toNat, ds.drop (x + 1).toNat, none⟩

def powerChars (layout : Layout) (x : Int) : List Char :=
  (if x < 0 then '-' else '+') ::
    (zeros (layout.exponentWidth - (digitChars x.natAbs).length) ++ digitChars x.natAbs)

def scientificParts (layout : Layout) (ds : List Char) (x : Int) : Numeral :=
  ⟨ds.take 1, ds.drop 1, some (layout.powerChars x)⟩

theorem readInt?_powerChars (layout : Layout) (x : Int) :
    readInt? (layout.powerChars x) = some x := by
  have hdigits : isDigits (zeros (layout.exponentWidth - (digitChars x.natAbs).length) ++
      digitChars x.natAbs) = true := isDigits_zeros_append (isDigits_toDigits _) _
  have hvalue : ofDigits (zeros (layout.exponentWidth - (digitChars x.natAbs).length) ++
      digitChars x.natAbs) = x.natAbs :=
    (ofDigits_zeros_append _ _).trans (ofDigits_toDigits _)
  unfold powerChars
  split
  · rw [readInt?_minus hdigits, hvalue]
    exact congrArg some (by omega)
  · rw [readInt?_plus hdigits, hvalue]
    exact congrArg some (by omega)

theorem text_scientificParts (layout : Layout) (ds : List Char) (x : Int) :
    (layout.scientificParts ds x).text = layout.scientific ds x := by
  have hdrop : ds.drop 1 = [] ↔ ds.length ≤ 1 := List.drop_eq_nil_iff
  unfold scientificParts scientific
  simp only [Numeral.text, Numeral.pointText, Numeral.powerText, powerChars, hdrop,
    Option.map_some, Option.getD_some, List.append_assoc, List.cons_append]

/-- Digits for a leading power of ten: a zero is in front only of the number zero. -/
structure Leads (ds : List Char) (x : Int) : Prop where
  digits : isDigits ds = true
  leading : ds.head? = some '0' → ds = ['0'] ∧ x = 0

section

variable {ds : List Char} {x : Int} (h : Leads ds x)

include h

theorem text_positionalParts : (positionalParts ds x).text = positional ds x := by
  have hne := (isDigits_iff.1 h.digits).1
  unfold positionalParts positional
  split
  · simp [Numeral.text, Numeral.pointText, Numeral.powerText, hne]
  · dsimp only
    split
    · simp [Numeral.text, Numeral.pointText, Numeral.powerText]
    · have hdrop : ds.drop (x + 1).toNat ≠ [] := by
        rw [Ne, List.drop_eq_nil_iff]
        omega
      simp [Numeral.text, Numeral.pointText, Numeral.powerText, hdrop]

theorem proper_positionalParts : (positionalParts ds x).Proper := by
  obtain ⟨hne, hdigits⟩ := isDigits_iff.1 h.digits
  unfold positionalParts
  split
  · have hfraction := (isDigits_iff.1 (isDigits_zeros_append h.digits (-x - 1).toNat)).2
    exact ⟨rfl, Or.inl rfl, hfraction, by simp, Or.inl (by simp [hne])⟩
  · obtain ⟨c, cs, rfl⟩ := List.exists_cons_of_ne_nil hne
    split
    · refine ⟨isDigits_iff.2 ⟨by simp, ?_⟩, ?_, List.forall_mem_singleton.2 rfl, by simp,
        Or.inl (by simp)⟩
      · intro d hd
        rcases List.mem_append.1 hd with hd | hd
        · exact hdigits d hd
        · rw [List.eq_of_mem_replicate hd]
          rfl
      · by_cases hc : c = '0'
        · obtain ⟨hds, hx⟩ := h.leading (by rw [hc]; rfl)
          rw [hds, hx]
          exact Or.inl rfl
        · exact Or.inr (by simpa using hc)
    · next hx hlength =>
      -- the point stands behind the first digit or further on, and not behind the last
      have htake : (c :: cs).take (x + 1).toNat = c :: cs.take x.toNat := by
        rw [show (x + 1).toNat = x.toNat + 1 by omega, List.take_succ_cons]
      refine ⟨isDigits_iff.2 ⟨by simp [htake], fun d hd => hdigits d (List.mem_of_mem_take hd)⟩,
        ?_, fun d hd => hdigits d (List.mem_of_mem_drop hd), by simp, Or.inl ?_⟩
      · refine Or.inr fun hc => ?_
        rw [htake] at hc
        obtain ⟨hds, hzero⟩ := h.leading hc
        rw [hds, hzero] at hlength
        exact hlength (by decide)
      · rw [Ne, List.drop_eq_nil_iff]
        omega

theorem proper_scientificParts (layout : Layout) : (layout.scientificParts ds x).Proper := by
  obtain ⟨hne, hdigits⟩ := isDigits_iff.1 h.digits
  obtain ⟨c, cs, rfl⟩ := List.exists_cons_of_ne_nil hne
  refine ⟨isDigits_iff.2 ⟨by simp [scientificParts], ?_⟩, ?_, ?_, ?_, Or.inr nofun⟩
  · exact fun d hd => hdigits d (List.mem_of_mem_take hd)
  · by_cases hc : c = '0'
    · exact Or.inl (by simp [scientificParts, hc])
    · exact Or.inr (by simpa [scientificParts] using hc)
  · exact fun d hd => hdigits d (List.mem_of_mem_drop hd)
  · intro p hp
    cases hp
    exact ⟨x, readInt?_powerChars layout x⟩

theorem read?_positional_of_neg (hx : x < 0) :
    read? (positional ds x) = some ⟨ofDigits ds, x + 1 - ds.length⟩ := by
  have hvalue : ofDigits ('0' :: (zeros (-x - 1).toNat ++ ds)) = ofDigits ds :=
    ofDigits_zeros_append ((-x - 1).toNat + 1) ds
  rw [← text_positionalParts h, Numeral.read?_text (proper_positionalParts h), positionalParts,
    if_pos hx, Numeral.value?]
  simp only [List.singleton_append, hvalue]
  simp [zeros]
  omega

theorem read?_scientific (layout : Layout) :
    read? (layout.scientific ds x) = some ⟨ofDigits ds, x + 1 - ds.length⟩ := by
  have hlength : 0 < ds.length := List.length_pos_iff.2 (isDigits_iff.1 h.digits).1
  rw [← text_scientificParts, Numeral.read?_text (proper_scientificParts h layout),
    Numeral.value?]
  simp only [scientificParts, List.take_append_drop, Option.map_some, Option.getD_some,
    readInt?_powerChars, List.length_drop]
  congr 2
  omega

end

/-! ## Decimals -/

theorem leads_digits (d : Decimal) :
    Leads (digitChars d.digits) (if d.digits = 0 then 0 else d.magnitude) := by
  refine ⟨isDigits_toDigits _, fun h => ?_⟩
  by_cases hzero : d.digits = 0
  · rw [hzero]
    exact ⟨rfl, rfl⟩
  · exact absurd h (head?_toDigits_ne_zero hzero)

theorem exists_numeral (layout : Layout) (d : Decimal) :
    ∃ n : Numeral, n.Proper ∧ n.text = layout.write d := by
  have hleads := leads_digits d
  unfold write
  dsimp only
  generalize (if d.digits = 0 then 0 else d.magnitude) = x at hleads ⊢
  split
  · exact ⟨_, proper_positionalParts hleads, text_positionalParts hleads⟩
  · exact ⟨_, proper_scientificParts hleads layout, text_scientificParts layout _ _⟩

/-- Both layouts of a decimal are read as one. -/
theorem read?_write_compact (d : Decimal) : read? (compact.write d) = read? (plain.write d) := by
  have hleads := leads_digits d
  unfold write
  dsimp only
  generalize (if d.digits = 0 then 0 else d.magnitude) = x at hleads ⊢
  by_cases hboth : -4 ≤ x ∧ x < 16
  · have hcompact : compact.lowest ≤ x ∧ x < 16 := by
      show -5 ≤ x ∧ x < 16
      omega
    rw [if_pos hcompact, if_pos (show plain.lowest ≤ x ∧ x < 16 from hboth)]
  · rw [if_neg (show ¬(plain.lowest ≤ x ∧ x < 16) from hboth), read?_scientific hleads]
    split
    · next hpositional =>
      have hx : x < 0 := by omega
      rw [read?_positional_of_neg hleads hx]
    · rw [read?_scientific hleads]

end Layout
end Decimal

namespace Binary64

open Decimal

/-! ## Numbers in floating point -/

theorem toLower_of_isDigit {c : Char} (h : c.isDigit = true) : c.toLower = c := by
  simp only [Char.isDigit, Bool.and_eq_true, decide_eq_true_eq] at h
  unfold Char.toLower
  rw [dif_neg]
  exact fun hupper => absurd (UInt32.le_trans hupper.1 h.2) (by decide)

theorem toLower_ne_of_isDigit {c : Char} (h : c.isDigit = true) (cs : List Char) {w : String}
    (hw : w.toList.head?.any Char.isDigit = false) :
    String.ofList ((c :: cs).map Char.toLower) ≠ w := by
  intro heq
  rw [← heq, String.toList_ofList, List.map_cons, toLower_of_isDigit h, List.head?_cons,
    Option.any_some, h] at hw
  cases hw

/-- What begins with a digit is no name of infinity or of no number. -/
theorem ofText?_of_proper {n : Numeral} (h : n.Proper) (negative : Bool) :
    ofText? ((if negative then ['-'] else []) ++ n.text) =
      (read? n.text).map (ofDecimal negative) := by
  obtain ⟨c, cs, htext, hdigit⟩ := Numeral.exists_text_eq_cons h
  have hsign : splitSign ((if negative then ['-'] else []) ++ n.text) = (negative, n.text) := by
    cases negative with
    | true => rfl
    | false =>
      rw [htext]
      exact splitSign_of_isDigit hdigit cs
  unfold ofText?
  simp only [hsign]
  rw [htext, if_neg, if_neg]
  · exact toLower_ne_of_isDigit hdigit cs rfl
  · exact not_or.2 ⟨toLower_ne_of_isDigit hdigit cs rfl, toLower_ne_of_isDigit hdigit cs rfl⟩

/-- A number in floating point that is finite is read as the same from both layouts. -/
theorem ofText?_text_compact (negative : Bool) (rank : Fin rankCount) :
    ofText? ((finite negative rank).text .compact) =
      ofText? ((finite negative rank).text .plain) := by
  obtain ⟨n, hn, hcompact⟩ := Layout.exists_numeral .compact (shortest rank)
  obtain ⟨m, hm, hplain⟩ := Layout.exists_numeral .plain (shortest rank)
  rw [text, text, ← hcompact, ← hplain, ofText?_of_proper hn, ofText?_of_proper hm, hcompact,
    hplain, Layout.read?_write_compact]

end Binary64
end RouteTemplate
