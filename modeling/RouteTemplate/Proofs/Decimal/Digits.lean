/-
Strings of digits and the numbers they stand for.  Digits written behind others
make the number greater, and zeros in front do not.  A number is written without
such zeros, and read back as itself.  It is written at all if it lies below a power
of ten.
-/
import RouteTemplate.Decimal.Basic

namespace RouteTemplate

namespace Text

variable {α : Type} {p : α → Bool} {run rest : List α}

theorem takeWhile_run (hrun : ∀ a ∈ run, p a = true) (hrest : ∀ a ∈ rest.head?, p a = false) :
    (run ++ rest).takeWhile p = run := by
  rw [List.takeWhile_append_of_pos hrun]
  cases rest with
  | nil => simp
  | cons a rest => simp [hrest a rfl]

theorem dropWhile_run (hrun : ∀ a ∈ run, p a = true) (hrest : ∀ a ∈ rest.head?, p a = false) :
    (run ++ rest).dropWhile p = rest := by
  rw [List.dropWhile_append_of_pos hrun]
  cases rest with
  | nil => simp
  | cons a rest => simp [hrest a rfl]

end Text

namespace Decimal

theorem ofDigits_append (a b : List Char) :
    ofDigits (a ++ b) = Nat.pow 10 b.length * ofDigits a + ofDigits b := by
  show Nat.ofDigitChars 10 (a ++ b) 0 = _
  rw [Nat.ofDigitChars_append, Nat.ofDigitChars_eq_ofDigitChars_zero]
  rfl

theorem ofDigits_toDigits (n : Nat) : ofDigits (Nat.toDigits 10 n) = n :=
  Nat.ofDigitChars_toDigits (by decide) (by decide)

theorem ofDigits_zeros_append (k : Nat) (ds : List Char) :
    ofDigits (List.replicate k '0' ++ ds) = ofDigits ds := by
  have hzeros : ofDigits (List.replicate k '0') = 10 ^ k * 0 := Nat.ofDigitChars_replicate_zero
  rw [ofDigits_append, hzeros]
  simp

theorem ofDigits_lt_of_prefix {a b : List Char} (h : a <+: b) (hne : a ≠ b)
    (hpos : 0 < ofDigits a) : ofDigits a < ofDigits b := by
  obtain ⟨c, rfl⟩ := h
  have hc : c ≠ [] := by
    rintro rfl
    exact hne (List.append_nil a).symm
  have hten : 10 ≤ Nat.pow 10 c.length := Nat.le_self_pow (by simp [hc]) 10
  have hscaled := Nat.mul_le_mul_right (ofDigits a) hten
  rw [ofDigits_append]
  omega

/-! ## Digits of a number -/

theorem isDigit_of_mem_toDigits {n : Nat} {c : Char} (h : c ∈ Nat.toDigits 10 n) :
    c.isDigit = true :=
  Nat.isDigit_of_mem_toDigits (by decide) (by decide) h

theorem isDigits_iff {ds : List Char} :
    isDigits ds = true ↔ ds ≠ [] ∧ ∀ c ∈ ds, c.isDigit = true := by
  simp [isDigits]

theorem isDigits_toDigits (n : Nat) : isDigits (Nat.toDigits 10 n) = true :=
  isDigits_iff.2 ⟨Nat.toDigits_ne_nil, fun _ => isDigit_of_mem_toDigits⟩

theorem isDigits_zeros_append {ds : List Char} (h : isDigits ds = true) (k : Nat) :
    isDigits (List.replicate k '0' ++ ds) = true := by
  obtain ⟨hne, hdigits⟩ := isDigits_iff.1 h
  refine isDigits_iff.2 ⟨by simp [hne], fun c hc => ?_⟩
  rcases List.mem_append.1 hc with hc | hc
  · rw [List.eq_of_mem_replicate hc]
    rfl
  · exact hdigits c hc

theorem head?_toDigits_ne_zero {n : Nat} (h : n ≠ 0) : (Nat.toDigits 10 n).head? ≠ some '0' := by
  induction n using Nat.strongRecOn with
  | ind n ih =>
    by_cases hlt : n < 10
    · have hdigit : ∀ m < 10, m ≠ 0 → some (Nat.digitChar m) ≠ some '0' := by decide
      rw [Nat.toDigits_of_lt_base hlt]
      exact hdigit n hlt h
    · have hhead := ih (n / 10) (by omega) (by omega)
      obtain ⟨c, cs, hcs⟩ := List.exists_cons_of_ne_nil (@Nat.toDigits_ne_nil (n / 10) 10)
      rw [hcs] at hhead
      rw [Nat.toDigits_of_base_le (by decide) (by omega), hcs]
      exact hhead

theorem splitSign_of_isDigit {c : Char} (h : c.isDigit = true) (cs : List Char) :
    splitSign (c :: cs) = (false, c :: cs) := by
  unfold splitSign
  split
  · next heq =>
    cases heq
    exact absurd h (by decide)
  · next heq =>
    cases heq
    exact absurd h (by decide)
  · rfl

theorem splitSign_of_isDigits {ds : List Char} (h : isDigits ds = true) :
    splitSign ds = (false, ds) := by
  obtain ⟨hne, hdigits⟩ := isDigits_iff.1 h
  obtain ⟨c, cs, rfl⟩ := List.exists_cons_of_ne_nil hne
  exact splitSign_of_isDigit (hdigits c List.mem_cons_self) cs

/-! ## Integers -/

theorem readInt?_of_isDigits {ds : List Char} (h : isDigits ds = true) :
    readInt? ds = some (ofDigits ds : Int) := by
  unfold readInt?
  simp [splitSign_of_isDigits h, h]

theorem readInt?_minus {ds : List Char} (h : isDigits ds = true) :
    readInt? ('-' :: ds) = some (-(ofDigits ds : Int)) := by
  unfold readInt?
  simp [splitSign, h]

theorem readInt?_plus {ds : List Char} (h : isDigits ds = true) :
    readInt? ('+' :: ds) = some (ofDigits ds : Int) := by
  unfold readInt?
  simp [splitSign, h]

theorem mem_of_readInt? {cs : List Char} {n : Int} (h : readInt? cs = some n) :
    ∀ c ∈ cs, c = '-' ∨ c = '+' ∨ c.isDigit = true := by
  have hdigits : ∀ c ∈ (splitSign cs).2, c.isDigit = true := by
    rw [readInt?] at h
    obtain ⟨hds, _⟩ := Option.ite_none_right_eq_some.1 h
    exact (isDigits_iff.1 hds).2
  intro c hc
  unfold splitSign at hdigits
  split at hdigits
  · rcases List.mem_cons.1 hc with rfl | hc
    · exact Or.inl rfl
    · exact Or.inr (Or.inr (hdigits c hc))
  · rcases List.mem_cons.1 hc with rfl | hc
    · exact Or.inr (Or.inl rfl)
    · exact Or.inr (Or.inr (hdigits c hc))
  · exact Or.inr (Or.inr (hdigits c hc))

/-- An integer is its digits, behind a minus sign where it is below zero. -/
theorem toList_toString (n : Int) :
    (toString n).toList = (if n < 0 then ['-'] else []) ++ Nat.toDigits 10 n.natAbs := by
  cases n with
  | ofNat m => exact Nat.toList_repr
  | negSucc m =>
    show ("-" ++ Nat.repr (m + 1)).toList = _
    rw [String.toList_append, Nat.toList_repr, if_pos (Int.negSucc_lt_zero m)]
    rfl

theorem mem_toString {n : Int} : ∀ c ∈ (toString n).toList, c = '-' ∨ c.isDigit = true := by
  intro c hc
  rw [toList_toString, List.mem_append] at hc
  refine hc.imp (fun hc => ?_) isDigit_of_mem_toDigits
  split at hc
  · exact List.mem_singleton.1 hc
  · exact absurd hc List.not_mem_nil

theorem readInt?_toString (n : Int) : readInt? (toString n).toList = some n := by
  rw [toList_toString]
  split
  · rw [List.singleton_append, readInt?_minus (isDigits_toDigits _), ofDigits_toDigits]
    exact congrArg some (by omega)
  · rw [List.nil_append, readInt?_of_isDigits (isDigits_toDigits _), ofDigits_toDigits]
    exact congrArg some (by omega)

theorem splitSign_toString (n : Int) :
    (splitSign (toString n).toList).2 = Nat.toDigits 10 n.natAbs := by
  rw [toList_toString]
  split
  · rfl
  · rw [List.nil_append, splitSign_of_isDigits (isDigits_toDigits _)]

/-! ## Integers that are written -/

theorem width_le_iff {n k : Nat} (hk : 0 < k) : width n ≤ k ↔ n < Nat.pow 10 k :=
  Nat.length_toDigits_le_iff (by decide) hk

theorem isWritable_iff {n : Int} : isWritable n = true ↔ n.natAbs < Nat.pow 10 digitLimit := by
  rw [isWritable, decide_eq_true_iff, width_le_iff (by decide)]

/-- What is read with few enough digits is written again. -/
theorem isWritable_of_splitSign {n : Int}
    (h : (splitSign (toString n).toList).2.length ≤ digitLimit) : isWritable n = true := by
  rw [splitSign_toString] at h
  exact decide_eq_true h

theorem isWritable_of_byte (b : UInt8) : isWritable b.toNat = true := by
  have hwidth : width b.toNat ≤ 3 :=
    (width_le_iff (by decide)).2 (Nat.lt_trans b.toNat_lt (by decide))
  exact decide_eq_true (Nat.le_trans hwidth (by decide))

/-- The first number that has too many digits. -/
def tooLong : Int := Nat.pow 10 digitLimit

theorem not_isWritable_tooLong : isWritable tooLong = false := by
  rw [Bool.eq_false_iff, ne_eq, isWritable_iff, tooLong, Int.natAbs_natCast]
  exact Nat.lt_irrefl _

end Decimal
end RouteTemplate
