/-
Strings, words and numbers read back.

A string is read as itself, character by character, whichever characters a
dialect escapes.  A word or a number is read as a whole, so a text that is none,
such as the plain dialect has for a number that is not finite, is not read at
all.
-/
import RouteTemplate.Proofs.Decimal.Numeral
import RouteTemplate.Proofs.Json.Reader

namespace RouteTemplate
namespace JsonTree

/-! ## Strings -/

theorem hexValue?_toLower : ∀ {n : Nat}, n < 16 →
    Percent.hexValue? (Percent.hexDigit n).toLower = some n := by
  decide

theorem readUnit?_hexPadded {n : Nat} (h : n < 0x10000) (rest : List Char) :
    readUnit? (Text.hexPadded 4 n ++ rest) = some (n, rest) := by
  show readUnit? ((Percent.hexDigit (n / 16 / 16 / 16 % 16)).toLower ::
    (Percent.hexDigit (n / 16 / 16 % 16)).toLower :: (Percent.hexDigit (n / 16 % 16)).toLower ::
      (Percent.hexDigit (n % 16)).toLower :: rest) = _
  rw [readUnit?, hexValue?_toLower (by omega), hexValue?_toLower (by omega),
    hexValue?_toLower (by omega), hexValue?_toLower (by omega)]
  show some (_, rest) = _
  congr 2
  omega

theorem toNat_lt (c : Char) : c.toNat < 0xD800 ∨ 0xDFFF < c.toNat ∧ c.toNat < 0x110000 := c.valid

theorem readUnits?_single {c : Char} (h : c.toNat < 0x10000) (rest : List Char) :
    readUnits? (Text.hexPadded 4 c.toNat ++ rest) = some (c, rest) := by
  have hvalid := toNat_lt c
  rw [readUnits?, readUnit?_hexPadded h]
  simp only [Option.bind_eq_bind, Option.bind_some]
  rw [if_pos (by omega), Char.ofNat_toNat]
  rfl

theorem readUnits?_pair {c : Char} {m n : Nat} (hn : n < 0x400) (hm : m < 0x400)
    (h : 0x10000 + n * 0x400 + m = c.toNat) (rest : List Char) :
    readUnits? (Text.hexPadded 4 (0xD800 + n) ++ unitEscape (0xDC00 + m) ++ rest) =
      some (c, rest) := by
  have hlow : 0xDC00 + m < 0x10000 := by omega
  rw [unitEscape, List.append_assoc, List.cons_append, List.cons_append, readUnits?,
    readUnit?_hexPadded (by omega)]
  simp only [Option.bind_eq_bind, Option.bind_some, readUnit?_hexPadded hlow]
  rw [if_neg (by omega), if_pos (by omega), Nat.add_sub_cancel_left, Nat.add_sub_cancel_left, h,
    Char.ofNat_toNat]
  rfl

/-- One or two escaped units are read as the character they stand for. -/
theorem readChar?_unitEscapes (c : Char) (rest : List Char) :
    readChar? (unitEscapes c ++ rest) = some (c, rest) := by
  have hvalid := toNat_lt c
  unfold unitEscapes
  dsimp only
  split
  · next hone => exact readUnits?_single hone rest
  · next hone =>
    exact readUnits?_pair (by omega) (by omega) (by omega) rest

/-- What a dialect writes in a string where there is no escape of its own. -/
def Dialect.Shows (d : Dialect) : Prop :=
  ∀ c, d.other c = unitEscapes c ∨ d.other c = [c] ∧ 0x20 ≤ c.toNat

theorem shows_plain : Dialect.plain.Shows := by
  intro c
  show (if _ then _ else _) = _ ∨ (if _ then _ else _) = _ ∧ _
  split
  · next h => exact Or.inr ⟨rfl, h.1⟩
  · exact Or.inl rfl

theorem shows_compact : Dialect.compact.Shows := by
  intro c
  show (if _ then _ else _) = _ ∨ (if _ then _ else _) = _ ∧ _
  split
  · next h => exact Or.inr ⟨rfl, h⟩
  · exact Or.inl rfl

theorem readChar?_of_ne {c : Char} (hslash : c ≠ '\\') (hspace : 0x20 ≤ c.toNat)
    (rest : List Char) : readChar? (c :: rest) = some (c, rest) := by
  unfold readChar?
  split
  · next heq => cases heq
  · next heq =>
    cases heq
    exact absurd rfl hslash
  · next heq =>
    cases heq
    exact if_pos hspace

section

variable {d : Dialect} (hd : d.Shows)

include hd

theorem readChar?_escapeChar (c : Char) (rest : List Char) :
    readChar? (escapeChar d c ++ rest) = some (c, rest) := by
  unfold escapeChar
  split
  · next h =>
    rcases h with rfl | rfl
    · rfl
    · rfl
  next hquote =>
  split
  · next h => rw [h]; rfl
  split
  · next h => rw [h]; rfl
  split
  · next h => rw [h]; rfl
  split
  · next h =>
    rw [← Char.ofNat_toNat c, h]
    rfl
  split
  · next h =>
    rw [← Char.ofNat_toNat c, h]
    rfl
  rcases hd c with hunits | ⟨hself, hspace⟩
  · rw [hunits]
    exact readChar?_unitEscapes c rest
  · rw [hself]
    exact readChar?_of_ne (not_or.1 hquote).2 hspace rest

theorem escapeChar_ne_nil (c : Char) : escapeChar d c ≠ [] := by
  intro hnil
  have hchar := readChar?_escapeChar hd c []
  rw [hnil] at hchar
  cases hchar

theorem head?_escapeChar_append (c : Char) (rest : List Char) :
    (escapeChar d c ++ rest).head? ≠ some '"' := by
  unfold escapeChar
  split
  · simp
  next hquote =>
  split
  · simp
  split
  · simp
  split
  · simp
  split
  · simp
  split
  · simp
  rcases hd c with hunits | ⟨hself, _⟩
  · rw [hunits, unitEscapes]
    split
    · simp [unitEscape]
    · simp [unitEscape]
  · rw [hself]
    simpa using (not_or.1 hquote).1

theorem readText?_escapeChar (fuel : Nat) (c : Char) (cs : List Char) :
    readText? (fuel + 1) (escapeChar d c ++ cs) =
      (readText? fuel cs).map fun p => (c :: p.1, p.2) := by
  have hhead := head?_escapeChar_append hd c cs
  have hchar := readChar?_escapeChar hd c cs
  rw [readText?]
  · simp only [hchar, Option.bind_eq_bind, Option.bind_some]
    cases readText? fuel cs with
    | none => rfl
    | some p => rfl
  · intro rest heq
    rw [heq] at hhead
    exact hhead rfl

/-- A string that was written is read as itself. -/
theorem readText?_writeText {s rest : List Char} {fuel : Nat}
    (h : (s.flatMap (escapeChar d) ++ '"' :: rest).length ≤ fuel) :
    readText? fuel (s.flatMap (escapeChar d) ++ '"' :: rest) = some (s, rest) := by
  induction s generalizing fuel with
  | nil =>
    obtain ⟨fuel, rfl⟩ := Nat.exists_eq_add_of_le' (show 1 ≤ fuel by simp at h; omega)
    rfl
  | cons c s ih =>
    have hlength : 0 < (escapeChar d c).length := List.length_pos_iff.2 (escapeChar_ne_nil hd c)
    obtain ⟨fuel, rfl⟩ := Nat.exists_eq_add_of_le' (show 1 ≤ fuel by simp at h; omega)
    rw [List.flatMap_cons, List.append_assoc, readText?_escapeChar hd, ih]
    · rfl
    · simp at h ⊢
      omega

end

/-! ## Words and numbers -/

/-- What follows a word: nothing that could belong to it. -/
def Ends (rest : List Char) : Prop := ∀ c ∈ rest.head?, isWordChar c = false

theorem ends_nil : Ends [] := by simp [Ends]

theorem ends_cons {c : Char} (hc : isWordChar c = false) (rest : List Char) : Ends (c :: rest) := by
  simp [Ends, hc]

theorem readValue?_word {w : List Char} (hne : w ≠ []) (hw : ∀ c ∈ w, isWordChar c = true)
    {rest : List Char} (hrest : Ends rest) {fuel : Nat} (hfuel : (w ++ rest).length ≤ fuel) :
    readValue? fuel (w ++ rest) = (word? w).map fun t => (t, rest) := by
  obtain ⟨c, cs, rfl⟩ := List.exists_cons_of_ne_nil hne
  obtain ⟨fuel, rfl⟩ := Nat.exists_eq_add_of_le' (show 1 ≤ fuel by simp at hfuel; omega)
  have hc : isWordChar c = true := hw c List.mem_cons_self
  have hne : ∀ d, isWordChar d = false → ∀ ds, c :: (cs ++ rest) ≠ d :: ds := by
    intro d hd ds heq
    cases heq
    rw [hc] at hd
    cases hd
  rw [List.cons_append, readValue?]
  · rw [← List.cons_append, readWord?, Text.takeWhile_run hw hrest, Text.dropWhile_run hw hrest]
  · exact hne '"' rfl
  · exact hne '[' rfl
  · exact hne '\x7b' rfl

theorem isWordChar_of_isDigit {c : Char} (h : c.isDigit = true) : isWordChar c = true := by
  simp [isWordChar, Char.isAlphanum, h]

theorem word?_of_head {c : Char} (hc : c.isDigit = true ∨ c = '-') (cs : List Char) :
    word? (c :: cs) = number? (c :: cs) := by
  have hne : ∀ {w : List Char}, (w.head?.any fun d => d.isDigit || d == '-') = false →
      c :: cs ≠ w := by
    intro w hw heq
    rw [← heq, List.head?_cons, Option.any_some] at hw
    rcases hc with hc | hc
    · rw [hc] at hw
      cases hw
    · rw [hc] at hw
      cases hw
  rw [word?, if_neg (hne rfl), if_neg (hne rfl), if_neg (hne rfl)]

/-- A sign, digits, and what stands behind them. -/
theorem word?_signed {sign whole tail : List Char} (hsign : sign = [] ∨ sign = ['-'])
    (hwhole : isWhole whole = true) (htail : isTail tail = true)
    (hhead : ∀ c ∈ tail.head?, c.isDigit = false) :
    word? (sign ++ (whole ++ tail)) =
      if tail.isEmpty then (Decimal.readInt? (sign ++ (whole ++ tail))).map .int
      else (Binary64.ofText? (sign ++ (whole ++ tail))).map .float := by
  have hdigits := Decimal.isDigits_iff.1 (Bool.and_eq_true_iff.1 hwhole).1
  have htake := Text.takeWhile_run hdigits.2 hhead
  have hdrop := Text.dropWhile_run hdigits.2 hhead
  obtain ⟨c, cs, rfl⟩ := List.exists_cons_of_ne_nil hdigits.1
  have hc : c.isDigit = true := hdigits.2 c List.mem_cons_self
  rw [List.cons_append] at htake hdrop ⊢
  rcases hsign with rfl | rfl
  · have hminus : c ≠ '-' := by
      intro heq
      rw [heq] at hc
      cases hc
    rw [List.nil_append, word?_of_head (Or.inl hc), number?]
    simp [hminus, htake, hdrop, hwhole, htail]
  · rw [List.singleton_append, word?_of_head (Or.inr rfl), number?]
    simp [htake, hdrop, hwhole, htail]

theorem isWhole_toDigits (n : Nat) : isWhole (Nat.toDigits 10 n) = true := by
  have hdigits := Decimal.isDigits_toDigits n
  by_cases hzero : n = 0
  · rw [hzero]
    rfl
  · have hhead := Decimal.head?_toDigits_ne_zero hzero
    simp [isWhole, hdigits, hhead]

theorem word?_toString (n : Int) : word? (toString n).toList = some (.int n) := by
  have hsign : (if n < 0 then ['-'] else []) = [] ∨ (if n < 0 then ['-'] else []) = ['-'] := by
    split
    · exact Or.inr rfl
    · exact Or.inl rfl
  have hword := @word?_signed _ _ [] hsign (isWhole_toDigits n.natAbs) rfl (by simp)
  rw [List.append_nil, ← Decimal.toList_toString, Decimal.readInt?_toString] at hword
  exact hword

theorem isWordChar_of_mem_toString {n : Int} : ∀ c ∈ (toString n).toList, isWordChar c = true := by
  intro c hc
  rcases Decimal.mem_toString c hc with rfl | hdigit
  · rfl
  · exact isWordChar_of_isDigit hdigit

theorem toString_ne_nil (n : Int) : (toString n).toList ≠ [] := by
  rw [Decimal.toList_toString]
  simp

section

variable {n : Decimal.Numeral} (h : n.Proper)

include h

theorem isWhole_numeral : isWhole n.whole = true := by
  have hdigits := h.whole
  rcases h.leading with hzero | hhead
  · rw [hzero]
    rfl
  · simp [isWhole, hdigits, hhead]

theorem isPower_numeral : isPower n.powerText = true := by
  unfold Decimal.Numeral.powerText
  cases hp : n.power with
  | none => rfl
  | some p =>
    obtain ⟨e, he⟩ := h.power p hp
    simp [isPower, he]

theorem isTail_numeral : isTail (n.pointText ++ n.powerText) = true := by
  have hpower := isPower_numeral h
  by_cases hfraction : n.fraction = []
  · rw [Decimal.Numeral.pointText, if_pos hfraction, List.nil_append]
    unfold Decimal.Numeral.powerText at hpower ⊢
    cases hp : n.power with
    | none => rfl
    | some p =>
      rw [hp] at hpower
      exact hpower
  · rw [Decimal.Numeral.pointText, if_neg hfraction, List.cons_append, isTail,
      Decimal.Numeral.takeWhile_fraction h, Decimal.Numeral.dropWhile_fraction h, hpower,
      Decimal.isDigits_iff.2 ⟨hfraction, h.fraction⟩]
    rfl

theorem tail_ne_nil : n.pointText ++ n.powerText ≠ [] := by
  intro hnil
  obtain ⟨hpoint, hpower⟩ := List.append_eq_nil_iff.1 hnil
  rcases h.broken with hfraction | hsome
  · rw [Decimal.Numeral.pointText, if_neg hfraction] at hpoint
    cases hpoint
  · obtain ⟨p, hp⟩ := Option.ne_none_iff_exists'.1 hsome
    rw [Decimal.Numeral.powerText, hp] at hpower
    cases hpower

theorem word?_numeral (negative : Bool) :
    word? ((if negative then ['-'] else []) ++ n.text) =
      (Binary64.ofText? ((if negative then ['-'] else []) ++ n.text)).map .float := by
  have hsign : (if negative then ['-'] else []) = [] ∨
      (if negative then ['-'] else []) = ['-'] := by
    cases negative with
    | true => exact Or.inr rfl
    | false => exact Or.inl rfl
  have hword := word?_signed hsign (isWhole_numeral h) (isTail_numeral h)
    Decimal.Numeral.head?_tail
  rw [List.isEmpty_eq_false_iff.2 (tail_ne_nil h)] at hword
  exact hword

end

/-! ## Dialects -/

/-- A dialect whose strings are JSON, with what its numbers are read as. -/
structure Dialect.Reads (d : Dialect) (number : Binary64 → Option JsonTree) : Prop where
  shows : d.Shows
  ne_nil : ∀ x, d.number x ≠ []
  chars : ∀ x, ∀ c ∈ d.number x, isWordChar c = true
  number : ∀ x, word? (d.number x) = number x

/-- What a number is read as where there is nothing to read for one that is not finite. -/
def plainReading : Binary64 → Option JsonTree
  | .finite negative rank =>
    (Binary64.ofText? ((Binary64.finite negative rank).text .plain)).map .float
  | _ => none

/-- What a number is read as where null stands for one that is not finite. -/
def compactReading : Binary64 → Option JsonTree
  | .finite negative rank =>
    (Binary64.ofText? ((Binary64.finite negative rank).text .plain)).map .float
  | _ => some .null

section

variable (layout : Decimal.Layout) (negative : Bool) (rank : Fin Binary64.rankCount)

theorem text_finite_ne_nil : (Binary64.finite negative rank).text layout ≠ [] := by
  obtain ⟨n, hn, htext⟩ := layout.exists_numeral (Binary64.shortest rank)
  obtain ⟨c, cs, hcons, _⟩ := Decimal.Numeral.exists_text_eq_cons hn
  rw [Binary64.text, ← htext, hcons]
  simp

theorem isWordChar_of_mem_text_finite :
    ∀ c ∈ (Binary64.finite negative rank).text layout, isWordChar c = true := by
  obtain ⟨n, hn, htext⟩ := layout.exists_numeral (Binary64.shortest rank)
  intro c hc
  rw [Binary64.text, ← htext] at hc
  rcases List.mem_append.1 hc with hc | hc
  · split at hc
    · rw [List.mem_singleton.1 hc]
      rfl
    · exact absurd hc List.not_mem_nil
  · rcases Decimal.Numeral.mem_text hn hc with hdigit | rfl | rfl | rfl | rfl
    · exact isWordChar_of_isDigit hdigit
    all_goals rfl

theorem word?_text_finite :
    word? ((Binary64.finite negative rank).text layout) =
      (Binary64.ofText? ((Binary64.finite negative rank).text layout)).map .float := by
  obtain ⟨n, hn, htext⟩ := layout.exists_numeral (Binary64.shortest rank)
  rw [Binary64.text, ← htext]
  exact word?_numeral hn negative

end

theorem reads_plain : Dialect.plain.Reads plainReading where
  shows := shows_plain
  ne_nil x := by
    cases x with
    | nan => decide
    | infinite negative =>
      revert negative
      decide
    | finite negative rank => exact text_finite_ne_nil .plain negative rank
  chars x := by
    cases x with
    | nan => exact List.all_eq_true.1 rfl
    | infinite negative =>
      cases negative with
      | true => exact List.all_eq_true.1 rfl
      | false => exact List.all_eq_true.1 rfl
    | finite negative rank => exact isWordChar_of_mem_text_finite .plain negative rank
  number x := by
    cases x with
    | nan => rfl
    | infinite negative =>
      cases negative with
      | true => rfl
      | false => rfl
    | finite negative rank => exact word?_text_finite .plain negative rank

theorem reads_compact : Dialect.compact.Reads compactReading where
  shows := shows_compact
  ne_nil x := by
    cases x with
    | nan => decide
    | infinite negative => exact List.cons_ne_nil _ _
    | finite negative rank => exact text_finite_ne_nil .compact negative rank
  chars x := by
    cases x with
    | nan => exact List.all_eq_true.1 rfl
    | infinite negative =>
      cases negative with
      | true => exact List.all_eq_true.1 rfl
      | false => exact List.all_eq_true.1 rfl
    | finite negative rank => exact isWordChar_of_mem_text_finite .compact negative rank
  number x := by
    cases x with
    | nan => rfl
    | infinite negative => rfl
    | finite negative rank =>
      rw [compactReading, ← Binary64.ofText?_text_compact]
      exact word?_text_finite .compact negative rank

end JsonTree
end RouteTemplate
