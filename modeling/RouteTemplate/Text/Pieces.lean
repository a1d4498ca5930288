/-
Cutting a text in two, and finding a text inside another.
-/

namespace RouteTemplate
namespace Text

/-- What stands before and after the first `sep`, if there is one. -/
def cut? (sep : Char) : List Char → Option (List Char × List Char)
  | [] => none
  | c :: cs =>
    if c = sep then some ([], cs)
    else (cut? sep cs).map fun p => (c :: p.1, p.2)

/-- A text is cut exactly where its first separator stands. -/
theorem cut?_eq_some_iff {sep : Char} {s before behind : List Char} :
    cut? sep s = some (before, behind) ↔ s = before ++ sep :: behind ∧ sep ∉ before := by
  induction s generalizing before with
  | nil => simp [cut?]
  | cons c cs ih =>
    by_cases hc : c = sep
    · subst hc
      cases before with
      | nil => simp [cut?, eq_comm]
      | cons b bs =>
        simp only [cut?, if_true, Option.some.injEq, Prod.mk.injEq, List.cons_append,
          List.cons.injEq, List.mem_cons, not_or, reduceCtorEq, false_and, false_iff, not_and]
        rintro ⟨rfl, _⟩ hb
        exact absurd rfl hb
    · simp only [cut?, if_neg hc, Option.map_eq_some_iff, Prod.exists, Prod.mk.injEq]
      cases before with
      | nil => simp [hc]
      | cons b bs =>
        constructor
        · rintro ⟨a, r, h, hab, rfl⟩
          obtain ⟨rfl, rfl⟩ := List.cons.inj hab
          obtain ⟨rfl, ha⟩ := ih.1 h
          exact ⟨rfl, by simpa [ha] using fun h => hc h.symm⟩
        · rintro ⟨h, hb⟩
          obtain ⟨rfl, rfl⟩ := List.cons.inj h
          exact ⟨bs, behind, ih.2 ⟨rfl, fun h => hb (List.mem_cons_of_mem _ h)⟩, rfl, rfl⟩

theorem cut?_eq_none_iff {sep : Char} {s : List Char} : cut? sep s = none ↔ sep ∉ s := by
  induction s with
  | nil => simp [cut?]
  | cons c cs ih =>
    by_cases hc : c = sep
    · simp [cut?, hc]
    · have hs : sep ≠ c := fun h => hc h.symm
      simp [cut?, hc, hs, ih]

/-- The offset of the first occurrence of one text in another. -/
def offset? (needle : List Char) : List Char → Option Nat
  | [] => if needle.isEmpty then some 0 else none
  | c :: cs =>
    if needle.isPrefixOf (c :: cs) then some 0
    else (offset? needle cs).map (· + 1)

/-- A text without its last characters, if it ends in them. -/
def dropEnd? (tail s : List Char) : Option (List Char) :=
  if tail.isSuffixOf s then some (s.take (s.length - tail.length)) else none

end Text
end RouteTemplate
