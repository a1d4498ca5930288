/-
The order in which names are listed.

A list gives the members of another by first appearance when it has the same
members and lists them in the order of the places where they first stand.  No
two places are the same, so such a list repeats nothing, and there is only one
such list.
-/
import Mathlib.Data.List.Induction
import RouteTemplate.Template.Basic

namespace RouteTemplate
namespace Template

structure ByFirstAppearance {α : Type} [BEq α] (firsts all : List α) : Prop where
  mem_iff : ∀ a, a ∈ firsts ↔ a ∈ all
  increasing : firsts.Pairwise fun a b => all.idxOf a < all.idxOf b

theorem ByFirstAppearance.nodup {α : Type} [BEq α] {firsts all : List α}
    (h : ByFirstAppearance firsts all) : firsts.Nodup := by
  refine h.increasing.imp fun hlt heq => ?_
  rw [heq] at hlt
  exact Nat.lt_irrefl _ hlt

section

variable {α : Type} [BEq α] [LawfulBEq α] {l : List α} {b : α}

theorem eraseDups_concat_of_mem (h : b ∈ l) : (l ++ [b]).eraseDups = l.eraseDups := by
  rw [List.eraseDups_append, List.cons_removeAll, List.nil_removeAll,
    if_neg (by rw [List.contains_iff_mem.2 h]; decide), List.eraseDups_nil, List.append_nil]

theorem eraseDups_concat_of_not_mem (h : b ∉ l) : (l ++ [b]).eraseDups = l.eraseDups ++ [b] := by
  rw [List.eraseDups_append, List.cons_removeAll, List.nil_removeAll,
    if_pos (by rw [← Bool.not_eq_true, List.contains_iff_mem]; exact h)]
  rfl

end

/-- The induction adds a member at the end, where it can be new but moves no
first appearance. -/
theorem byFirstAppearance_eraseDups {α : Type} [BEq α] [LawfulBEq α] (l : List α) :
    ByFirstAppearance l.eraseDups l where
  mem_iff _ := List.mem_eraseDups
  increasing := by
    induction l using List.reverseRecOn with
    | nil => exact List.Pairwise.nil
    | append_singleton l b ih =>
      have hkeep : ∀ a ∈ l.eraseDups, (l ++ [b]).idxOf a = l.idxOf a := by
        intro a ha
        rw [List.idxOf_append, if_pos (List.mem_eraseDups.1 ha)]
      have hold : l.eraseDups.Pairwise fun a c => (l ++ [b]).idxOf a < (l ++ [b]).idxOf c := by
        refine ih.imp_of_mem fun ha hc hlt => ?_
        rw [hkeep _ ha, hkeep _ hc]
        exact hlt
      by_cases hb : b ∈ l
      · rw [eraseDups_concat_of_mem hb]
        exact hold
      · rw [eraseDups_concat_of_not_mem hb]
        refine List.pairwise_append.2 ⟨hold, List.pairwise_singleton _ _, ?_⟩
        intro a ha c hc
        obtain rfl : c = b := List.mem_singleton.1 hc
        rw [hkeep a ha, List.idxOf_append, if_neg hb]
        exact Nat.lt_of_lt_of_le (List.idxOf_lt_length_of_mem (List.mem_eraseDups.1 ha))
          (Nat.le_add_left _ _)

/-- Whether repetitions go before or after a selection makes no difference. -/
theorem eraseDups_filter {α : Type} [BEq α] [LawfulBEq α] (keep : α → Bool) (l : List α) :
    (l.filter keep).eraseDups = l.eraseDups.filter keep := by
  induction l using List.reverseRecOn with
  | nil => rfl
  | append_singleton l b ih =>
    rw [List.filter_append]
    by_cases hkeep : keep b = true
    · rw [List.filter_cons_of_pos hkeep, List.filter_nil]
      by_cases hb : b ∈ l
      · rw [eraseDups_concat_of_mem hb, eraseDups_concat_of_mem (List.mem_filter.2 ⟨hb, hkeep⟩), ih]
      · rw [eraseDups_concat_of_not_mem hb,
          eraseDups_concat_of_not_mem fun h => hb (List.mem_filter.1 h).1, ih, List.filter_append,
          List.filter_cons_of_pos hkeep, List.filter_nil]
    · rw [List.filter_cons_of_neg hkeep, List.filter_nil, List.append_nil, ih]
      by_cases hb : b ∈ l
      · rw [eraseDups_concat_of_mem hb]
      · rw [eraseDups_concat_of_not_mem hb, List.filter_append, List.filter_cons_of_neg hkeep,
          List.filter_nil, List.append_nil]

/-- The members of two lists: those of the first, then what the second adds. -/
theorem eraseDups_append_eq {α : Type} [BEq α] [LawfulBEq α] (l m : List α) :
    (l ++ m).eraseDups = l.eraseDups ++ m.eraseDups.filter fun a => !l.eraseDups.contains a := by
  have hkeep : (fun a => !l.contains a) = fun a => !l.eraseDups.contains a := by
    funext a
    rw [Bool.eq_iff_iff, Bool.not_eq_true', Bool.not_eq_true', ← Bool.not_eq_true,
      ← Bool.not_eq_true, List.contains_iff_mem, List.contains_iff_mem, List.mem_eraseDups]
  rw [List.eraseDups_append, ← hkeep, ← eraseDups_filter]
  rfl

theorem byFirstAppearance_variableNames (t : Template) :
    ByFirstAppearance t.variableNames (t.vars.map Variable.name) :=
  byFirstAppearance_eraseDups _

end Template
end RouteTemplate
