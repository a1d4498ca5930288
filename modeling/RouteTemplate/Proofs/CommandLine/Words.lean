/-
The words of the command that prints a URL: a template and parameters, each behind its option.

A template that does not start with a dash is an operand wherever it stands, and what follows
the letter of an option is its value, whatever it looks like.  So the words come apart into
the template and the typed pairs, and a pair comes apart at its first equals sign.
-/
import RouteTemplate.CommandLine.Program
import RouteTemplate.Proofs.Schema.Mapping

namespace RouteTemplate
namespace CommandLine

/-! ## Words -/

/-- A parameter the way it is typed. -/
def pairWord (p : String × String) : String := p.1 ++ "=" ++ p.2

/-- Parameters on the command line, each behind its option. -/
def pairWords (pairs : List (String × String)) : List String :=
  pairs.flatMap fun p => ["-p", pairWord p]

/-- The command that prints the URL of a template with some parameters. -/
def expandWords (t : String) (pairs : List (String × String)) : List String :=
  "expand" :: t :: pairWords pairs

def expandForms : List OptionForm := [paramOption, jsonOption]

theorem ne_dashes_of_head? {w : String} (h : w.toList.head? ≠ some '-') : w ≠ "--" := by
  rintro rfl
  exact h rfl

theorem read_of_head? (forms : List OptionForm) {w : String} (h : w.toList.head? ≠ some '-') :
    Word.read forms w = .ok .operand := by
  rw [Word.read]
  split
  · rename_i heq
    rw [heq] at h
    exact absurd rfl h
  · rename_i heq
    rw [heq] at h
    exact absurd rfl h
  · rfl

theorem sort_pairWords (pairs : List (String × String)) :
    Words.sort expandForms true (pairWords pairs) =
      .ok ⟨pairs.map fun p => (paramOption.long, some (pairWord p)), []⟩ := by
  induction pairs with
  | nil => rfl
  | cons p pairs ih =>
    have hword : Word.read expandForms "-p" = .ok (.incomplete paramOption.long "-p") := rfl
    show Words.sort expandForms true ("-p" :: pairWord p :: pairWords pairs) = _
    rw [Words.sort, if_neg (by decide), hword]
    show (Words.sort expandForms true (pairWords pairs)).map _ = _
    rw [ih]
    rfl

theorem sort_template_pairWords {t : String} (ht : t.toList.head? ≠ some '-')
    (pairs : List (String × String)) :
    Words.sort expandForms true (t :: pairWords pairs) =
      .ok ⟨pairs.map fun p => (paramOption.long, some (pairWord p)), [t]⟩ := by
  rw [Words.sort, if_neg (ne_dashes_of_head? ht), read_of_head? _ ht]
  show (Words.sort expandForms true (pairWords pairs)).map _ = _
  rw [sort_pairWords]
  rfl

/-! ## Parameters -/

/-- Pairs that a command line can say: a name, and no equals sign in it. -/
def Sayable (pairs : List (String × String)) : Prop :=
  ∀ p ∈ pairs, p.1 ≠ "" ∧ '=' ∉ p.1.toList

instance (pairs : List (String × String)) : Decidable (Sayable pairs) :=
  inferInstanceAs (Decidable (∀ p ∈ pairs, p.1 ≠ "" ∧ '=' ∉ p.1.toList))

theorem readPair?_pairWord {p : String × String} (hname : p.1 ≠ "") (hsign : '=' ∉ p.1.toList) :
    readPair? (pairWord p) = some (p.1, readValue p.2) := by
  have hcut : Text.cut? '=' (pairWord p).toList = some (p.1.toList, p.2.toList) := by
    rw [Text.cut?_eq_some_iff, pairWord, String.toList_append, String.toList_append]
    exact ⟨List.append_assoc _ _ _, hsign⟩
  have hne : p.1.toList.isEmpty = false := by
    rw [List.isEmpty_eq_false_iff]
    exact fun h => hname (String.toList_eq_nil_iff.1 h)
  rw [readPair?, hcut]
  simp only [hne, Bool.false_eq_true, if_false, String.ofList_toList]

theorem readPairs_pairWords {pairs : List (String × String)} (h : Sayable pairs) :
    readPairs (pairs.map pairWord) =
      .ok (Schema.dictionary (pairs.map fun p => (p.1, readValue p.2))) := by
  rw [readPairs, Schema.dictionary]
  generalize ([] : Params) = acc
  induction pairs generalizing acc with
  | nil => rfl
  | cons p pairs ih =>
    obtain ⟨hname, hsign⟩ := h p List.mem_cons_self
    rw [List.map_cons, List.foldlM_cons, readPair?_pairWord hname hsign]
    exact ih (fun q hq => h q (List.mem_cons_of_mem p hq)) _

end CommandLine
end RouteTemplate
