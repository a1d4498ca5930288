/-
The steps of reading a template, each with the texts it accepts.

A step is stated for a text in front of whatever follows it, or for a text with
a property that its pieces inherit, so that a whole template is read by putting
the steps side by side.
-/
import RouteTemplate.Proofs.Outcome
import RouteTemplate.Template.Parser

namespace RouteTemplate

/-! ## The ends of a text -/

namespace Text

theorem mem_or_mem_of_mem_intercalate {α : Type} {sep : List α} {a : α} :
    ∀ {ls : List (List α)}, a ∈ List.intercalate sep ls → a ∈ sep ∨ ∃ l ∈ ls, a ∈ l
  | [], h => absurd h List.not_mem_nil
  | [l], h => by
    rw [List.intercalate_singleton] at h
    exact Or.inr ⟨l, List.mem_cons_self, h⟩
  | l :: m :: ls, h => by
    rw [List.intercalate_cons_cons, List.mem_append, List.mem_append] at h
    rcases h with (h | h) | h
    · exact Or.inr ⟨l, List.mem_cons_self, h⟩
    · exact Or.inl h
    · refine (mem_or_mem_of_mem_intercalate h).imp_right ?_
      rintro ⟨k, hk, ha⟩
      exact ⟨k, List.mem_cons_of_mem l hk, ha⟩

theorem getLast?_intercalate {α : Type} (sep : List α) :
    ∀ {ls : List (List α)}, (∀ l ∈ ls, l ≠ []) →
      (List.intercalate sep ls).getLast? = ls.getLast?.bind List.getLast?
  | [], _ => rfl
  | [l], _ => by
    rw [List.intercalate_singleton]
    rfl
  | l :: m :: ls, h => by
    have ih := getLast?_intercalate sep fun k hk => h k (List.mem_cons_of_mem l hk)
    have hm : List.intercalate sep (m :: ls) ≠ [] := by
      intro he
      rw [he] at ih
      have hlast := List.getLast?_eq_getLast_of_ne_nil (List.cons_ne_nil m ls)
      rw [hlast, Option.bind_some] at ih
      have hmem := List.mem_cons_of_mem l (List.getLast_mem (List.cons_ne_nil m ls))
      exact h _ hmem (List.getLast?_eq_none_iff.1 ih.symm)
    rw [List.intercalate_cons_cons, List.getLast?_append_of_ne_nil _ hm, ih]
    rfl

theorem head?_intercalate {α : Type} (sep : List α) {l : List α} (hl : l ≠ [])
    (ls : List (List α)) : (List.intercalate sep (l :: ls)).head? = l.head? := by
  cases ls with
  | nil => rw [List.intercalate_singleton]
  | cons m ls =>
    rw [List.intercalate_cons_cons, List.append_assoc, List.head?_append_of_ne_nil _ hl]

/-- Joined texts are the first, and each other one behind a separator. -/
theorem intercalate_cons {α : Type} (sep l : List α) (ls : List (List α)) :
    List.intercalate sep (l :: ls) = l ++ ls.flatMap fun m => sep ++ m := by
  induction ls generalizing l with
  | nil => rw [List.intercalate_singleton, List.flatMap_nil, List.append_nil]
  | cons m ls ih =>
    rw [List.intercalate_cons_cons, ih, List.flatMap_cons, List.append_assoc, List.append_assoc]

theorem intercalate_ne_nil {α : Type} (sep : List α) {ls : List (List α)} (hls : ls ≠ [])
    (h : ∀ l ∈ ls, l ≠ []) : List.intercalate sep ls ≠ [] := by
  cases ls with
  | nil => exact absurd rfl hls
  | cons l ls =>
    have hl : l ≠ [] := h l List.mem_cons_self
    intro he
    have hhead := head?_intercalate sep hl ls
    rw [he, List.head?_eq_some_head hl] at hhead
    cases hhead

theorem dropEnd?_append (tail s : List Char) : dropEnd? tail (s ++ tail) = some s := by
  have hs : tail.isSuffixOf (s ++ tail) = true := by
    rw [List.isSuffixOf_iff_suffix]
    exact List.suffix_append s tail
  rw [dropEnd?, if_pos hs, List.length_append, Nat.add_sub_cancel, List.take_left]

theorem dropEnd?_eq_some {tail s left : List Char} (h : dropEnd? tail s = some left) :
    s = left ++ tail := by
  unfold dropEnd? at h
  split at h
  · obtain ⟨front, rfl⟩ := List.isSuffixOf_iff_suffix.1 ‹_›
    rw [List.length_append, Nat.add_sub_cancel, List.take_left] at h
    rw [Option.some.inj h]
  · cases h

/-- A text whose last character differs does not end in `tail`. -/
theorem dropEnd?_eq_none {tail s : List Char} (ht : tail ≠ [])
    (h : s.getLast? ≠ tail.getLast?) : dropEnd? tail s = none := by
  rw [dropEnd?, if_neg]
  rw [List.isSuffixOf_iff_suffix]
  rintro ⟨t, rfl⟩
  exact h (List.getLast?_append_of_ne_nil t ht)

end Text

namespace Template

/-! ## Segments -/

namespace Segment

theorem splitBody_append {body : List Char} (h : '}' ∉ body) (rest : List Char) :
    splitBody (body ++ '}' :: rest) = some (body, split rest) := by
  induction body with
  | nil => rfl
  | cons c cs ih =>
    obtain ⟨hc, hcs⟩ := not_or.1 (fun h' => h (List.mem_cons.2 h'))
    rw [List.cons_append, splitBody, if_neg (Ne.symm hc), ih hcs]
    rfl

theorem split_braced_append {body : List Char} (h : '}' ∉ body) (rest : List Char) :
    split ((braced body).source ++ rest) = braced body :: split rest := by
  show split ('{' :: body ++ ['}'] ++ rest) = _
  rw [List.append_assoc, List.cons_append, split, if_pos rfl, List.singleton_append,
    splitBody_append h]

theorem split_append {s : List Char} (h : '{' ∉ s) (rest : List Char) :
    split (s ++ rest) = s.foldr consPlain (split rest) := by
  induction s with
  | nil => rfl
  | cons c cs ih =>
    obtain ⟨hc, hcs⟩ := not_or.1 (fun h' => h (List.mem_cons.2 h'))
    rw [List.cons_append, split, if_neg (Ne.symm hc), ih hcs]
    rfl

/-- Characters in front of an expression, or of nothing, make one literal. -/
theorem foldr_consPlain {s : List Char} (hs : s ≠ []) {segments : List Segment}
    (h : ∀ u rest, segments ≠ plain u :: rest) :
    s.foldr consPlain segments = plain s :: segments := by
  induction s with
  | nil => exact absurd rfl hs
  | cons c cs ih =>
    rw [List.foldr_cons]
    by_cases hcs : cs = []
    · subst hcs
      match segments, h with
      | [], _ => rfl
      | .braced _ :: _, _ => rfl
      | .plain u :: rest, h => exact absurd rfl (h u rest)
    · rw [ih hcs]
      rfl

end Segment

/-! ## Variables -/

theorem readName_cons {c : Char} (hc : c ≠ '%') (name key cs : List Char) :
    readName name key (c :: cs) =
      if c = '/' then readName key [] cs
      else if isWordChar c || c = '.' then readName name (key ++ [c]) cs
      else none := by
  rw [readName]
  intro a b rest h
  exact absurd h hc

/-- A text of name characters and points is all key. -/
theorem readName_of_forall {s : List Char} (h : ∀ c ∈ s, isWordChar c = true ∨ c = '.')
    (name key : List Char) : readName name key s = some (name, key ++ s) := by
  induction s generalizing key with
  | nil => rw [readName, List.append_nil]
  | cons c cs ih =>
    have hc := h c List.mem_cons_self
    have hp : c ≠ '%' := by
      rintro rfl
      exact absurd hc (by decide)
    have hs : c ≠ '/' := by
      rintro rfl
      exact absurd hc (by decide)
    have hw : (isWordChar c || decide (c = '.')) = true := by
      rw [Bool.or_eq_true, decide_eq_true_eq]
      exact hc
    rw [readName_cons hp, if_neg hs, if_pos hw, ih fun d hd => h d (List.mem_cons_of_mem c hd),
      List.append_assoc]
    rfl

/-- A specification without fallback whose name holds no slash is its own key. -/
theorem readVariable_of_readModifier {cs left : List Char} {m : Modifier}
    (hhead : ∃ c, cs.head? = some c ∧ isWordChar c = true) (hfallback : '=' ∉ cs)
    (hm : readModifier cs = .ok (left, m))
    (hleft : ∀ c ∈ left, isWordChar c = true ∨ c = '.') :
    readVariable cs = .ok ⟨String.ofList left, String.ofList left, m, none⟩ := by
  obtain ⟨c, hc, hw⟩ := hhead
  cases cs with
  | nil => cases hc
  | cons d ds =>
    obtain rfl : d = c := Option.some.inj hc
    have hcut : Text.cut? '=' (d :: ds) = none := Text.cut?_eq_none_iff.2 hfallback
    have hname : readName [] [] left = some ([], left) := readName_of_forall hleft [] []
    simp only [readVariable, hw, hcut, hm, hname, bind, Except.bind, Bool.not_true,
      Bool.false_eq_true, if_false]
    cases left with
    | nil => rfl
    | cons e es => rfl

/-! ## Expressions -/

theorem startsWithName_cons {c : Char} (hc : c ≠ '%') (cs : List Char) :
    startsWithName (c :: cs) = isWordChar c := by
  rw [startsWithName]
  intro a b rest h
  exact absurd h hc

theorem isOneLine_of_not_mem {s : List Char} (h : '\n' ∉ s) : isOneLine s = true := by
  induction s with
  | nil => rfl
  | cons c cs ih =>
    obtain ⟨hc, hcs⟩ := not_or.1 (fun h' => h (List.mem_cons.2 h'))
    rw [isOneLine, if_neg (Ne.symm hc), ih hcs]

theorem readOperator_of_startsWithName {body : List Char} (hname : startsWithName body = true)
    (hline : isOneLine body = true) : readOperator body = .ok (.simple, body) := by
  unfold readOperator
  rw [hname, hline, Bool.and_true, if_pos rfl]

theorem splitCloser_of_getLast? {s : List Char} {c : Char} (hs : s.getLast? = some c)
    (hc : [',', '.', '/', ';', '&'].contains c = false) : splitCloser s = (s, none) := by
  rw [splitCloser, hs]
  show (if _ then _ else _) = _
  rw [hc]
  rfl

/-- An expression without closer is read operator first, then variable by variable. -/
theorem readExpression_of_parts {body specs : List Char} {op : Operator} {pieces : List (List Char)}
    {vars : List Variable} (hop : readOperator body = .ok (op, specs))
    (hcloser : splitCloser specs = (specs, none)) (hsplit : specs.splitOn ',' = pieces)
    (hvars : pieces.mapM readVariable = .ok vars) :
    readExpression body = .ok ⟨op, vars, none⟩ := by
  rw [readExpression, hop]
  show (do
    let vars ← ((splitCloser specs).1.splitOn ',').mapM readVariable
    return (⟨op, vars, (splitCloser specs).2⟩ : Expression)) = _
  rw [hcloser, hsplit, hvars]
  rfl

theorem splitCloser_contains {s specs : List Char} {c : Char}
    (h : splitCloser s = (specs, some c)) : [',', '.', '/', ';', '&'].contains c = true := by
  unfold splitCloser at h
  split at h
  · split at h
    · cases h
      assumption
    · cases h
  · cases h

/-- The three things that reading an expression comes to. -/
theorem readExpression_eq_ok {body : List Char} {e : Expression} (h : readExpression body = .ok e) :
    ∃ rest specs, readOperator body = .ok (e.operator, rest) ∧
      splitCloser rest = (specs, e.closer) ∧ (specs.splitOn ',').mapM readVariable = .ok e.vars := by
  obtain ⟨⟨op, rest⟩, hop, h⟩ := Outcome.bind_eq_ok.1 h
  obtain ⟨vars, hvars, h⟩ := Outcome.bind_eq_ok.1 h
  cases h
  exact ⟨rest, (splitCloser rest).1, hop, rfl, hvars⟩

/-! ## Templates -/

theorem parse_eq_ok {source : String} {t : Template} :
    parse source = .ok t ↔
      t.source = source ∧
        List.Forall₂ (fun s p => readSegment s = .ok p) (Segment.split source.toList) t.parts := by
  have hread : (Segment.split source.toList).mapM readSegment = readParts source.toList := rfl
  rw [← Outcome.mapM_eq_ok, hread, parse]
  cases readParts source.toList with
  | error fault => exact ⟨(by cases ·), fun h => by cases h.2⟩
  | ok parts =>
    constructor
    · intro h
      cases h
      exact ⟨rfl, rfl⟩
    · rintro ⟨rfl, h⟩
      cases h
      rfl

theorem readSegment_eq_expression {s : Segment} {e : Expression}
    (h : readSegment s = .ok (.expression e)) :
    ∃ body, s = .braced body ∧ readExpression body = .ok e := by
  cases s with
  | plain s =>
    rw [readSegment] at h
    split at h
    · cases h
    · cases h
  | braced body =>
    obtain ⟨e', he, heq⟩ := Outcome.map_eq_ok.1 h
    cases heq
    exact ⟨body, rfl, he⟩

/-- Every expression of an accepted template was read from a body of its own. -/
theorem exists_readExpression_of_mem {source : String} {t : Template} (h : parse source = .ok t)
    {e : Expression} (he : e ∈ t.expressions) : ∃ body, readExpression body = .ok e := by
  obtain ⟨p, hp, hpe⟩ := List.mem_filterMap.1 he
  cases p with
  | literal s => cases hpe
  | expression e' =>
    cases hpe
    have hparts := Outcome.mapM_eq_ok.2 (parse_eq_ok.1 h).2
    obtain ⟨s, _, hs⟩ := Outcome.exists_mem_of_mapM_eq_ok hparts hp
    obtain ⟨body, _, hbody⟩ := readSegment_eq_expression hs
    exact ⟨body, hbody⟩

/-- A text without braces is read as one literal, or as nothing where it is empty. -/
theorem parse_of_braceFree {s : List Char} (ho : '{' ∉ s) (hc : '}' ∉ s) :
    parse (String.ofList s) =
      .ok ⟨String.ofList s, if s = [] then [] else [.literal s]⟩ := by
  rw [parse_eq_ok, String.toList_ofList]
  refine ⟨rfl, ?_⟩
  by_cases hs : s = []
  · subst hs
    exact .nil
  · have hsplit : Segment.split s = [.plain s] := by
      have happ := Segment.split_append ho []
      rw [List.append_nil] at happ
      rw [happ]
      exact Segment.foldr_consPlain hs fun u rest => by rintro ⟨⟩
    rw [hsplit, if_neg hs]
    refine .cons ?_ .nil
    rw [readSegment, List.contains_eq_mem, List.contains_eq_mem, decide_eq_false ho,
      decide_eq_false hc]
    rfl

end Template
end RouteTemplate
