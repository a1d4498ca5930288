/-
Where an error says that a template is at fault.

Reading stops at one piece of the text, a segment or a specification inside one,
with everything to the left of it read.  The error keeps what it calls the piece
and not where the piece was, and looks for that text from the start.  So the
position is that of the first occurrence, which may lie further left.  A length
is called by its number, so that a specification with zeros in front of a length
is called something that it is not, and the position is then never its own.
-/
import RouteTemplate.Proofs.Decimal.Digits
import RouteTemplate.Proofs.Template.Spelling

namespace RouteTemplate

/-! ## The first occurrence -/

namespace Text

/-- A text occurs at an offset of another and nowhere before it. -/
def FirstAt (needle s : List Char) (n : Nat) : Prop :=
  needle <+: s.drop n ∧ ∀ m < n, ¬needle <+: s.drop m

theorem offset?_eq_some_iff {needle s : List Char} {n : Nat} :
    offset? needle s = some n ↔ FirstAt needle s n := by
  induction s generalizing n with
  | nil =>
    by_cases h : needle = []
    · subst h
      cases n with
      | zero => simp [offset?, FirstAt]
      | succ n =>
        have hzero : ¬FirstAt [] [] (n + 1) := fun h => h.2 0 (by omega) (List.nil_prefix)
        simp [offset?, hzero]
    · simp [offset?, FirstAt, h]
  | cons c cs ih =>
    by_cases h : needle <+: c :: cs
    · cases n with
      | zero => simp [offset?, FirstAt, h]
      | succ n =>
        have hzero : ¬FirstAt needle (c :: cs) (n + 1) := fun h' => h'.2 0 (by omega) h
        simp [offset?, h, hzero]
    · have hnone : needle.isPrefixOf (c :: cs) = false := by
        rw [← Bool.not_eq_true, List.isPrefixOf_iff_prefix]
        exact h
      rw [offset?, hnone, if_neg Bool.false_ne_true, Option.map_eq_some_iff]
      constructor
      · rintro ⟨m, hm, rfl⟩
        obtain ⟨hat, hbefore⟩ := ih.1 hm
        refine ⟨hat, fun k hk => ?_⟩
        cases k with
        | zero => exact h
        | succ k => exact hbefore k (by omega)
      · rintro ⟨hat, hbefore⟩
        cases n with
        | zero => exact absurd hat h
        | succ n => exact ⟨n, ih.2 ⟨hat, fun k hk => hbefore (k + 1) (by omega)⟩, rfl⟩

/-- What occurs somewhere occurs first somewhere, and not later. -/
theorem exists_offset?_of_prefix {needle s : List Char} {n : Nat} (h : needle <+: s.drop n) :
    ∃ m ≤ n, offset? needle s = some m := by
  induction n using Nat.strong_induction_on with
  | _ n ih =>
    by_cases hearlier : ∃ m < n, needle <+: s.drop m
    · obtain ⟨m, hm, hat⟩ := hearlier
      obtain ⟨k, hk, hoffset⟩ := ih m hm hat
      exact ⟨k, by omega, hoffset⟩
    · exact ⟨n, Nat.le_refl n, offset?_eq_some_iff.2 ⟨h, fun m hm hat => hearlier ⟨m, hm, hat⟩⟩⟩

/-- Pieces between commas: what stands in front of one. -/
theorem intercalate_append_cons {α : Type} (sep : List α) (left : List (List α)) (l : List α)
    (right : List (List α)) :
    List.intercalate sep (left ++ l :: right) =
      (left.flatMap fun m => m ++ sep) ++ List.intercalate sep (l :: right) := by
  induction left with
  | nil => rfl
  | cons m left ih =>
    rw [List.cons_append, List.flatMap_cons]
    cases left with
    | nil => rw [List.nil_append, List.intercalate_cons_cons, List.flatMap_nil, List.append_nil]
    | cons k left =>
      rw [List.cons_append] at ih ⊢
      rw [List.intercalate_cons_cons, ih]
      simp only [List.append_assoc]

end Text

namespace Template

/-! ## Where reading stops

In a segment first, then in the text that the segments are cut from. -/

/-- The piece that a segment cannot be read for, with its offset in the segment. -/
inductive StopsIn : Segment → Nat → List Char → Fault → Prop where
  /-- A literal with a brace that belongs to no pair. -/
  | plain {s : List Char} (h : '{' ∈ s ∨ '}' ∈ s) : StopsIn (.plain s) 0 s (.badExpansion s)
  /-- An expression without an operator that is known. -/
  | operator {body : List Char} {fault : Fault} (h : readOperator body = .error fault) :
    StopsIn (.braced body) 0 (Segment.braced body).source fault
  /-- A specification behind the operator and others that can be read. -/
  | specification {body rest spec : List Char} {op : Operator} {left right : List (List Char)}
      {fault : Fault} (hop : readOperator body = .ok (op, rest))
      (hspecs : (splitCloser rest).1.splitOn ',' = left ++ spec :: right)
      (hleft : ∀ w ∈ left, ∃ v, readVariable w = .ok v) (h : readVariable spec = .error fault) :
    StopsIn (.braced body) (1 + op.symbol.length + (left.flatMap fun w => w ++ [',']).length)
      spec fault

namespace StopsIn

variable {s : Segment} {k : Nat} {piece : List Char} {fault : Fault}

theorem readSegment_eq (h : StopsIn s k piece fault) : readSegment s = .error fault := by
  cases h with
  | plain h =>
    rw [readSegment, if_pos]
    simpa only [Bool.or_eq_true, List.contains_iff_mem] using h
  | operator h =>
    rw [readSegment, Outcome.map_eq_error, readExpression]
    exact Outcome.bind_eq_error_iff.2 (Or.inl h)
  | specification hop hspecs hleft h =>
    have hvars := Outcome.mapM_eq_error.2 ⟨_, _, _, hspecs, hleft, h⟩
    rw [readSegment, Outcome.map_eq_error, readExpression]
    exact Outcome.bind_eq_error_iff.2 (Or.inr ⟨_, hop,
      Outcome.bind_eq_error_iff.2 (Or.inl hvars)⟩)

theorem exists_of_readSegment (h : readSegment s = .error fault) :
    ∃ k piece, StopsIn s k piece fault := by
  cases s with
  | plain s =>
    rw [readSegment] at h
    split at h
    · next hbrace =>
      cases h
      simp only [Bool.or_eq_true, List.contains_iff_mem] at hbrace
      exact ⟨_, _, .plain hbrace⟩
    · cases h
  | braced body =>
    rw [readSegment, Outcome.map_eq_error, readExpression] at h
    rcases Outcome.bind_eq_error_iff.1 h with hop | ⟨⟨op, rest⟩, hop, h⟩
    · exact ⟨_, _, .operator hop⟩
    · rcases Outcome.bind_eq_error_iff.1 h with hvars | ⟨vars, _, h⟩
      · obtain ⟨left, spec, right, hspecs, hleft, hspec⟩ := Outcome.mapM_eq_error.1 hvars
        exact ⟨_, _, .specification hop hspecs hleft hspec⟩
      · cases h

theorem unique {k' : Nat} {piece' : List Char} {fault' : Fault} (h : StopsIn s k piece fault)
    (h' : StopsIn s k' piece' fault') : k = k' ∧ piece = piece' ∧ fault = fault' := by
  have hfault : fault = fault' := by
    have hread := h.readSegment_eq
    rw [h'.readSegment_eq] at hread
    exact (Except.error.inj hread).symm
  subst hfault
  cases h with
  | plain => cases h' with | plain => exact ⟨rfl, rfl, rfl⟩
  | operator hop =>
    cases h' with
    | operator => exact ⟨rfl, rfl, rfl⟩
    | specification hop' =>
      rw [hop] at hop'
      cases hop'
  | specification hop hspecs hleft hspec =>
    cases h' with
    | operator hop' =>
      rw [hop] at hop'
      cases hop'
    | specification hop' hspecs' hleft' hspec' =>
      rw [hop] at hop'
      cases hop'
      obtain ⟨rfl, rfl⟩ := Outcome.first_error_unique (hspecs.symm.trans hspecs') hleft hspec
        hleft' hspec'
      exact ⟨rfl, rfl, rfl⟩

/-- The piece stands in the segment where it is said to start. -/
theorem piece_prefix (h : StopsIn s k piece fault) : piece <+: s.source.drop k := by
  cases h with
  | plain => exact List.prefix_refl _
  | operator => exact List.prefix_refl _
  | @specification body rest _ op left right _ hop hspecs =>
    have htext : List.intercalate [','] ((splitCloser rest).1.splitOn ',') =
        (splitCloser rest).1 := List.intercalate_splitOn ','
    rw [hspecs, Text.intercalate_append_cons] at htext
    have hrest : rest = (left.flatMap fun w => w ++ [',']) ++
        (List.intercalate [','] (piece :: right) ++ (splitCloser rest).2.toList) := by
      rw [← List.append_assoc, htext]
      exact splitCloser_eq rfl
    have hbody := readOperator_eq_ok hop
    rw [hrest] at hbody
    have hsource : (Segment.braced body).source =
        ('{' :: op.symbol ++ left.flatMap fun w => w ++ [',']) ++
          (List.intercalate [','] (piece :: right) ++ ((splitCloser rest).2.toList ++ ['}'])) := by
      rw [Segment.source, hbody]
      simp only [List.append_assoc, List.cons_append]
    have hlength : 1 + op.symbol.length + (left.flatMap fun w => w ++ [',']).length =
        ('{' :: op.symbol ++ left.flatMap fun w => w ++ [',']).length := by
      rw [List.length_append, List.length_cons]
      omega
    rw [hlength, hsource, List.drop_left, Text.intercalate_cons, List.append_assoc]
    exact List.prefix_append _ _

end StopsIn

/-- Reading stops at a piece of the text, with all segments before that of the piece read. -/
inductive StopsAt (source : List Char) : Nat → List Char → Fault → Prop where
  | mk {before after : List Segment} {s : Segment} {k : Nat} {piece : List Char} {fault : Fault}
      (hsplit : Segment.split source = before ++ s :: after)
      (hbefore : ∀ b ∈ before, ∃ part, readSegment b = .ok part) (h : StopsIn s k piece fault) :
    StopsAt source ((Segment.join before).length + k) piece fault

theorem exists_stopsAt {source : String} {e : SyntaxError} (h : parse source = .error e) :
    e.template = source ∧ ∃ n piece, StopsAt source.toList n piece e.fault := by
  unfold parse at h
  split at h
  · cases h
  · next fault hparts =>
    cases h
    obtain ⟨before, s, after, hsplit, hbefore, hs⟩ := Outcome.mapM_eq_error.1 hparts
    obtain ⟨k, piece, hstops⟩ := StopsIn.exists_of_readSegment hs
    exact ⟨rfl, _, _, .mk hsplit hbefore hstops⟩

/-- There is one piece that reading stops at. -/
theorem StopsAt.unique {source piece piece' : List Char} {n n' : Nat} {fault fault' : Fault}
    (h : StopsAt source n piece fault) (h' : StopsAt source n' piece' fault') :
    n = n' ∧ piece = piece' ∧ fault = fault' := by
  obtain ⟨hsplit, hbefore, hs⟩ := h
  obtain ⟨hsplit', hbefore', hs'⟩ := h'
  obtain ⟨rfl, rfl⟩ := Outcome.first_error_unique (hsplit.symm.trans hsplit') hbefore
    hs.readSegment_eq hbefore' hs'.readSegment_eq
  obtain ⟨rfl, rfl, rfl⟩ := hs.unique hs'
  exact ⟨rfl, rfl, rfl⟩

theorem StopsAt.piece_prefix {source piece : List Char} {n : Nat} {fault : Fault}
    (h : StopsAt source n piece fault) : piece <+: source.drop n := by
  obtain @⟨before, after, s, k, _, _, hsplit, _, hs⟩ := h
  have hsource : source = Segment.join before ++ (s.source ++ Segment.join after) := by
    have hjoin := Segment.join_split source
    rw [hsplit] at hjoin
    simpa [Segment.join] using hjoin.symm
  obtain ⟨tail, htail⟩ := hs.piece_prefix
  rw [hsource, ← List.drop_drop, List.drop_left, List.drop_append, ← htail, List.append_assoc]
  exact List.prefix_append _ _

/-! ## What the piece is called -/

/-- How a fault calls the piece that it is about. -/
inductive Calls : Fault → List Char → Prop where
  | badExpansion (piece : List Char) : Calls (.badExpansion piece) piece
  | unsupportedExpansion (piece : List Char) : Calls (.unsupportedExpansion piece) piece
  /-- By its text, with or without its fallback. -/
  | badVariable {f piece : List Char} (h : f <+: piece) : Calls (.badVariable f) piece
  /-- With a length that was written with zeros in front. -/
  | shortened {left digits rest : List Char} {n : Nat} (hlength : readLength? digits = some n)
      (hzeros : digits ≠ Nat.toDigits 10 n) (hrest : ∀ c ∈ rest.head?, c = '=') :
    Calls (.badVariable (left ++ ':' :: Nat.toDigits 10 n)) (left ++ ':' :: digits ++ rest)
  | emptyName : Calls .emptyName []

theorem readModifier_eq_error {cs : List Char} {fault : Fault}
    (h : readModifier cs = .error fault) : fault = .badVariable cs := by
  unfold readModifier at h
  split at h
  · split at h
    · cases h
    · cases h
      rfl
  · split at h
    · cases h
    · split at h
      · cases h
      · cases h

/-- A modifier is read as it is written, unless it is a length with zeros in front. -/
theorem eq_append_text_of_readModifier {cs left : List Char} {m : Modifier}
    (h : readModifier cs = .ok (left, m)) :
    cs = left ++ m.text ∨ ∃ digits n, m = .first n ∧ cs = left ++ ':' :: digits ∧
      readLength? digits = some n ∧ digits ≠ Nat.toDigits 10 n := by
  unfold readModifier at h
  split at h
  · next before behind hcut =>
    obtain ⟨rfl, _⟩ := Text.cut?_eq_some_iff.1 hcut
    split at h
    · next n hlength =>
      cases h
      by_cases hzeros : behind = Nat.toDigits 10 n
      · rw [hzeros]
        exact Or.inl rfl
      · exact Or.inr ⟨behind, n, rfl, rfl, hlength, hzeros⟩
    · cases h
  · split at h
    · next hstar =>
      cases h
      exact Or.inl (Text.dropEnd?_eq_some hstar)
    · split at h
      · next hbrackets =>
        cases h
        exact Or.inl (Text.dropEnd?_eq_some hbrackets)
      · cases h
        exact Or.inl (List.append_nil cs).symm

theorem calls_of_readOperator {body : List Char} {fault : Fault}
    (h : readOperator body = .error fault) : Calls fault (Segment.braced body).source := by
  unfold readOperator at h
  split at h
  · cases h
  · split at h
    case h_10 =>
      split at h
      · cases h
        exact .unsupportedExpansion _
      · cases h
        exact .badExpansion _
    case h_11 =>
      cases h
      exact .badExpansion _
    all_goals cases h

/-- The four ways in which a specification is refused. -/
theorem readVariable_eq_error {cs : List Char} {fault : Fault}
    (h : readVariable cs = .error fault) :
    (cs = [] ∧ fault = .emptyName) ∨ fault = .badVariable cs ∨
      readModifier (beforeFallback cs) = .error fault ∨
      ∃ left m, readModifier (beforeFallback cs) = .ok (left, m) ∧
        fault = .badVariable (left ++ m.text) := by
  cases cs with
  | nil =>
    cases h
    exact Or.inl ⟨rfl, rfl⟩
  | cons c rest =>
    refine Or.inr ?_
    rw [readVariable] at h
    split at h
    · cases h
      exact Or.inl rfl
    · refine Or.inr ?_
      rw [beforeFallback_eq]
      -- with or without a fallback, what comes before it is read the same way
      cases hcut : Text.cut? '=' (c :: rest)
      all_goals
        rw [hcut] at h
        rcases Outcome.bind_eq_error_iff.1 h with hmodifier | ⟨⟨left, m⟩, hmodifier, hname⟩
        · exact Or.inl hmodifier
        · refine Or.inr ⟨left, m, hmodifier, ?_⟩
          dsimp only at hname
          split at hname
          · cases hname
            rfl
          · cases hname

theorem beforeFallback_append (cs : List Char) :
    ∃ rest, cs = beforeFallback cs ++ rest ∧ ∀ c ∈ rest.head?, c = '=' := by
  refine ⟨cs.dropWhile (· != '='), List.takeWhile_append_dropWhile.symm, fun c hc => ?_⟩
  have hhead := List.head?_dropWhile_not (· != '=') cs
  rw [Option.mem_def.1 hc] at hhead
  simpa using hhead

theorem calls_of_readVariable {spec : List Char} {fault : Fault}
    (h : readVariable spec = .error fault) : Calls fault spec := by
  obtain ⟨rest, hspec, hrest⟩ := beforeFallback_append spec
  rcases readVariable_eq_error h with ⟨rfl, rfl⟩ | rfl | hmodifier | ⟨left, m, hmodifier, rfl⟩
  · exact .emptyName
  · exact .badVariable (List.prefix_refl spec)
  · rw [readModifier_eq_error hmodifier]
    exact .badVariable ⟨rest, hspec.symm⟩
  · rw [hspec]
    rcases eq_append_text_of_readModifier hmodifier with hwritten | hshort
    · rw [← hwritten]
      exact .badVariable (List.prefix_append _ rest)
    · obtain ⟨digits, n, rfl, hwritten, hlength, hzeros⟩ := hshort
      rw [hwritten]
      exact .shortened hlength hzeros hrest

theorem StopsAt.calls {source piece : List Char} {n : Nat} {fault : Fault}
    (h : StopsAt source n piece fault) : Calls fault piece := by
  obtain ⟨_, _, hs⟩ := h
  cases hs with
  | plain => exact .badExpansion piece
  | operator h => exact calls_of_readOperator h
  | specification _ _ _ h => exact calls_of_readVariable h

/-- A shortened length is not found where the length is written. -/
theorem not_prefix_of_shortened {digits rest : List Char} {n : Nat}
    (hlength : readLength? digits = some n) (hzeros : digits ≠ Nat.toDigits 10 n) :
    ¬Nat.toDigits 10 n <+: digits ++ rest := by
  obtain ⟨hpos, _⟩ := readLength?_eq_some hlength
  have hdigits : Decimal.ofDigits digits = n := by
    unfold readLength? at hlength
    split at hlength
    · exact Option.some.inj hlength
    · cases hlength
  have hwritten : Decimal.ofDigits (Nat.toDigits 10 n) = n := Decimal.ofDigits_toDigits n
  intro h
  rcases List.prefix_or_prefix_of_prefix h (List.prefix_append digits rest) with hp | hp
  · have hlt := Decimal.ofDigits_lt_of_prefix hp (Ne.symm hzeros) (by omega)
    omega
  · have hlt := Decimal.ofDigits_lt_of_prefix hp hzeros (by omega)
    omega

/-- Whatever stands behind a piece, it starts with what it is called if the piece does. -/
theorem Calls.prefix_append_iff {fault : Fault} {piece f : List Char} (h : Calls fault piece)
    (hf : fault.fragment? = some f) (rest : List Char) : f <+: piece ++ rest ↔ f <+: piece := by
  refine ⟨fun hp => ?_, fun hp => hp.trans (List.prefix_append _ _)⟩
  cases h with
  | badExpansion =>
    cases hf
    exact List.prefix_refl _
  | unsupportedExpansion =>
    cases hf
    exact List.prefix_refl _
  | badVariable h =>
    cases hf
    exact h
  | @shortened left digits rest' n hlength hzeros =>
    cases hf
    rw [List.append_assoc, List.append_assoc, List.cons_append, List.prefix_append_right_inj,
      List.prefix_cons_inj] at hp
    exact absurd hp (not_prefix_of_shortened hlength hzeros)
  | emptyName => cases hf

/-! ## Positions -/

/-- A position is where the piece is called by name for the first time.  Where the piece
starts with what it is called, the position is not behind it, and it is the start of the piece
just where nothing to the left of it is called the same. -/
theorem position_of_first_fault {source : String} {e : SyntaxError}
    (h : parse source = .error e) :
    ∃ n piece, StopsAt source.toList n piece e.fault ∧
      (∀ n' piece' fault', StopsAt source.toList n' piece' fault' →
        n' = n ∧ piece' = piece ∧ fault' = e.fault) ∧
      piece <+: source.toList.drop n ∧ Calls e.fault piece ∧
      (∀ P, e.position = some P ↔
        ∃ f, e.fault.fragment? = some f ∧ Text.FirstAt f source.toList P) ∧
      ∀ f, e.fault.fragment? = some f →
        (f <+: piece → ∃ P ≤ n, e.position = some P) ∧
          (e.position = some n ↔ f <+: piece ∧ ∀ m < n, ¬f <+: source.toList.drop m) := by
  obtain ⟨htemplate, n, piece, hstops⟩ := exists_stopsAt h
  have hpiece := hstops.piece_prefix
  have hposition : ∀ P, e.position = some P ↔
      ∃ f, e.fault.fragment? = some f ∧ Text.FirstAt f source.toList P := by
    intro P
    rw [SyntaxError.position, htemplate, Option.bind_eq_some_iff]
    simp only [Text.offset?_eq_some_iff]
  refine ⟨n, piece, hstops, fun _ _ _ h' => h'.unique hstops, hpiece, hstops.calls, hposition,
    fun f hf => ⟨fun hstarts => ?_, ?_⟩⟩
  · obtain ⟨P, hP, hoffset⟩ := Text.exists_offset?_of_prefix (hstarts.trans hpiece)
    exact ⟨P, hP, (hposition P).2 ⟨f, hf, Text.offset?_eq_some_iff.1 hoffset⟩⟩
  · obtain ⟨rest, hrest⟩ := hpiece
    have hstart : f <+: source.toList.drop n ↔ f <+: piece := by
      rw [← hrest]
      exact hstops.calls.prefix_append_iff hf rest
    rw [hposition n, hf]
    simp only [Option.some.injEq, exists_eq_left', Text.FirstAt, hstart]

/-- A specification behind an operator and a fallback, whose length is written with a zero in
front, and a literal that holds what it is then called. -/
theorem position_of_first_fault_zeros :
    parse "/{a}{?b=x,c d:07}c d:7" =
        .error ⟨"/{a}{?b=x,c d:07}c d:7", .badVariable "c d:7".toList⟩ ∧
      StopsAt "/{a}{?b=x,c d:07}c d:7".toList 10 "c d:07".toList (.badVariable "c d:7".toList) ∧
      SyntaxError.position ⟨"/{a}{?b=x,c d:07}c d:7", .badVariable "c d:7".toList⟩ = some 17 := by
  have h : parse "/{a}{?b=x,c d:07}c d:7" =
      .error ⟨"/{a}{?b=x,c d:07}c d:7", .badVariable "c d:7".toList⟩ := rfl
  have hop : readOperator "?b=x,c d:07".toList = .ok (.query, "b=x,c d:07".toList) := rfl
  have hspecs : (splitCloser "b=x,c d:07".toList).1.splitOn ',' =
      ["b=x".toList] ++ "c d:07".toList :: [] := rfl
  have hsplit : Segment.split "/{a}{?b=x,c d:07}c d:7".toList =
      [.plain ['/'], .braced ['a']] ++ .braced "?b=x,c d:07".toList :: [.plain "c d:7".toList] :=
    rfl
  have hstops :
      StopsAt "/{a}{?b=x,c d:07}c d:7".toList 10 "c d:07".toList (.badVariable "c d:7".toList) :=
    .mk hsplit (List.forall_mem_cons.2 ⟨⟨_, rfl⟩, List.forall_mem_singleton.2 ⟨_, rfl⟩⟩)
      (.specification hop hspecs (List.forall_mem_singleton.2 ⟨_, rfl⟩) rfl)
  obtain ⟨n, piece, _, _, _, _, hposition, _⟩ := position_of_first_fault h
  exact ⟨h, hstops, (hposition 17).2 ⟨_, rfl, by decide, by decide⟩⟩

/-- A brace that is never closed is found in an expression that is closed, and a stray closing
brace at the end of the expression before it. -/
theorem position_misses_segment :
    (∃ e, parse "/\x7bc\x7d/\x7bc" = .error e ∧
      StopsAt "/\x7bc\x7d/\x7bc".toList 4 "/\x7bc".toList e.fault ∧ e.position = some 0) ∧
    ∃ e, parse "\x7ba\x7d\x7d" = .error e ∧
      StopsAt "\x7ba\x7d\x7d".toList 3 "\x7d".toList e.fault ∧ e.position = some 2 := by
  have hopen : Segment.split "/\x7bc\x7d/\x7bc".toList =
      [.plain ['/'], .braced ['c']] ++ .plain "/\x7bc".toList :: [] := rfl
  have hclose : Segment.split "\x7ba\x7d\x7d".toList = [.braced ['a']] ++ .plain ['}'] :: [] := rfl
  refine ⟨⟨_, rfl, ?_, by decide⟩, _, rfl, ?_, by decide⟩
  · exact .mk hopen (List.forall_mem_cons.2 ⟨⟨_, rfl⟩, List.forall_mem_singleton.2 ⟨_, rfl⟩⟩)
      (.plain (Or.inl (by decide)))
  · exact .mk hclose (List.forall_mem_singleton.2 ⟨_, rfl⟩) (.plain (Or.inr (by decide)))

end Template
end RouteTemplate
