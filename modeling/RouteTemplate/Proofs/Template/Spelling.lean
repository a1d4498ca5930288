/-
How an accepted expression is spelled.

Reading is not a check against a grammar: it takes an operator off the front, a
closer off the end, and cuts what is left at commas.  What such a reader accepts
is said here about the text it accepts.  Every specification starts with a name
character, so none is empty and no sign but that of an operator can open a body;
a brace can only stand in a fallback; and a name is empty only where two slashes
at its end have cleared it.
-/
import Mathlib.Data.List.TakeWhile
import RouteTemplate.Proofs.Percent.Encoded
import RouteTemplate.Proofs.Template.Reading

namespace RouteTemplate
namespace Template

/-- What a name and its key are written with. -/
def isNameChar (c : Char) : Bool := isWordChar c || ['.', '%', '/'].contains c

/-- A specification up to its fallback. -/
def beforeFallback (spec : List Char) : List Char := spec.takeWhile (· != '=')

/-- The name and key of a specification as they are written. -/
def writtenName (spec : List Char) : List Char := (beforeFallback spec).takeWhile isNameChar

/-! ## Operators and closers -/

/-- An operator is its symbol at the head of the body. -/
theorem readOperator_eq_ok {body rest : List Char} {op : Operator}
    (h : readOperator body = .ok (op, rest)) : body = op.symbol ++ rest := by
  unfold readOperator at h
  split at h
  · cases h
    rfl
  · split at h
    case h_10 =>
      split at h
      · cases h
      · cases h
    case h_11 => cases h
    all_goals
      cases h
      rfl

theorem splitCloser_eq {s text : List Char} {closer : Option Char}
    (h : splitCloser s = (text, closer)) : s = text ++ closer.toList := by
  unfold splitCloser at h
  split at h
  · split at h
    · cases h
      exact (List.dropLast_append_getLast? _ (Option.mem_def.2 ‹_›)).symm
    · cases h
      exact (List.append_nil _).symm
  · cases h
    exact (List.append_nil _).symm

/-! ## Names -/

theorem isNameChar_of_isWordChar {c : Char} (h : isWordChar c = true) : isNameChar c = true := by
  rw [isNameChar, h, Bool.true_or]

theorem isNameChar_of_isHexDigit {c : Char} (h : Percent.isHexDigit c = true) :
    isNameChar c = true :=
  isNameChar_of_isWordChar (by rw [isWordChar, Percent.isAlphanum_of_isHexDigit h, Bool.true_or])

/-- A name that can be read is written with name characters only. -/
theorem isNameChar_of_readName {name key s : List Char} {r : List Char × List Char}
    (h : readName name key s = some r) : ∀ c ∈ s, isNameChar c = true := by
  fun_induction readName name key s with
  | case1 => exact fun c hc => absurd hc List.not_mem_nil
  | case2 name key a b cs hab ih =>
    rw [Bool.and_eq_true] at hab
    simp only [List.mem_cons, forall_eq_or_imp]
    exact ⟨by decide, isNameChar_of_isHexDigit hab.1, isNameChar_of_isHexDigit hab.2, ih h⟩
  | case3 => cases h
  | case4 name key cs _ ih =>
    simp only [List.mem_cons, forall_eq_or_imp]
    exact ⟨by decide, ih h⟩
  | case5 name key c cs _ hc hw ih =>
    simp only [List.mem_cons, forall_eq_or_imp]
    refine ⟨?_, ih h⟩
    rw [Bool.or_eq_true, decide_eq_true_eq] at hw
    rcases hw with hw | rfl
    · exact isNameChar_of_isWordChar hw
    · decide
  | case6 => cases h

/-- What the text read so far says about the name and key gathered from it: a
slash leaves the key empty, and a second one right behind it the name too. -/
structure Gathered (written name key : List Char) : Prop where
  of_key_nil : key = [] → written = [] ∨ written.getLast? = some '/'
  of_name_nil : name = [] → key = [] → written = [] ∨ written = ['/'] ∨ ['/', '/'] <:+ written

theorem Gathered.start : Gathered [] [] [] := ⟨fun _ => Or.inl rfl, fun _ _ => Or.inl rfl⟩

theorem Gathered.slash {written name key : List Char} (h : Gathered written name key) :
    Gathered (written ++ ['/']) key [] where
  of_key_nil _ := Or.inr List.getLast?_concat
  of_name_nil hkey _ := by
    rcases h.of_key_nil hkey with rfl | hlast
    · exact Or.inr (Or.inl rfl)
    · obtain ⟨front, rfl⟩ := List.getLast?_eq_some_iff.1 hlast
      rw [List.append_assoc]
      exact Or.inr (Or.inr (List.suffix_append _ _))

theorem Gathered.chars {written name key : List Char} (_ : Gathered written name key)
    {cs : List Char} (hcs : cs ≠ []) : Gathered (written ++ cs) name (key ++ cs) where
  of_key_nil hkey := absurd (List.append_eq_nil_iff.1 hkey).2 hcs
  of_name_nil _ hkey := absurd (List.append_eq_nil_iff.1 hkey).2 hcs

/-- The invariant of a run: what holds of its start holds of its end. -/
theorem gathered_of_readName {written name key s name' key' : List Char}
    (hstart : Gathered written name key) (h : readName name key s = some (name', key')) :
    Gathered (written ++ s) name' key' := by
  fun_induction readName name key s generalizing written with
  | case1 name key =>
    cases h
    rw [List.append_nil]
    exact hstart
  | case2 name key a b cs _ ih =>
    have hrest := ih (hstart.chars (List.cons_ne_nil '%' [a, b])) h
    rw [List.append_assoc] at hrest
    exact hrest
  | case3 => cases h
  | case4 name key cs _ ih =>
    have hrest := ih hstart.slash h
    rw [List.append_assoc] at hrest
    exact hrest
  | case5 name key c cs _ _ _ ih =>
    have hrest := ih (hstart.chars (List.cons_ne_nil c [])) h
    rw [List.append_assoc] at hrest
    exact hrest
  | case6 => cases h

/-- Only a slash moves what was gathered into the name. -/
theorem name_eq_of_readName {name key s name' key' : List Char} (hs : '/' ∉ s)
    (h : readName name key s = some (name', key')) : name' = name := by
  fun_induction readName name key s with
  | case1 =>
    cases h
    rfl
  | case2 name key a b cs _ ih =>
    simp only [List.mem_cons, not_or] at hs
    exact ih hs.2.2.2 h
  | case3 => cases h
  | case4 => exact absurd List.mem_cons_self hs
  | case5 name key c cs _ _ _ ih => exact ih (fun hmem => hs (List.mem_cons_of_mem c hmem)) h
  | case6 => cases h

/-! ## Modifiers and fallbacks -/

theorem readLength?_eq_some {cs : List Char} {n : Nat} (h : readLength? cs = some n) :
    0 < n ∧ ∀ c ∈ cs, c.isDigit = true := by
  unfold readLength? at h
  split at h
  · next hcs =>
    cases h
    simp only [Bool.and_eq_true, Decimal.isDigits, bne_iff_ne] at hcs
    exact ⟨Nat.pos_of_ne_zero hcs.2, List.all_eq_true.1 hcs.1.1.2⟩
  · cases h

/-- A modifier follows the name, starts with a sign that no name holds, and is
made of signs and digits.  A length is never zero. -/
theorem readModifier_eq_ok {cs left : List Char} {m : Modifier}
    (h : readModifier cs = .ok (left, m)) :
    (∀ n, m = .first n → 0 < n) ∧
      ∃ mark, cs = left ++ mark ∧ (∀ c ∈ mark.head?, isNameChar c = false) ∧
        ∀ c ∈ mark, c.isDigit = true ∨ c ∈ [':', '*', '[', ']'] := by
  unfold readModifier at h
  split at h
  · next before behind hcut =>
    obtain ⟨rfl, _⟩ := Text.cut?_eq_some_iff.1 hcut
    cases hlength : readLength? behind with
    | none =>
      rw [hlength] at h
      cases h
    | some n =>
      rw [hlength] at h
      cases h
      obtain ⟨hpos, hdigits⟩ := readLength?_eq_some hlength
      refine ⟨by rintro n ⟨⟩; exact hpos, ':' :: behind, rfl, by rintro c ⟨⟩; decide, ?_⟩
      simp only [List.mem_cons, forall_eq_or_imp]
      exact ⟨Or.inr (Or.inl trivial), fun c hc => Or.inl (hdigits c hc)⟩
  · split at h
    · next hstar =>
      cases h
      exact ⟨(by rintro n ⟨⟩), ['*'], Text.dropEnd?_eq_some hstar, by rintro c ⟨⟩; decide,
        List.forall_mem_singleton.2 (by decide)⟩
    · split at h
      · next hbrackets =>
        cases h
        exact ⟨(by rintro n ⟨⟩), ['[', ']'], Text.dropEnd?_eq_some hbrackets,
          by rintro c ⟨⟩; decide,
          List.forall_mem_cons.2 ⟨by decide, List.forall_mem_singleton.2 (by decide)⟩⟩
      · cases h
        exact ⟨(by rintro n ⟨⟩), [], (List.append_nil _).symm, (by rintro c ⟨⟩),
          List.forall_mem_nil _⟩

/-- The cut at the first `=` leaves what comes before a fallback, if there is one. -/
theorem beforeFallback_eq (cs : List Char) :
    beforeFallback cs = ((Text.cut? '=' cs).map Prod.fst).getD cs := by
  cases hcut : Text.cut? '=' cs with
  | none =>
    have hmem : '=' ∉ cs := Text.cut?_eq_none_iff.1 hcut
    exact List.takeWhile_eq_self_iff.2 fun c hc => bne_iff_ne.2 fun heq => hmem (heq ▸ hc)
  | some p =>
    obtain ⟨rfl, hleft⟩ := Text.cut?_eq_some_iff.1 hcut
    have hall : ∀ c ∈ p.1, (c != '=') = true := fun c hc =>
      bne_iff_ne.2 fun heq => hleft (heq ▸ hc)
    rw [beforeFallback, List.takeWhile_append_of_pos hall,
      List.takeWhile_cons_of_neg (by decide), List.append_nil]
    rfl

/-! ## Variables -/

/-- The steps that read a specification, in the order they are taken. -/
theorem readVariable_eq_ok {cs : List Char} {v : Variable} (h : readVariable cs = .ok v) :
    (∃ c rest, cs = c :: rest ∧ isWordChar c = true) ∧
      ∃ left name key, readModifier (beforeFallback cs) = .ok (left, v.modifier) ∧
        readName [] [] left = some (name, key) ∧
        v.name = String.ofList (if name.isEmpty then key else name) ∧
        v.key = String.ofList
          (if key.isEmpty then (if name.isEmpty then key else name) else key) := by
  cases cs with
  | nil => cases h
  | cons c rest =>
    rw [readVariable] at h
    split at h
    · cases h
    · next hc =>
      refine ⟨⟨c, rest, rfl, by simpa using hc⟩, ?_⟩
      rw [beforeFallback_eq]
      -- with or without a fallback, what comes before it is read the same way
      cases hcut : Text.cut? '=' (c :: rest)
      all_goals
        rw [hcut] at h
        obtain ⟨⟨left, m⟩, hmodifier, hread⟩ := Outcome.bind_eq_ok.1 h
        refine ⟨left, ?_⟩
        dsimp only at hread
        split at hread
        · cases hread
        · next name key hname =>
          cases hread
          exact ⟨name, key, hmodifier, hname, rfl, rfl⟩

/-- A specification that can be read, and what its text says about the variable. -/
structure Variable.Spelled (v : Variable) (spec : List Char) : Prop where
  starts : ∃ c rest, spec = c :: rest ∧ isWordChar c = true
  /-- A brace inside an expression belongs to a fallback. -/
  brace : '\x7b' ∉ beforeFallback spec
  name : v.name = "" → ['/', '/'] <:+ writtenName spec

theorem beforeFallback_cons {c : Char} (hc : isWordChar c = true) (rest : List Char) :
    beforeFallback (c :: rest) = c :: beforeFallback rest := by
  have hne : c ≠ '=' := by
    rintro rfl
    exact absurd hc (by decide)
  exact List.takeWhile_cons_of_pos (bne_iff_ne.2 hne)

theorem Variable.spelled_of_readVariable {spec : List Char} {v : Variable}
    (h : readVariable spec = .ok v) : v.Spelled spec := by
  obtain ⟨⟨c, rest, rfl, hc⟩, left, name, key, hmodifier, hread, hname, _⟩ := readVariable_eq_ok h
  obtain ⟨_, mark, hmark, hhead, hchars⟩ := readModifier_eq_ok hmodifier
  have hleft : ∀ d ∈ left, isNameChar d = true := isNameChar_of_readName hread
  refine ⟨⟨c, rest, rfl, hc⟩, fun hmem => ?_, fun hempty => ?_⟩
  · rw [hmark] at hmem
    rcases List.mem_append.1 hmem with hmem | hmem
    · exact absurd (hleft _ hmem) (by decide)
    · exact absurd (hchars _ hmem) (by decide)
  · have hwritten : writtenName (c :: rest) = left := by
      rw [writtenName, hmark, List.takeWhile_append_of_pos hleft]
      cases mark with
      | nil => exact List.append_nil left
      | cons d ds =>
        rw [List.takeWhile_cons_of_neg (by rw [hhead d rfl]; exact Bool.false_ne_true),
          List.append_nil]
    rw [beforeFallback_cons hc] at hmark
    have hnil : name = [] ∧ key = [] := by
      rw [hname, String.ofList_eq_empty_iff] at hempty
      cases name with
      | nil => exact ⟨rfl, hempty⟩
      | cons d ds => cases hempty
    rcases (gathered_of_readName Gathered.start hread).of_name_nil hnil.1 hnil.2 with
      hnone | hslash | hslashes
    · -- the first character is one of the name, so it is not left to the modifier
      rw [List.nil_append] at hnone
      rw [hnone, List.nil_append] at hmark
      have hfirst := hhead c (by rw [← hmark]; rfl)
      rw [isNameChar_of_isWordChar hc] at hfirst
      cases hfirst
    · rw [List.nil_append] at hslash
      rw [hslash] at hmark
      rw [(List.cons.inj hmark).1] at hc
      exact absurd hc (by decide)
    · rw [hwritten]
      exact hslashes

/-! ## Expressions -/

/-- An expression whose body is its operator, specifications between commas, and
at most one closer. -/
structure Expression.Spelled (e : Expression) (body text : List Char) : Prop where
  body_eq : body = e.operator.symbol ++ text ++ e.closer.toList
  closer : ∀ c ∈ e.closer, c ∈ [',', '.', '/', ';', '&']
  vars : List.Forall₂ (fun spec v => v.Spelled spec) (text.splitOn ',') e.vars

theorem Expression.spelled_of_readExpression {body : List Char} {e : Expression}
    (h : readExpression body = .ok e) : ∃ text, e.Spelled body text := by
  obtain ⟨rest, text, hop, hcloser, hvars⟩ := readExpression_eq_ok h
  refine ⟨text, ?_, fun c hc => ?_, ?_⟩
  · rw [readOperator_eq_ok hop, splitCloser_eq hcloser, List.append_assoc]
  · rw [Option.mem_def.1 hc] at hcloser
    exact List.contains_iff_mem.1 (splitCloser_contains hcloser)
  · exact (Outcome.mapM_eq_ok.1 hvars).imp fun _ _ => Variable.spelled_of_readVariable

/-! ## Templates -/

def Segment.body? : Segment → Option (List Char)
  | .plain _ => none
  | .braced body => some body

/-- The texts between braces, in the order in which they stand. -/
def bodies (source : String) : List (List Char) :=
  (Segment.split source.toList).filterMap Segment.body?

/-- The expressions of an accepted template are read from its bodies, one by one. -/
theorem forall₂_bodies {source : String} {t : Template} (h : parse source = .ok t) :
    List.Forall₂ (fun body e => readExpression body = .ok e) (bodies source) t.expressions := by
  have hparts := (parse_eq_ok.1 h).2
  unfold bodies expressions
  generalize Segment.split source.toList = segments at hparts
  generalize t.parts = parts at hparts
  induction hparts with
  | nil => exact .nil
  | @cons s p segments parts hp _ ih =>
    cases p with
    | literal l =>
      cases s with
      | plain u => exact ih
      | braced body =>
        obtain ⟨e, _, he⟩ := Outcome.map_eq_ok.1 hp
        cases he
    | expression e =>
      obtain ⟨body, rfl, hbody⟩ := readSegment_eq_expression hp
      exact .cons hbody ih

/-- The specifications of a body: what stands between its commas, without
operator and closer. -/
def bodySpecs (body : List Char) : List (List Char) :=
  match readOperator body with
  | .ok (_, rest) => (splitCloser rest).1.splitOn ','
  | .error _ => []

/-- The specifications of a template, in the order in which they stand. -/
def specs (source : String) : List (List Char) := (bodies source).flatMap bodySpecs

/-- The variables of an accepted template are read from its specifications, one by one. -/
theorem forall₂_specs {source : String} {t : Template} (h : parse source = .ok t) :
    List.Forall₂ (fun spec v => readVariable spec = .ok v) (specs source) t.vars := by
  refine List.rel_flatMap (forall₂_bodies h) fun body e hbody => ?_
  obtain ⟨rest, text, hop, hcloser, hvars⟩ := readExpression_eq_ok hbody
  rw [bodySpecs, hop]
  show List.Forall₂ _ ((splitCloser rest).1.splitOn ',') e.vars
  rw [hcloser]
  exact Outcome.mapM_eq_ok.1 hvars

/-- What is accepted is spelled by the rules: an operator of the ten, then
specifications that start with a name character. -/
theorem spelled_of_parse {source : String} {t : Template} (h : parse source = .ok t) :
    List.Forall₂ (fun body e => ∃ text, e.Spelled body text) (bodies source) t.expressions :=
  (forall₂_bodies h).imp fun _ _ => Expression.spelled_of_readExpression

/-- Every modifier, a fallback with a brace, and a closer. -/
theorem spelled_of_parse_search :
    let source := "/x\x7b,a.b:3=\x7b,c[]\x7d\x7b?d/e*,f;\x7d"
    ∃ t, parse source = .ok t ∧
      List.Forall₂ (fun body e => ∃ text, e.Spelled body text) (bodies source) t.expressions :=
  ⟨_, rfl, spelled_of_parse rfl⟩

/-- An operator outside the standard, a brace in a fallback, a comma that closes
an expression and a name that two slashes have cleared are no faults. -/
theorem extensions_are_accepted :
    (∃ t, parse "{,a}" = .ok t ∧ ∃ e ∈ t.expressions, e.operator ∉
      [.simple, .reserved, .fragment, .label, .path, .parameter, .query, .continuation]) ∧
    (∃ t, parse "\x7ba=\x7b\x7d" = .ok t ∧ ∃ body ∈ bodies "\x7ba=\x7b\x7d", '\x7b' ∈ body) ∧
    (∃ t, parse "{a,}" = .ok t ∧ ∃ body ∈ bodies "{a,}", ∃ e ∈ t.expressions,
      ∃ rest, body = e.operator.symbol ++ rest ∧ [] ∈ rest.splitOn ',') ∧
    ∃ t, parse "{a//*}" = .ok t ∧ ∃ v ∈ t.vars, v.name = "" := by
  refine ⟨⟨_, rfl, _, List.mem_cons_self, by decide⟩, ⟨_, rfl, _, List.mem_cons_self, by decide⟩,
    ⟨_, rfl, _, List.mem_cons_self, _, List.mem_cons_self, ['a', ','], rfl, by decide⟩,
    ⟨_, rfl, _, List.mem_cons_self, rfl⟩⟩

end Template
end RouteTemplate
