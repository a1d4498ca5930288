/-
Two templates written one behind the other.

An accepted template leaves no brace open, so the text behind it is cut into
segments as if it stood alone.  Only a literal at the end of the first and one
at the start of the second become one, and that is no matter to expressions.  To
literals it is one where a triplet lies across the seam, which neither half holds
by itself.

The first template is expanded before the second.  So what stops it stops the
whole, also where the second alone would be refused for another reason.
-/
import RouteTemplate.Proofs.Template.Names
import RouteTemplate.Proofs.Template.Refusal

namespace RouteTemplate
namespace Percent

/-! ## Encoding across a seam -/

/-- A triplet of `s ++ t` begins in `s` and ends in `t`. -/
def TripletAcross (s t : List Char) : Prop :=
  ∃ n, n < s.length ∧ s.length < n + 3 ∧ startsWithTriplet ((s ++ t).drop n) = true

instance (s t : List Char) : Decidable (TripletAcross s t) :=
  inferInstanceAs (Decidable (∃ n, n < s.length ∧ _))

theorem startsWithTriplet_append {s : List Char} (h : startsWithTriplet s = true) (t : List Char) :
    startsWithTriplet (s ++ t) = true := by
  obtain ⟨a, b, rest, rfl, ha, hb⟩ := startsWithTriplet_iff.1 h
  exact startsWithTriplet_iff.2 ⟨a, b, rest ++ t, rfl, ha, hb⟩

theorem TripletAcross.extend {s t : List Char} (h : TripletAcross s t) (x y : List Char) :
    TripletAcross (x ++ s) (t ++ y) := by
  obtain ⟨n, hlt, hgt, htriplet⟩ := h
  refine ⟨x.length + n, ?_, ?_, ?_⟩
  · rw [List.length_append]
    omega
  · rw [List.length_append]
    omega
  · have hn : n ≤ (s ++ t).length := by
      rw [List.length_append]
      omega
    rw [List.append_assoc, List.drop_length_add_append, ← List.append_assoc,
      List.drop_append_of_le_length hn]
    exact startsWithTriplet_append htriplet y

theorem TripletAcross.prepend {s t : List Char} (h : TripletAcross s t) (x : List Char) :
    TripletAcross (x ++ s) t := by
  have hmore := h.extend x []
  rw [List.append_nil] at hmore
  exact hmore

/-- A triplet at the start of `s ++ t` is one of `s`, or lies across the seam. -/
theorem startsWithTriplet_append_eq_false {c : Char} {s t : List Char}
    (hc : startsWithTriplet (c :: s) = false) (h : ¬ TripletAcross (c :: s) t) :
    startsWithTriplet (c :: (s ++ t)) = false := by
  rw [← Bool.not_eq_true]
  intro htriplet
  refine h ⟨0, Nat.zero_lt_succ _, ?_, htriplet⟩
  match s with
  | [] => simp
  | [_] => simp
  | a :: b :: rest =>
    obtain ⟨a', b', rest', heq, ha, hb⟩ := startsWithTriplet_iff.1 htriplet
    cases heq
    have hown := startsWithTriplet_iff.2 ⟨a, b, rest, rfl, ha, hb⟩
    rw [hc] at hown
    cases hown

/-- Texts are encoded side by side unless the seam cuts a triplet. -/
theorem encodeKeeping_append (keep : Char → Bool) {s t : List Char} (h : ¬ TripletAcross s t) :
    encodeKeeping keep (s ++ t) = encodeKeeping keep s ++ encodeKeeping keep t := by
  induction s using tripletInduction with
  | nil => rfl
  | triplet a b rest ha hb ih =>
    have hrest : ¬ TripletAcross rest t := fun hacross => h (hacross.prepend ['%', a, b])
    show encodeKeeping keep ('%' :: a :: b :: (rest ++ t)) = _
    rw [encodeKeeping_triplet _ ha hb, encodeKeeping_triplet _ ha hb, ih hrest]
    rfl
  | char c cs hc ih =>
    have hrest : ¬ TripletAcross cs t := fun hacross => h (hacross.prepend [c])
    rw [List.cons_append, encodeKeeping_cons _ (startsWithTriplet_append_eq_false hc h),
      encodeKeeping_cons _ hc, ih hrest, List.append_assoc]

end Percent

namespace Template

open Percent

/-! ## Segments -/

/-- Two sequences side by side, where texts that meet at the seam become one. -/
inductive Abut {α : Type} (lit : List Char → α) : List α → List α → List α → Prop where
  | apart (xs ys : List α) : Abut lit xs ys (xs ++ ys)
  | merged (xs ys : List α) (u w : List Char) (h : ¬ TripletAcross u w) :
    Abut lit (xs ++ [lit u]) (lit w :: ys) (xs ++ lit (u ++ w) :: ys)

theorem Abut.cons {α : Type} {lit : List Char → α} {xs ys zs : List α} (h : Abut lit xs ys zs)
    (x : α) : Abut lit (x :: xs) ys (x :: zs) := by
  cases h with
  | apart => exact .apart (x :: xs) ys
  | merged xs ys u w h => exact .merged (x :: xs) ys u w h

namespace Segment

/-- No literal is empty or follows another, and no body closes early. -/
def Apart : List Segment → Prop
  | [] => True
  | .plain u :: rest => u ≠ [] ∧ (∀ w more, rest ≠ .plain w :: more) ∧ Apart rest
  | .braced body :: rest => '}' ∉ body ∧ Apart rest

theorem apart_consPlain {c : Char} {segments : List Segment} (h : Apart segments) :
    Apart (consPlain c segments) := by
  cases segments with
  | nil => exact ⟨List.cons_ne_nil _ _, (fun _ _ => by rintro ⟨⟩), trivial⟩
  | cons segment rest =>
    cases segment with
    | plain u => exact ⟨List.cons_ne_nil _ _, h.2⟩
    | braced body => exact ⟨List.cons_ne_nil _ _, (fun _ _ => by rintro ⟨⟩), h⟩

mutual

theorem apart_split : ∀ s : List Char, Apart (split s)
  | [] => trivial
  | c :: cs => by
    by_cases hc : c = '{'
    · subst hc
      cases h : splitBody cs with
      | none =>
        simp only [split, h, if_true]
        exact ⟨List.cons_ne_nil _ _, (fun _ _ => by rintro ⟨⟩), trivial⟩
      | some p =>
        simp only [split, h, if_true]
        exact apart_splitBody cs h
    · rw [split, if_neg hc]
      exact apart_consPlain (apart_split cs)
termination_by structural s => s

theorem apart_splitBody : ∀ (s : List Char) {p : List Char × List Segment},
    splitBody s = some p → Apart (.braced p.1 :: p.2)
  | [], _, h => by cases h
  | c :: cs, p, h => by
    by_cases hc : c = '}'
    · rw [splitBody, if_pos hc] at h
      cases h
      exact ⟨List.not_mem_nil, apart_split cs⟩
    · rw [splitBody, if_neg hc, Option.map_eq_some_iff] at h
      obtain ⟨q, hq, rfl⟩ := h
      obtain ⟨hbody, hrest⟩ := apart_splitBody cs hq
      exact ⟨List.not_mem_cons_of_ne_of_not_mem (Ne.symm hc) hbody, hrest⟩
termination_by structural s => s

end

theorem foldr_consPlain_plain (s u : List Char) (rest : List Segment) :
    s.foldr consPlain (.plain u :: rest) = .plain (s ++ u) :: rest := by
  induction s with
  | nil => rfl
  | cons c cs ih =>
    rw [List.foldr_cons, ih]
    rfl

/-- Behind segments whose literals hold no brace, a text is cut as if it stood alone. -/
theorem abut_split {segments : List Segment} (hapart : Apart segments)
    (hopen : ∀ u, .plain u ∈ segments → '{' ∉ u) {t : List Char}
    (hseam : ¬ TripletAcross (join segments) t) :
    Abut .plain segments (split t) (split (join segments ++ t)) := by
  induction segments with
  | nil => exact .apart [] (split t)
  | cons segment rest ih =>
    have hopen' : ∀ u, .plain u ∈ rest → '{' ∉ u := fun u hu =>
      hopen u (List.mem_cons_of_mem segment hu)
    have hjoin : join (segment :: rest) = segment.source ++ join rest := List.flatMap_cons
    have hseam' : ¬ TripletAcross (join rest) t := fun hacross => hseam <| by
      rw [hjoin]
      exact hacross.prepend segment.source
    rw [hjoin, List.append_assoc]
    cases segment with
    | braced body =>
      rw [split_braced_append hapart.1]
      exact (ih hapart.2 hopen' hseam').cons _
    | plain u =>
      obtain ⟨hu, hnext, hrest⟩ := hapart
      show Abut _ _ _ (split (u ++ (join rest ++ t)))
      rw [split_append (hopen u List.mem_cons_self)]
      cases rest with
      | nil =>
        have ht : t = join (split t) := (join_split t).symm
        show Abut _ _ _ (u.foldr consPlain (split t))
        match split t, ht with
        | [], _ =>
          rw [foldr_consPlain hu (by rintro w more ⟨⟩)]
          exact .apart _ _
        | .braced body :: more, _ =>
          rw [foldr_consPlain hu (by rintro w more ⟨⟩)]
          exact .apart _ _
        | .plain w :: more, ht =>
          rw [foldr_consPlain_plain]
          refine .merged [] more u w fun hacross => hseam ?_
          have hmore := hacross.extend [] (join more)
          rw [ht, hjoin]
          show TripletAcross (u ++ []) (w ++ join more)
          rw [List.append_nil]
          exact hmore
      | cons next more =>
        cases next with
        | plain w => exact absurd rfl (hnext w more)
        | braced body =>
          have hsplit : split (join (.braced body :: more) ++ t) =
              .braced body :: split (join more ++ t) := by
            show split (source (.braced body) ++ join more ++ t) = _
            rw [List.append_assoc, split_braced_append hrest.1]
          rw [foldr_consPlain hu (by rw [hsplit]; rintro w more ⟨⟩)]
          exact (ih hrest hopen' hseam').cons _

end Segment

/-! ## Parts -/

theorem readSegment_plain {u : List Char} {p : Part} :
    readSegment (.plain u) = .ok p ↔ p = .literal u ∧ '{' ∉ u ∧ '}' ∉ u := by
  rw [readSegment, List.contains_eq_mem, List.contains_eq_mem]
  by_cases ho : '{' ∈ u
  · simp [ho]
  · by_cases hc : '}' ∈ u
    · simp [hc]
    · simp [ho, hc, eq_comm]

/-- Segments side by side are read part by part, and texts that meet make one literal. -/
theorem Abut.read {xs ys zs : List Segment} (h : Abut .plain xs ys zs) {ps qs : List Part}
    (hx : xs.mapM readSegment = .ok ps) (hy : ys.mapM readSegment = .ok qs) :
    ∃ rs, zs.mapM readSegment = .ok rs ∧ Abut .literal ps qs rs := by
  cases h with
  | apart =>
    rw [List.mapM_append, hx, hy]
    exact ⟨_, rfl, .apart ps qs⟩
  | merged xs ys u w h =>
    rw [List.mapM_append, Outcome.bind_eq_ok] at hx
    obtain ⟨front, hfront, hx⟩ := hx
    obtain ⟨last, hlast, hx⟩ := Outcome.bind_eq_ok.1 hx
    cases hx
    rw [Outcome.mapM_eq_ok, List.forall₂_cons_left_iff] at hlast hy
    obtain ⟨p, _, hp, hnil, rfl⟩ := hlast
    obtain ⟨q, behind, hq, hbehind, rfl⟩ := hy
    obtain rfl := List.forall₂_nil_left_iff.1 hnil
    obtain ⟨rfl, hu⟩ := readSegment_plain.1 hp
    obtain ⟨rfl, hw⟩ := readSegment_plain.1 hq
    have huw : readSegment (.plain (u ++ w)) = .ok (.literal (u ++ w)) := by
      refine readSegment_plain.2 ⟨rfl, ?_, ?_⟩
      · exact List.not_mem_append hu.1 hw.1
      · exact List.not_mem_append hu.2 hw.2
    refine ⟨front ++ .literal (u ++ w) :: behind, ?_, .merged front behind u w h⟩
    rw [List.mapM_append, hfront, List.mapM_cons, huw, Outcome.mapM_eq_ok.2 hbehind]
    rfl

theorem Abut.filterMap_expression? {ps qs rs : List Part} (h : Abut .literal ps qs rs) :
    rs.filterMap Part.expression? =
      ps.filterMap Part.expression? ++ qs.filterMap Part.expression? := by
  cases h with
  | apart => exact List.filterMap_append
  | merged ps qs u w h =>
    rw [List.filterMap_append, List.filterMap_append, List.append_assoc]
    rfl

/-- The text that a sequence of parts comes to. -/
def expandParts (params : Params) (parts : List Part) : Except ExpansionFault (List Char) :=
  (parts.mapM (Part.expand params)).map List.flatten

theorem expandParts_cons (params : Params) (p : Part) (ps : List Part) :
    expandParts params (p :: ps) = do
      let s ← p.expand params
      let rest ← expandParts params ps
      return s ++ rest := by
  rw [expandParts, List.mapM_cons]
  cases p.expand params with
  | error e => rfl
  | ok s =>
    rw [expandParts]
    cases ps.mapM (Part.expand params) with
    | error e => rfl
    | ok ss => rfl

theorem expandParts_literal (params : Params) (u : List Char) (ps : List Part) :
    expandParts params (.literal u :: ps) = do
      let rest ← expandParts params ps
      return Charset.reserved.encode u ++ rest := by
  rw [expandParts_cons]
  rfl

theorem expandParts_append (params : Params) (ps qs : List Part) :
    expandParts params (ps ++ qs) = do
      let s ← expandParts params ps
      let rest ← expandParts params qs
      return s ++ rest := by
  induction ps with
  | nil =>
    show expandParts params qs = (expandParts params qs >>= fun rest => .ok ([] ++ rest))
    cases expandParts params qs with
    | error e => rfl
    | ok s => rfl
  | cons p ps ih =>
    rw [List.cons_append, expandParts_cons, expandParts_cons, ih]
    simp only [bind_assoc, pure_bind, List.append_assoc]

theorem Abut.expandParts {ps qs rs : List Part} (h : Abut .literal ps qs rs) (params : Params) :
    expandParts params rs = do
      let s ← Template.expandParts params ps
      let rest ← Template.expandParts params qs
      return s ++ rest := by
  cases h with
  | apart => exact expandParts_append params ps qs
  | merged ps qs u w h =>
    have hencode : Charset.reserved.encode (u ++ w) =
        Charset.reserved.encode u ++ Charset.reserved.encode w := encodeKeeping_append _ h
    have hnil : Template.expandParts params [] = pure [] := rfl
    rw [expandParts_append, expandParts_append, expandParts_literal, expandParts_literal,
      expandParts_literal, hnil, hencode]
    simp only [bind_assoc, pure_bind, List.append_nil, List.append_assoc]

/-! ## Templates -/

theorem not_mem_of_plain_mem_split {source : String} {t : Template} (h : parse source = .ok t)
    {u : List Char} (hu : .plain u ∈ Segment.split source.toList) : '{' ∉ u := by
  obtain ⟨p, _, hp⟩ := Outcome.exists_mem_of_forall₂ (parse_eq_ok.1 h).2.flip hu
  exact (readSegment_plain.1 hp).2.1

theorem expand_eq_expandParts (t : Template) (params : Params) :
    t.expand params = (expandParts params t.parts).map String.ofList := by
  rw [expand, expandParts]
  cases t.parts.mapM (Part.expand params) with
  | error e => rfl
  | ok ss => rfl

/-- The parts of two templates are those of the text they make together. -/
theorem exists_parse_append {s t : String} {S T : Template} (hs : parse s = .ok S)
    (ht : parse t = .ok T) (hseam : ¬ TripletAcross s.toList t.toList) :
    ∃ U, parse (s ++ t) = .ok U ∧ Abut .literal S.parts T.parts U.parts := by
  have hjoin : Segment.join (Segment.split s.toList) = s.toList := Segment.join_split _
  have hsegments := Segment.abut_split (Segment.apart_split s.toList)
    (fun u hu => not_mem_of_plain_mem_split hs hu) (t := t.toList) (by rw [hjoin]; exact hseam)
  obtain ⟨parts, hparts, habut⟩ := hsegments.read (Outcome.mapM_eq_ok.2 (parse_eq_ok.1 hs).2)
    (Outcome.mapM_eq_ok.2 (parse_eq_ok.1 ht).2)
  refine ⟨⟨s ++ t, parts⟩, parse_eq_ok.2 ⟨rfl, ?_⟩, habut⟩
  rw [hjoin, ← String.toList_append] at hparts
  exact Outcome.mapM_eq_ok.1 hparts

/-- What stands before the other is expanded before it. -/
theorem Abut.expand {S T U : Template} (h : Abut .literal S.parts T.parts U.parts) (p : Params) :
    U.expand p = do
      let u ← S.expand p
      let w ← T.expand p
      return u ++ w := by
  rw [expand_eq_expandParts, expand_eq_expandParts, expand_eq_expandParts, h.expandParts]
  cases Template.expandParts p S.parts with
  | error e => rfl
  | ok a =>
    cases Template.expandParts p T.parts with
    | error e => rfl
    | ok b => exact congrArg Except.ok String.ofList_append

/-- What stops the first template stops what they make together. -/
theorem url_append_of_error {s t : String} {S T : Template} (hs : parse s = .ok S)
    (ht : parse t = .ok T) (hseam : ¬ TripletAcross s.toList t.toList) {p : Params}
    (hp : p.Admissible) (fault : ExpansionFault) (h : url s p = .error (.ofFault s fault)) :
    url (s ++ t) p = .error (.ofFault (s ++ t) fault) := by
  obtain ⟨U, hU, habut⟩ := exists_parse_append hs ht hseam
  rw [url_eq_error_iff hs hp] at h
  rw [url_eq_error_iff hU hp, habut.expand, h]
  rfl

/-- The text that two templates make together is a template of its own, with the
expressions and names of both.  It comes to their URLs one behind the other, or to the
first failure of the two.  Unless the first fails for an integer of too many digits, the
whole is refused just where one of the two is. -/
theorem url_append {s t : String} {S T : Template} (hs : parse s = .ok S) (ht : parse t = .ok T)
    (hseam : ¬ TripletAcross s.toList t.toList) :
    ∃ U, parse (s ++ t) = .ok U ∧ U.expressions = S.expressions ++ T.expressions ∧
      U.variableNames =
        S.variableNames ++ T.variableNames.filter (fun n => !S.variableNames.contains n) ∧
      ∀ p : Params, p.Admissible →
        (∀ u w, url s p = .ok u → url t p = .ok w → url (s ++ t) p = .ok (u ++ w)) ∧
        (∀ fault, url s p = .error (.ofFault s fault) →
          url (s ++ t) p = .error (.ofFault (s ++ t) fault)) ∧
        (∀ u fault, url s p = .ok u → url t p = .error (.ofFault t fault) →
          url (s ++ t) p = .error (.ofFault (s ++ t) fault)) ∧
        (p.WritableIn S → url s p ≠ .error .tooManyDigits) ∧
        (url s p ≠ .error .tooManyDigits →
          ((∃ v, url (s ++ t) p = .error (.lengthOfComposite (s ++ t) v)) ↔
            (∃ v, url s p = .error (.lengthOfComposite s v)) ∨
              ∃ v, url t p = .error (.lengthOfComposite t v))) := by
  obtain ⟨U, hU, habut⟩ := exists_parse_append hs ht hseam
  have hexpressions : U.expressions = S.expressions ++ T.expressions :=
    habut.filterMap_expression?
  refine ⟨U, hU, hexpressions, ?_, fun p hp => ?_⟩
  · rw [variableNames, vars, hexpressions, List.flatMap_append, List.map_append]
    exact eraseDups_append_eq _ _
  have hsecond : ∀ u fault, url s p = .ok u → url t p = .error (.ofFault t fault) →
      url (s ++ t) p = .error (.ofFault (s ++ t) fault) := by
    intro u fault hu h
    rw [url_eq_ok_iff hs hp] at hu
    rw [url_eq_error_iff ht hp] at h
    rw [url_eq_error_iff hU hp, habut.expand, hu, h]
    rfl
  refine ⟨fun u w hu hw => ?_, url_append_of_error hs ht hseam hp, hsecond,
    url_ne_tooManyDigits hs hp, fun hdigits => ?_⟩
  · rw [url_eq_ok_iff hs hp] at hu
    rw [url_eq_ok_iff ht hp] at hw
    rw [url_eq_ok_iff hU hp, habut.expand, hu, hw]
    rfl
  constructor
  · rintro ⟨v, h⟩
    have hexpand : U.expand p = .error (.lengthOfComposite v) := (url_eq_error_iff hU hp).1 h
    rw [habut.expand] at hexpand
    rcases Outcome.bind_eq_error_iff.1 hexpand with hu | ⟨u, -, hexpand⟩
    · exact Or.inl ⟨v, (url_eq_error_iff hs hp).2 hu⟩
    rcases Outcome.bind_eq_error_iff.1 hexpand with hw | ⟨w, -, hexpand⟩
    · exact Or.inr ⟨v, (url_eq_error_iff ht hp).2 hw⟩
    · cases hexpand
  · rintro (⟨v, h⟩ | ⟨v, h⟩)
    · exact ⟨v, url_append_of_error hs ht hseam hp (.lengthOfComposite v) h⟩
    cases hS : S.expand p with
    | ok u => exact ⟨v, hsecond u (.lengthOfComposite v) ((url_eq_ok_iff hs hp).2 hS) h⟩
    | error e =>
      have he := (url_eq_error_iff hs hp).2 hS
      cases e with
      | lengthOfComposite w => exact ⟨w, url_append_of_error hs ht hseam hp _ he⟩
      | tooManyDigits => exact absurd he hdigits

/-- Two literals meet, and neither of the percent signs beside the seam opens a
triplet that the seam would cut. -/
theorem url_append_percent :
    let s := "/a{?x,y:2}%4"
    let t := "%41{&x*}"
    let p : Params := [("x", .list [.int 1, .text "b"])]
    ¬ TripletAcross s.toList t.toList ∧ p.Admissible ∧
      url (s ++ t) p = .ok "/a?x=1,b%254%41&x=1&x=b" := by
  intro s t p
  have hseam : ¬ TripletAcross s.toList t.toList := by decide
  have hp : p.Admissible := by decide
  obtain ⟨S, hs⟩ : ∃ S, parse "/a{?x,y:2}%4" = .ok S := ⟨_, rfl⟩
  obtain ⟨T, ht⟩ : ∃ T, parse "%41{&x*}" = .ok T := ⟨_, rfl⟩
  obtain ⟨U, _, _, _, happend⟩ := url_append hs ht hseam
  have hfirst : url s p = .ok "/a?x=1,b%254" := Outcome.eq_ok_of_toOption (by decide +kernel)
  have hsecond : url t p = .ok "%41&x=1&x=b" := Outcome.eq_ok_of_toOption (by decide +kernel)
  exact ⟨hseam, hp, (happend p hp).1 _ _ hfirst hsecond⟩

/-- The second template alone is refused, and behind the first it is not reached. -/
theorem digits_come_before_refusal :
    let s := "/{n}"
    let t := "{l:3}"
    let p : Params := ("l", .list [.int 1]) :: tooLongParams
    ¬ TripletAcross s.toList t.toList ∧ p.Admissible ∧
      (∃ v, url t p = .error (.lengthOfComposite t v)) ∧
      url (s ++ t) p = .error .tooManyDigits := by
  intro s t p
  have hseam : ¬ TripletAcross s.toList t.toList := by decide
  have hp : p.Admissible := by decide
  obtain ⟨S, hs, hvars⟩ : ∃ S, parse "/{n}" = .ok S ∧ S.vars = [⟨"n", "n", .none, none⟩] :=
    ⟨_, rfl, rfl⟩
  obtain ⟨T, ht, hstop⟩ : ∃ T, parse "{l:3}" = .ok T ∧
      T.stop? p = some (.lengthOfComposite ⟨"l", "l", .first 3, none⟩) := ⟨_, rfl, rfl⟩
  refine ⟨hseam, hp, ⟨_, (url_eq_error_iff_stop? ht hp _).2 hstop⟩, ?_⟩
  exact url_append_of_error hs ht hseam hp .tooManyDigits (url_of_tooLong hs hvars hp rfl)

end Template
end RouteTemplate
