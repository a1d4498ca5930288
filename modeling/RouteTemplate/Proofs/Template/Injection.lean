/-
Values cannot add structure to a URL.

Two runs of one template are compared, with parameters of the same shape: the
same ones given, and lists of the same length.  Under the operators that encode
their values with the unreserved set, the runs end alike, and where they make
URLs the URLs have the same skeleton.

What carries the proof is a relation between the texts of the two runs, `SameText`.
It is kept by everything that is put around a text, because that is the same in
both runs.  It also says whether a text is empty, which under `;` decides on an
equals sign.
-/
import RouteTemplate.Proofs.Percent.Skeleton
import RouteTemplate.Proofs.Template.Refusal
import RouteTemplate.Proofs.Template.Scalar

namespace RouteTemplate

/-! ## Parameters of the same shape -/

/-- What two runs may be given under one name. -/
inductive SameShape : Option Value → Option Value → Prop where
  | absent : SameShape none none
  | null : SameShape (some .null) (some .null)
  | scalar {a b : Value} (ha : a.isScalar = true) (hb : b.isScalar = true) :
    SameShape (some a) (some b)
  | list {xs ys : List Value} (hx : ∀ x ∈ xs, x.isScalar = true)
    (hy : ∀ y ∈ ys, y.isScalar = true) (hlength : xs.length = ys.length) :
    SameShape (some (.list xs)) (some (.list ys))

/-- The texts that a value comes apart into. -/
def Value.texts : Value → List (List Char)
  | .list xs => xs.map Value.scalarText
  | v => [v.scalarText]

theorem Value.texts_of_isScalar {v : Value} (h : v.isScalar = true) :
    v.texts = [v.scalarText] := by
  cases v with
  | list xs => cases h
  | _ => rfl

/-- One by one, texts that are both empty or both not. -/
def SameEmptiness (ss ts : List (List Char)) : Prop :=
  List.Forall₂ (fun s t => s = [] ↔ t = []) ss ts

namespace Template

open Percent Outcome

structure Interchangeable (t : Template) (p q : Params) : Prop where
  shape : ∀ v ∈ t.vars, SameShape (p.lookup v.key) (q.lookup v.key)
  /-- Under `;` a text may not be exchanged for an empty one. -/
  emptiness : ∀ e ∈ t.expressions, e.operator = .parameter → ∀ v ∈ e.vars, ∀ a b,
    p.lookup v.key = some a → q.lookup v.key = some b → SameEmptiness a.texts b.texts

/-! ## Texts -/

variable {op : Operator} {v : Variable} {sep : Char} {p : Place}

structure SameText (op : Operator) (s t : List Char) : Prop where
  skeleton : SameSkeleton s t
  empty : op = .parameter → (s = [] ↔ t = [])

theorem sameText_refl {s : List Char} (hs : Encoded s) : SameText op s s :=
  ⟨.refl hs, fun _ => Iff.rfl⟩

theorem sameText_append_left {s t : List Char} (h : SameText op s t) {u : List Char}
    (hu : Encoded u) : SameText op (u ++ s) (u ++ t) where
  skeleton := (SameSkeleton.refl hu).append h.skeleton
  empty hop := by rw [List.append_eq_nil_iff, List.append_eq_nil_iff, h.empty hop]

theorem sameText_qualify {s t : List Char} (h : SameText op s t) (hp : p.Sound) :
    SameText op (Place.qualify p.lead p.mark s) (Place.qualify p.lead p.mark t) := by
  unfold Place.qualify
  split
  · exact h
  · have hmark : SameText op ([p.mark] ++ s) ([p.mark] ++ t) :=
      sameText_append_left h (encoded_singleton hp.mark)
    exact sameText_append_left hmark hp.lead

/-- Two texts at one place come to the same structure, cut or not. -/
theorem alike_encodeText (hop : op.charset = .unreserved) (hp : p.Sound) {s t : List Char}
    (h : op = .parameter → (s = [] ↔ t = [])) :
    Alike .tooManyDigits (SameText op) (encodeText op v p s) (encodeText op v p t) := by
  have hwrite : ∀ {s t : List Char}, (op = .parameter → (s = [] ↔ t = [])) →
      SameText op (op.charset.encode s) (op.charset.encode t) := by
    intro s t h
    rw [hop]
    refine ⟨.encode_unreserved s t, fun hparam => ?_⟩
    show encodeAll isUnreserved s = [] ↔ encodeAll isUnreserved t = []
    rw [encodeAll_eq_nil_iff, encodeAll_eq_nil_iff, h hparam]
  by_cases hm : ∃ n, v.modifier = .first n
  · obtain ⟨n, hn⟩ := hm
    rw [encodeText_first hn, encodeText_first hn]
    split
    · refine .ok (sameText_qualify (hwrite fun hparam => ?_) hp)
      rw [List.take_eq_nil_iff, List.take_eq_nil_iff, h hparam]
    · exact .error _
  · have hwhole : ∀ n, v.modifier ≠ .first n := fun n hn => hm ⟨n, hn⟩
    rw [encodeText_whole hwhole, encodeText_whole hwhole]
    exact .ok (sameText_qualify (hwrite h) (hp.atText op.named v.modifier))

theorem sameText_intercalate {c : Char} (hc : isUriChar c = true) {ss ts : List (List Char)}
    (h : List.Forall₂ (SameText op) ss ts) :
    SameText op (List.intercalate [c] ss) (List.intercalate [c] ts) where
  skeleton := SameSkeleton.intercalate hc (h.imp fun _ _ hst => hst.skeleton)
  empty hop := by
    match h with
    | .nil => exact Iff.rfl
    | .cons hst .nil =>
      rw [List.intercalate_singleton, List.intercalate_singleton]
      exact hst.empty hop
    | .cons _ (.cons _ _) =>
      rw [List.intercalate_cons_cons, List.intercalate_cons_cons, List.append_eq_nil_iff,
        List.append_eq_nil_iff, List.append_eq_nil_iff, List.append_eq_nil_iff]
      exact ⟨fun h => absurd h.1.2 (List.cons_ne_nil _ _),
        fun h => absurd h.1.2 (List.cons_ne_nil _ _)⟩

/-! ## Values -/

/-- What a variable comes to in two runs: nothing in both, or texts of the same structure. -/
abbrev SameResult (op : Operator) : Option (List Char) → Option (List Char) → Prop :=
  Option.Rel (SameText op)

theorem alike_scalar (hop : op.charset = .unreserved) (hp : p.Sound) {a b : Value}
    (ha : a.isScalar = true) (hb : b.isScalar = true)
    (h : op = .parameter → (a.scalarText = [] ↔ b.scalarText = [])) :
    Alike .tooManyDigits (SameResult op) (encodeValue op v sep p a.simplify)
      (encodeValue op v sep p b.simplify) := by
  cases haw : a.isWritable with
  | false =>
    rw [encodeValue_of_not_isWritable op v sep p ha haw]
    exact .left _
  | true =>
    cases hbw : b.isWritable with
    | false =>
      rw [encodeValue_of_not_isWritable op v sep p hb hbw]
      exact .right _
    | true =>
      rw [encodeValue_simplify_scalar op v sep p ha haw,
        encodeValue_simplify_scalar op v sep p hb hbw]
      exact (alike_encodeText hop hp h).map fun _ _ h => .some h

/-- The items of two lists are at the same positions, so they meet the same places. -/
theorem alike_encodeItems (hop : op.charset = .unreserved) (hp : p.Sound) {xs ys : List Value}
    (hx : ∀ x ∈ xs, x.isScalar = true) (hy : ∀ y ∈ ys, y.isScalar = true)
    (hlength : xs.length = ys.length)
    (h : op = .parameter → SameEmptiness (xs.map Value.scalarText) (ys.map Value.scalarText))
    (i : Nat) :
    Alike .tooManyDigits (List.Forall₂ (SameText op))
      (encodeItems op v sep p i (xs.map Value.simplify))
      (encodeItems op v sep p i (ys.map Value.simplify)) := by
  induction xs generalizing ys i with
  | nil =>
    obtain rfl : ys = [] := List.length_eq_zero_iff.1 hlength.symm
    exact .ok .nil
  | cons x xs ih =>
    cases ys with
    | nil => cases hlength
    | cons y ys =>
      have hhead : op = .parameter → (x.scalarText = [] ↔ y.scalarText = []) :=
        fun hparam => (List.forall₂_cons.1 (h hparam)).1
      have htail : op = .parameter →
          SameEmptiness (xs.map Value.scalarText) (ys.map Value.scalarText) :=
        fun hparam => (List.forall₂_cons.1 (h hparam)).2
      have hrest := ih (fun z hz => hx z (List.mem_cons_of_mem x hz))
        (fun z hz => hy z (List.mem_cons_of_mem y hz)) (Nat.succ.inj hlength) htail (i + 1)
      refine (alike_scalar hop (hp.item _ _ i) (hx x List.mem_cons_self)
        (hy y List.mem_cons_self) hhead).bind fun r r' hr => hrest.bind fun rs rs' hrs => .ok ?_
      cases hr with
      | none => exact hrs
      | some hr => exact .cons hr hrs

theorem sameResult_joinItems (hsep : isUriChar sep = true) (composite : Bool)
    {ss ts : List (List Char)} (h : List.Forall₂ (SameText op) ss ts) :
    SameResult op (joinItems sep composite ss) (joinItems sep composite ts) := by
  cases composite with
  | false => exact .none
  | true => exact .some (sameText_intercalate hsep h)

theorem sameResult_nameText {name : List Char} (hname : Encoded name)
    {r r' : Option (List Char)} (h : SameResult op r r') :
    SameResult op (nameText op name r) (nameText op name r') := by
  cases h with
  | none =>
    show SameResult op (if _ then _ else _) (if _ then _ else _)
    split
    · exact .some (sameText_refl hname)
    · exact .none
  | @some s t hst =>
    -- an equals sign stands behind the name, except under `;` and before an empty text
    have hsigned : SameText op (name ++ '=' :: s) (name ++ '=' :: t) := by
      have heq : SameText op (['='] ++ s) (['='] ++ t) :=
        sameText_append_left hst (encoded_singleton (by decide))
      exact sameText_append_left heq hname
    by_cases hop : op = .parameter
    · cases s with
      | nil =>
        obtain rfl := (hst.empty hop).1 rfl
        show SameResult op (some (if _ then _ else _)) (some (if _ then _ else _))
        rw [if_pos hop]
        exact .some (sameText_refl hname)
      | cons c cs =>
        cases t with
        | nil => exact absurd ((hst.empty hop).2 rfl) (List.cons_ne_nil _ _)
        | cons d ds => exact .some hsigned
    · have hwrite : ∀ u, nameText op name (some u) = some (name ++ '=' :: u) := by
        intro u
        cases u with
        | nil =>
          show some (if _ then _ else _) = _
          rw [if_neg hop]
        | cons c cs => rfl
      rw [hwrite, hwrite]
      exact .some hsigned

/-! ## Variables -/

theorem alike_expand_of_encodeValue {a b : Value} (ha : a ≠ .null) (hb : b ≠ .null)
    (h : Alike .tooManyDigits (SameResult op)
      (encodeValue op v (if v.modifier.explodes then op.itemSeparator else ',')
        (Place.start (encodeName v.name)) a)
      (encodeValue op v (if v.modifier.explodes then op.itemSeparator else ',')
        (Place.start (encodeName v.name)) b)) :
    Alike .tooManyDigits (SameResult op) (v.expand op a) (v.expand op b) := by
  rw [Variable.expand_of_ne_null op v ha, Variable.expand_of_ne_null op v hb]
  refine h.map fun r r' hr => ?_
  split
  · exact sameResult_nameText (encoded_encodeName _) hr
  · exact hr

theorem value_of_lookup_eq {v : Variable} {p : Params} {a : Value} (h : p.lookup v.key = some a) :
    v.value p = a.simplify := by
  rw [Variable.value, h]

theorem alike_variable_expand (hop : op.charset = .unreserved) {p q : Params}
    (hshape : SameShape (p.lookup v.key) (q.lookup v.key))
    (hempty : op = .parameter → ∀ a b, p.lookup v.key = some a → q.lookup v.key = some b →
      SameEmptiness a.texts b.texts) :
    Alike .tooManyDigits (SameResult op) (v.expand op (v.value p)) (v.expand op (v.value q)) := by
  have hplace : (Place.start (encodeName v.name)).Sound :=
    Place.sound_start (encoded_encodeName _)
  have hself : ∀ value,
      Alike .tooManyDigits (SameResult op) (v.expand op value) (v.expand op value) := by
    intro value
    refine .refl fun r hr => ?_
    cases r with
    | none => exact .none
    | some s => exact .some (sameText_refl (encoded_variable_expand hr s rfl))
  generalize hp : p.lookup v.key = x at hshape
  generalize hq : q.lookup v.key = y at hshape
  cases hshape with
  | absent =>
    have hvalue : v.value p = v.value q := by rw [Variable.value, Variable.value, hp, hq]
    rw [hvalue]
    exact hself _
  | null =>
    rw [value_of_lookup_eq hp, value_of_lookup_eq hq]
    exact hself _
  | @scalar a b ha hb =>
    rw [value_of_lookup_eq hp, value_of_lookup_eq hq]
    refine alike_expand_of_encodeValue (Value.simplify_ne_null (Value.ne_null_of_isScalar ha))
      (Value.simplify_ne_null (Value.ne_null_of_isScalar hb))
      (alike_scalar hop hplace ha hb fun hparam => ?_)
    have htexts := hempty hparam a b hp hq
    rw [Value.texts_of_isScalar ha, Value.texts_of_isScalar hb] at htexts
    exact (List.forall₂_cons.1 htexts).1
  | @list xs ys hx hy hlength =>
    rw [value_of_lookup_eq hp, value_of_lookup_eq hq]
    show Alike _ _ (v.expand op (.list (Value.simplifyItems xs)))
      (v.expand op (.list (Value.simplifyItems ys)))
    rw [Value.simplifyItems_of_isScalar hx, Value.simplifyItems_of_isScalar hy]
    refine alike_expand_of_encodeValue (fun h => by cases h) (fun h => by cases h) ?_
    refine (alike_encodeItems hop hplace hx hy hlength
      (fun hparam => hempty hparam _ _ hp hq) 0).bind fun rs rs' hrs => .ok ?_
    have hcomposite : (xs.map Value.simplify).isEmpty = (ys.map Value.simplify).isEmpty := by
      rw [List.isEmpty_map, List.isEmpty_map]
      cases xs with
      | nil => rw [List.length_eq_zero_iff.1 hlength.symm]
      | cons x xs =>
        cases ys with
        | nil => cases hlength
        | cons y ys => rfl
    rw [hcomposite]
    exact sameResult_joinItems (isUriChar_sep op v) _ hrs

/-! ## Templates -/

theorem forall₂_reduceOption {rs rs' : List (Option (List Char))}
    (h : List.Forall₂ (SameResult op) rs rs') :
    List.Forall₂ (SameText op) rs.reduceOption rs'.reduceOption := by
  induction h with
  | nil => exact .nil
  | cons hr _ ih =>
    cases hr with
    | none => exact ih
    | some hst => exact .cons hst ih

theorem sameSkeleton_assemble {e : Expression} (hcloser : ∀ c ∈ e.closer, isUriChar c = true)
    {ss ts : List (List Char)} (h : List.Forall₂ SameSkeleton ss ts) :
    SameSkeleton (e.assemble ss) (e.assemble ts) := by
  have hbody := SameSkeleton.intercalate e.operator.isUriChar_separator h
  cases h with
  | nil => exact .nil
  | cons hst hrest =>
    rw [e.assemble_of_ne_nil (List.cons_ne_nil _ _), e.assemble_of_ne_nil (List.cons_ne_nil _ _)]
    split
    · exact hbody.append (.refl (encoded_singleton (hcloser _ ‹_›)))
    · exact (SameSkeleton.refl e.operator.encoded_lead).append hbody

theorem alike_expression_expand {e : Expression} (hop : e.operator.charset = .unreserved)
    (hcloser : ∀ c ∈ e.closer, isUriChar c = true) {p q : Params}
    (hshape : ∀ v ∈ e.vars, SameShape (p.lookup v.key) (q.lookup v.key))
    (hempty : e.operator = .parameter → ∀ v ∈ e.vars, ∀ a b,
      p.lookup v.key = some a → q.lookup v.key = some b → SameEmptiness a.texts b.texts) :
    Alike .tooManyDigits SameSkeleton (e.expand p) (e.expand q) := by
  have hvars : Alike .tooManyDigits (List.Forall₂ (SameResult e.operator))
      (e.vars.mapM fun v => v.expand e.operator (v.value p))
      (e.vars.mapM fun v => v.expand e.operator (v.value q)) := by
    refine .mapM (List.forall₂_same.2 fun v hv => ?_)
    exact alike_variable_expand hop (hshape v hv) fun hparam => hempty hparam v hv
  refine hvars.bind fun rs rs' hrs => .ok ?_
  exact sameSkeleton_assemble hcloser
    ((forall₂_reduceOption hrs).imp fun _ _ hst => hst.skeleton)

theorem alike_expand {source : String} {t : Template} (ht : parse source = .ok t)
    (hop : ∀ e ∈ t.expressions, e.operator.charset = .unreserved) {p q : Params}
    (h : Interchangeable t p q) :
    Alike .tooManyDigits (fun u w => skeleton u.toList = skeleton w.toList) (t.expand p)
      (t.expand q) := by
  have hparts : Alike .tooManyDigits (List.Forall₂ SameSkeleton) (t.parts.mapM (Part.expand p))
      (t.parts.mapM (Part.expand q)) := by
    refine .mapM (List.forall₂_same.2 fun part hpart => ?_)
    cases part with
    | literal s => exact .ok (.refl (Charset.encoded_encode .reserved s))
    | expression e =>
      have he : e ∈ t.expressions := List.mem_filterMap.2 ⟨_, hpart, rfl⟩
      refine alike_expression_expand (hop e he) (isUriChar_closer ht he) (fun v hv => ?_)
        (h.emptiness e he)
      exact h.shape v (List.mem_flatMap.2 ⟨e, he, hv⟩)
  refine hparts.bind fun ss ts hst => .ok ?_
  rw [String.toList_ofList, String.toList_ofList]
  exact (SameSkeleton.flatten hst).eq

/-- Parameters of the same shape make URLs of the same skeleton, or none at all, unless one of
them holds an integer of too many digits, for which that one fails. -/
theorem skeleton_url_of_interchangeable {source : String} {t : Template}
    (ht : parse source = .ok t)
    (hop : ∀ e ∈ t.expressions, e.operator ∈
      [.simple, .label, .path, .parameter, .query, .continuation, .comma])
    {p q : Params} (hp : p.Admissible) (hq : q.Admissible) (h : Interchangeable t p q) :
    (¬p.WritableIn t ∧ url source p = .error .tooManyDigits) ∨
    (¬q.WritableIn t ∧ url source q = .error .tooManyDigits) ∨
    (∃ v, url source p = .error (.lengthOfComposite source v) ∧
      url source q = .error (.lengthOfComposite source v)) ∨
    ∃ u w, url source p = .ok u ∧ url source q = .ok w ∧
      skeleton u.toList = skeleton w.toList := by
  have hcharset : ∀ e ∈ t.expressions, e.operator.charset = .unreserved := by
    intro e he
    have hmem := hop e he
    cases hoperator : e.operator with
    | reserved | fragment | commaReserved =>
      rw [hoperator] at hmem
      exact absurd hmem (by decide)
    | _ => rfl
  have hstopped : ∀ r : Params, r.Admissible → t.expand r = .error .tooManyDigits →
      ¬r.WritableIn t ∧ url source r = .error .tooManyDigits := by
    intro r hr hexpand
    have hurl : url source r = .error .tooManyDigits := (url_eq_error_iff ht hr).2 hexpand
    exact ⟨fun hw => url_ne_tooManyDigits ht hr hw hurl, hurl⟩
  have halike := alike_expand ht hcharset h
  generalize hx : t.expand p = x at halike
  generalize hy : t.expand q = y at halike
  cases halike with
  | left => exact Or.inl (hstopped p hp hx)
  | right => exact Or.inr (Or.inl (hstopped q hq hy))
  | error e =>
    cases e with
    | tooManyDigits => exact Or.inl (hstopped p hp hx)
    | lengthOfComposite v =>
      exact Or.inr (Or.inr (Or.inl
        ⟨v, (url_eq_error_iff ht hp).2 hx, (url_eq_error_iff ht hq).2 hy⟩))
  | ok hskeleton =>
    exact Or.inr (Or.inr (Or.inr ⟨_, _, (url_eq_ok_iff ht hp).2 hx, (url_eq_ok_iff ht hq).2 hy,
      hskeleton⟩))

/-- What is read from `/a{/x*}{;k}{?q:3}`. -/
def threeValues : Template where
  source := "/a{/x*}{;k}{?q:3}"
  parts := [.literal ['/', 'a'], .expression ⟨.path, [⟨"x", "x", .explode, none⟩], none⟩,
    .expression ⟨.parameter, [⟨"k", "k", .none, none⟩], none⟩,
    .expression ⟨.query, [⟨"q", "q", .first 3, none⟩], none⟩]

/-- Values full of delimiters and triplets stand where plain values did. -/
theorem skeleton_url_of_delimiters :
    let p : Params := [("x", .list [.text "1", .text "b"]), ("k", .text "v"), ("q", .int 17)]
    let q : Params := [("x", .list [.text "../", .bool true]), ("k", .text "a&b=c"),
      ("q", .text "%2F?#")]
    parse threeValues.source = .ok threeValues ∧
      (∀ e ∈ threeValues.expressions, e.operator ∈
        [.simple, .label, .path, .parameter, .query, .continuation, .comma]) ∧
      p.Admissible ∧ q.Admissible ∧ Interchangeable threeValues p q ∧
      ((∃ v, url threeValues.source p = .error (.lengthOfComposite threeValues.source v) ∧
        url threeValues.source q = .error (.lengthOfComposite threeValues.source v)) ∨
      ∃ u w, url threeValues.source p = .ok u ∧ url threeValues.source q = .ok w ∧
        skeleton u.toList = skeleton w.toList) := by
  intro p q
  have ht : parse threeValues.source = .ok threeValues := rfl
  have hop : ∀ e ∈ threeValues.expressions, e.operator ∈
      [.simple, .label, .path, .parameter, .query, .continuation, .comma] := by decide
  have hp : p.Admissible := by decide
  have hq : q.Admissible := by decide
  have h : Interchangeable threeValues p q := by
    constructor
    · intro v hv
      rcases hv with _ | ⟨_, _ | ⟨_, _ | ⟨_, hv⟩⟩⟩
      · exact .list (by decide) (by decide) rfl
      · exact .scalar rfl rfl
      · exact .scalar rfl rfl
      · cases hv
    · intro e he hparam v hv a b ha hb
      rcases he with _ | ⟨_, _ | ⟨_, _ | ⟨_, he⟩⟩⟩
      · cases hparam
      · rcases hv with _ | ⟨_, hv⟩
        · cases ha
          cases hb
          exact .cons (by decide) .nil
        · cases hv
      · cases hparam
      · cases he
  refine ⟨ht, hop, hp, hq, h, ?_⟩
  rcases skeleton_url_of_interchangeable ht hop hp hq h with ⟨hw, _⟩ | ⟨hw, _⟩ | hsame
  · exact absurd (Params.writableIn_of_forall (by decide) _) hw
  · exact absurd (Params.writableIn_of_forall (by decide) _) hw
  · exact hsame

/-- A number makes a URL, and a longer one in its place makes none. -/
theorem short_number_makes_url :
    let q : Params := [("n", .int 1)]
    ∃ t, parse "/{n}" = .ok t ∧ (∀ e ∈ t.expressions, e.operator = .simple) ∧
      tooLongParams.Admissible ∧ q.Admissible ∧ Interchangeable t tooLongParams q ∧
      url "/{n}" tooLongParams = .error .tooManyDigits ∧ url "/{n}" q = .ok "/1" := by
  intro q
  obtain ⟨t, ht, hvars, hop⟩ : ∃ t, parse "/{n}" = .ok t ∧ t.vars = [⟨"n", "n", .none, none⟩] ∧
      ∀ e ∈ t.expressions, e.operator = .simple := ⟨_, rfl, rfl, by decide⟩
  have hp : tooLongParams.Admissible := by decide
  refine ⟨t, ht, hop, hp, by decide, ⟨?_, fun e he hparam => ?_⟩,
    url_of_tooLong ht hvars hp rfl, Outcome.eq_ok_of_toOption (by decide +kernel)⟩
  · rw [hvars]
    intro v hv
    rw [List.mem_singleton.1 hv]
    exact .scalar rfl rfl
  · rw [hop e he] at hparam
    cases hparam

end Template
end RouteTemplate
