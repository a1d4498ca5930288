/-
Typed values in a URL.

A typed value is taken for a truth value or a number only if that would be written the same
again, so it keeps its text on the way in.  On the way out it is written once more, by the
rules of templates, and there a number in floating point that is whole is written without
fraction or exponent.  A text of such a number is the one kind that changes: `1.0` comes to
`1`, and `1e+16` to seventeen digits.  No text is both of that kind and the text of an
integer, since the first has a point or an exponent and the second has neither.
-/
import RouteTemplate.Proofs.CommandLine.Words
import RouteTemplate.Proofs.Decimal.Digits
import RouteTemplate.Proofs.Template.Dependency
import RouteTemplate.Proofs.Template.Scalar

namespace RouteTemplate

/-! ## Numbers in floating point and integers -/

namespace Decimal

namespace Layout

theorem mem_positional (ds : List Char) (x : Int) : '.' ∈ positional ds x := by
  unfold positional
  split
  · exact List.mem_append_left _ (List.mem_cons_of_mem _ List.mem_cons_self)
  · dsimp only
    split
    · exact List.mem_append_right _ List.mem_cons_self
    · exact List.mem_append_right _ List.mem_cons_self

theorem mem_scientific (layout : Layout) (ds : List Char) (x : Int) :
    'e' ∈ layout.scientific ds x := by
  unfold scientific
  exact List.mem_append_left _ (List.mem_append_right _ List.mem_cons_self)

/-- A numeral has a point or an exponent. -/
theorem mem_write (layout : Layout) (d : Decimal) :
    '.' ∈ layout.write d ∨ 'e' ∈ layout.write d := by
  rw [write]
  generalize (if d.digits = 0 then 0 else d.magnitude) = x
  show '.' ∈ (if layout.lowest ≤ x ∧ x < 16 then _ else _) ∨ 'e' ∈ (if _ then _ else _)
  split
  · exact Or.inl (mem_positional _ _)
  · exact Or.inr (mem_scientific _ _ _)

end Layout
end Decimal

namespace Binary64

theorem mem_text_of_toInt? {x : Binary64} {n : Int} (h : x.toInt? = some n)
    (layout : Decimal.Layout) : '.' ∈ x.text layout ∨ 'e' ∈ x.text layout := by
  cases x with
  | nan => cases h
  | infinite negative => cases h
  | finite negative rank =>
    exact (layout.mem_write (shortest rank)).imp (List.mem_append_right _)
      (List.mem_append_right _)

end Binary64

/-! ## Scalars in a template -/

namespace Template

/-- Where a variable stands for a scalar, it stands for its text. -/
theorem Variable.expand_simplify (op : Operator) (v : Variable) {value : Value}
    (h : value.isScalar = true) (hw : value.isWritable = true) :
    v.expand op value.simplify = v.expand op (.text (String.ofList value.scalarText)) := by
  rw [Variable.expand_of_ne_null op v (Value.simplify_ne_null (Value.ne_null_of_isScalar h)),
    Variable.expand_of_ne_null op v (fun h => by cases h),
    encodeValue_simplify_scalar op v _ _ h hw]
  show _ = ((encodeText op v _ (String.ofList value.scalarText).toList).map some).map _
  rw [String.toList_ofList]

theorem lookup_map {α : Type} (f : α → Value) (name : String) (es : List (String × α)) :
    (es.map fun e => (e.1, f e.2)).lookup name = (es.lookup name).map f := by
  induction es with
  | nil => rfl
  | cons e es ih =>
    obtain ⟨k, a⟩ := e
    rw [List.map_cons, List.lookup_cons, List.lookup_cons, ih]
    cases name == k with
    | true => rfl
    | false => rfl

section

variable {α : Type} {f g : α → Value}
  (hf : ∀ a, (f a).isScalar = true ∧ (f a).isWritable = true)
  (hg : ∀ a, (g a).isScalar = true ∧ (g a).isWritable = true)
  (h : ∀ a, (f a).scalarText = (g a).scalarText)

include hf hg h

/-- Parameters whose values are scalars with the same texts come to the same. -/
theorem expand_map_eq (t : Template) (es : List (String × α)) :
    t.expand (es.map fun e => (e.1, f e.2)) = t.expand (es.map fun e => (e.1, g e.2)) := by
  refine expand_congr fun e _ v _ => ?_
  rw [Variable.value, Variable.value, lookup_map, lookup_map]
  cases es.lookup v.key with
  | none => rfl
  | some a =>
    show v.expand e.operator (f a).simplify = v.expand e.operator (g a).simplify
    rw [Variable.expand_simplify _ v (hf a).1 (hf a).2,
      Variable.expand_simplify _ v (hg a).1 (hg a).2, h a]

theorem url_map_eq (source : String) (es : List (String × α)) :
    url source (es.map fun e => (e.1, f e.2)) = url source (es.map fun e => (e.1, g e.2)) := by
  have hnames : (es.map fun e => (e.1, f e.2)).map Prod.fst =
      (es.map fun e => (e.1, g e.2)).map Prod.fst := by
    rw [List.map_map, List.map_map]
    rfl
  exact url_congr hnames fun t _ => expand_map_eq hf hg h t es

end

end Template

namespace CommandLine

/-! ## What a typed value comes to -/

/-- The integer that a text means which is a number in floating point, written the way such
numbers are. -/
def wholeNumber? (s : String) : Option Int := (number? s).bind Binary64.toInt?

/-- The text that a typed value puts into a URL. -/
def typedText (s : String) : String :=
  match wholeNumber? s with
  | some n => toString n
  | none => s

theorem number?_eq_some {s : String} {x : Binary64} (h : number? s = some x) :
    String.ofList (x.text .plain) = s :=
  eq_of_beq (Option.filter_eq_some_iff.1 h).2

theorem integer?_eq_some {s : String} {n : Int} (h : integer? s = some n) :
    toString n = s ∧ Decimal.readInt? s.toList = some n ∧ Decimal.isWritable n = true := by
  obtain ⟨hlimit, h⟩ := Option.ite_none_left_eq_some.1 h
  obtain ⟨hread, hwritten⟩ := Option.filter_eq_some_iff.1 h
  obtain rfl : toString n = s := eq_of_beq hwritten
  exact ⟨rfl, hread, Decimal.isWritable_of_splitSign (Nat.not_lt.1 hlimit)⟩

theorem mem_of_wholeNumber? {s : String} {n : Int} (h : wholeNumber? s = some n) :
    '.' ∈ s.toList ∨ 'e' ∈ s.toList := by
  obtain ⟨x, hx, hn⟩ := Option.bind_eq_some_iff.1 h
  rw [← number?_eq_some hx, String.toList_ofList]
  exact Binary64.mem_text_of_toInt? hn _

/-- No text is an integer both ways. -/
theorem wholeNumber?_of_readInt? {s : String} {n : Int}
    (h : Decimal.readInt? s.toList = some n) : wholeNumber? s = none := by
  cases hwhole : wholeNumber? s with
  | none => rfl
  | some m =>
    rcases mem_of_wholeNumber? hwhole with hmem | hmem
    · exact absurd (Decimal.mem_of_readInt? h _ hmem) (by decide)
    · exact absurd (Decimal.mem_of_readInt? h _ hmem) (by decide)

theorem typedText_of_none {s : String} (h : wholeNumber? s = none) : typedText s = s := by
  rw [typedText, h]

/-- Only the text of a whole number in floating point changes. -/
theorem typedText_eq_self_iff {s : String} : typedText s = s ↔ wholeNumber? s = none := by
  refine ⟨fun h => ?_, typedText_of_none⟩
  cases hwhole : wholeNumber? s with
  | none => rfl
  | some n =>
    rw [typedText, hwhole] at h
    have hmem := mem_of_wholeNumber? hwhole
    rw [← h] at hmem
    rcases hmem with hmem | hmem
    · exact absurd (Decimal.mem_toString _ hmem) (by decide)
    · exact absurd (Decimal.mem_toString _ hmem) (by decide)

/-- A typed value is a scalar that can be written, and its text is what is written. -/
theorem scalarText_readValue (s : String) :
    ((readValue s).isScalar = true ∧ (readValue s).isWritable = true) ∧
      (readValue s).scalarText = (typedText s).toList := by
  unfold readValue
  split
  · subst s
    exact ⟨⟨rfl, rfl⟩, rfl⟩
  · split
    · subst s
      exact ⟨⟨rfl, rfl⟩, rfl⟩
    · cases hinteger : integer? s with
      | some n =>
        obtain ⟨hwritten, hread, hwritable⟩ := integer?_eq_some hinteger
        rw [typedText_of_none (wholeNumber?_of_readInt? hread), ← hwritten]
        exact ⟨⟨rfl, hwritable⟩, rfl⟩
      | none =>
        cases hnumber : number? s with
        | some x =>
          refine ⟨⟨rfl, rfl⟩, ?_⟩
          rw [typedText, wholeNumber?, hnumber, Option.bind_some, Value.scalarText]
          cases x.toInt? with
          | some n => rfl
          | none => rw [← number?_eq_some hnumber, String.toList_ofList]
        | none =>
          have hwhole : wholeNumber? s = none := by rw [wholeNumber?, hnumber, Option.bind_none]
          rw [typedText_of_none hwhole]
          exact ⟨⟨rfl, rfl⟩, rfl⟩

/-! ## The command -/

/-- Typed parameters, each name once, with their values in some form. -/
def typedParams (form : String → Value) (pairs : List (String × String)) : Params :=
  (Schema.dictionary pairs).map fun p => (p.1, form p.2)

theorem url_typedParams (source : String) (pairs : List (String × String)) :
    Template.url source (typedParams readValue pairs) =
      Template.url source (typedParams (fun s => .text (typedText s)) pairs) := by
  have htext : ∀ s, (Value.text (typedText s)).isScalar = true ∧
      (Value.text (typedText s)).isWritable = true := fun _ => ⟨rfl, rfl⟩
  exact Template.url_map_eq (fun s => (scalarText_readValue s).1) htext
    (fun s => (scalarText_readValue s).2) source _

theorem ofWords_expandWords {t : String} (ht : t.toList.head? ≠ some '-')
    {pairs : List (String × String)} (hpairs : Sayable pairs) :
    Command.ofWords (t :: pairWords pairs) .expand =
      .ok (.expand t (typedParams readValue pairs) false) := by
  have hvalues : (pairs.map fun p => (paramOption.long, some (pairWord p))).filterMap
      (fun o => if o.1 = paramOption.long then o.2 else none) = pairs.map pairWord := by
    rw [List.filterMap_map, ← List.filterMap_eq_map]
    rfl
  have hjson : (pairs.map fun p => (paramOption.long, some (pairWord p))).any
      (fun o => o.1 == jsonOption.long) = false := by
    rw [List.any_map, List.any_eq_false]
    have hne : (paramOption.long == jsonOption.long) = false := by decide
    exact fun _ _ => ne_true_of_eq_false hne
  have hparams : params ⟨pairs.map fun p => (paramOption.long, some (pairWord p)), [t]⟩ =
      .ok (typedParams readValue pairs) := by
    rw [params, Words.values, hvalues, readPairs_pairWords hpairs, Schema.dictionary_map]
    rfl
  have hsort := sort_template_pairWords ht pairs
  rw [expandForms] at hsort
  rw [Command.ofWords, hsort]
  show (params _ >>= _) = _
  rw [hparams]
  show Except.ok (Command.expand t _ (Words.has _ _)) = _
  rw [Words.has, hjson]

theorem Invocation.run_of_load {i : Invocation} {files : List (String × String)}
    {settings : Settings} {c : Command}
    (hload : Settings.load files i.settingsPath = .ok settings)
    (hlevel : settings.logging.levelFault? = none) (hc : Command.ofWords i.words i.command = .ok c) :
    i.run files = c.run settings := by
  unfold Invocation.run
  simp only [hload, hlevel, hc]

theorem run_expandWords {files : List (String × String)} {settings : Settings}
    (hload : Settings.load files none = .ok settings)
    (hlevel : settings.logging.levelFault? = none) {t : String}
    (ht : t.toList.head? ≠ some '-') {pairs : List (String × String)} (hpairs : Sayable pairs) :
    run files (expandWords t pairs) =
      Outcome.ofResult [] (((Template.url t (typedParams readValue pairs)).map (· ++ "\n")).mapError
        .template) := by
  have hinvocation : Invocation.ofWords (expandWords t pairs) =
      .ok ⟨none, .expand, t :: pairWords pairs⟩ := rfl
  have hcommand : Command.ofWords (t :: pairWords pairs) .expand =
      .ok (.expand t (typedParams readValue pairs) false) := ofWords_expandWords ht hpairs
  have hrun : Invocation.run ⟨none, .expand, t :: pairWords pairs⟩ files =
      Command.run settings (.expand t (typedParams readValue pairs) false) :=
    Invocation.run_of_load hload hlevel hcommand
  rw [run, hinvocation]
  dsimp only
  rw [hrun]
  show Outcome.ofResult [] ((Template.url t _ >>= _).mapError _) = _
  cases Template.url t (typedParams readValue pairs) with
  | error e => rfl
  | ok u => rfl

/-- The command prints the URL of the template with the typed texts, or says why there is
none, except that the text of a whole number in floating point stands for its digits.  Where
no value is such a text, the URL is that of the texts as they were typed. -/
theorem expand_prints_typed {files : List (String × String)} {settings : Settings}
    (hload : Settings.load files none = .ok settings)
    (hlevel : settings.logging.levelFault? = none) {t : String}
    (ht : t.toList.head? ≠ some '-') {pairs : List (String × String)} (hpairs : Sayable pairs) :
    run files (expandWords t pairs) =
        Outcome.ofResult [] (((Template.url t
          (typedParams (fun s => .text (typedText s)) pairs)).map (· ++ "\n")).mapError .template) ∧
      (∀ s, typedText s = s ↔ wholeNumber? s = none) ∧
      ((∀ p ∈ pairs, wholeNumber? p.2 = none) →
        run files (expandWords t pairs) =
          Outcome.ofResult [] (((Template.url t
            (typedParams .text pairs)).map (· ++ "\n")).mapError .template)) := by
  have hrun := run_expandWords hload hlevel ht hpairs
  rw [url_typedParams] at hrun
  refine ⟨hrun, fun s => typedText_eq_self_iff, fun hnone => ?_⟩
  have hparams : typedParams (fun s => .text (typedText s)) pairs = typedParams .text pairs := by
    refine List.map_congr_left fun p hp => ?_
    show (p.1, Value.text (typedText p.2)) = (p.1, Value.text p.2)
    rw [typedText_of_none (hnone p (Schema.mem_dictionary hp))]
  rw [hrun, hparams]

/-- A name given twice, digits behind zeros, a fraction, and delimiters in a value. -/
theorem expand_prints_typed_search :
    let pairs := [("a", "true"), ("q", "x=y&z"), ("r", "-1.5"), ("a", "007")]
    Settings.load [] none = .ok .standard ∧ Settings.standard.logging.levelFault? = none ∧
      "/v/{a}{?q,r}".toList.head? ≠ some '-' ∧ Sayable pairs ∧
      (∀ p ∈ pairs, wholeNumber? p.2 = none) ∧
      run [] (expandWords "/v/{a}{?q,r}" pairs) = ⟨"/v/007?q=x%3Dy%26z&r=-1.5\n", [], none⟩ := by
  intro pairs
  have hload : Settings.load [] none = .ok .standard := rfl
  have hlevel : Settings.standard.logging.levelFault? = none := rfl
  have ht : "/v/{a}{?q,r}".toList.head? ≠ some '-' := by decide
  have hpairs : Sayable pairs := by decide
  have hnone : ∀ p ∈ pairs, wholeNumber? p.2 = none := by decide +kernel
  have hurl : Template.url "/v/{a}{?q,r}" (typedParams .text pairs) =
      .ok "/v/007?q=x%3Dy%26z&r=-1.5" := Outcome.eq_ok_of_toOption (by decide +kernel)
  have hrun := (expand_prints_typed hload hlevel ht hpairs).2.2 hnone
  rw [hurl] at hrun
  exact ⟨hload, hlevel, ht, hpairs, hnone, hrun⟩

/-- An exponent that is typed does not reach the URL where it makes a whole number. -/
theorem expand_evaluates_exponent :
    (run [] (expandWords "/v/{v}" [("v", "1e+16")])).output = "/v/10000000000000000\n" ∧
      Template.url "/v/{v}" (typedParams .text [("v", "1e+16")]) = .ok "/v/1e%2B16" :=
  ⟨by decide +kernel, Outcome.eq_ok_of_toOption (by decide +kernel)⟩

end CommandLine
end RouteTemplate
