/-
Values that are spelled in another way.

A scalar has the same text as the string that holds its text, and a tuple has the
items of the list, while what is null is left out and shifts no position.  So the
walk comes to the same over a value and over another spelling of it, however deep
the part lies that is respelled and however often that is done.  The one thing
that spelling can mend is an integer of too many digits: its text has no limit.
-/
import Mathlib.Logic.Relation
import RouteTemplate.Proofs.Template.Refusal
import RouteTemplate.Proofs.Template.Scalar

namespace RouteTemplate

open Outcome

namespace Value

/-! ## Respelling -/

/-- Items without those that are null. -/
def dropNulls (items : List Value) : List Value := items.filter fun v => !v.isNull

def dropNullEntries (entries : List (Value × Value)) : List (Value × Value) :=
  entries.filter fun e => !e.2.isNull

/-- One part of a value, at any depth, is spelled in another way. -/
inductive Respelled : Value → Value → Prop where
  | bool (b : Bool) : Respelled (.bool b) (.text (if b then "true" else "false"))
  | int (n : Int) : Respelled (.int n) (.text (toString n))
  | whole {x : Binary64} {n : Int} (h : x.toInt? = some n) :
    Respelled (.float x) (.text (toString n))
  | number {x : Binary64} (h : x.toInt? = none) :
    Respelled (.float x) (.text (String.ofList (x.text .plain)))
  | tuple (items : List Value) : Respelled (.tuple items) (.list items)
  | listNulls (items : List Value) : Respelled (.list items) (.list (dropNulls items))
  | tupleNulls (items : List Value) : Respelled (.tuple items) (.tuple (dropNulls items))
  | mapNulls (entries : List (Value × Value)) :
    Respelled (.map entries) (.map (dropNullEntries entries))
  | inList (before after : List Value) {x y : Value} (h : Respelled x y) :
    Respelled (.list (before ++ x :: after)) (.list (before ++ y :: after))
  | inTuple (before after : List Value) {x y : Value} (h : Respelled x y) :
    Respelled (.tuple (before ++ x :: after)) (.tuple (before ++ y :: after))
  | inMap (before after : List (Value × Value)) (key : Value) {x y : Value} (h : Respelled x y) :
    Respelled (.map (before ++ (key, x) :: after)) (.map (before ++ (key, y) :: after))

theorem Respelled.ne_null {x y : Value} (h : Respelled x y) : x ≠ .null ∧ y ≠ .null := by
  cases h <;> simp

/-! ## The form for expansion -/

theorem simplifyItems_append (xs ys : List Value) :
    simplifyItems (xs ++ ys) = simplifyItems xs ++ simplifyItems ys := by
  induction xs with
  | nil => rfl
  | cons x xs ih =>
    by_cases h : x = .null
    · subst h
      exact ih
    · rw [List.cons_append, simplifyItems_cons h, simplifyItems_cons h, ih, List.cons_append]

theorem simplifyEntries_append (xs ys : List (Value × Value)) :
    simplifyEntries (xs ++ ys) = simplifyEntries xs ++ simplifyEntries ys := by
  induction xs with
  | nil => rfl
  | cons e xs ih =>
    obtain ⟨key, x⟩ := e
    by_cases h : x = .null
    · subst h
      exact ih
    · rw [List.cons_append, simplifyEntries_cons h, simplifyEntries_cons h, ih, List.cons_append]

theorem isNull_eq_false {v : Value} (h : v ≠ .null) : v.isNull = false := by
  rw [← Bool.not_eq_true]
  exact fun hnull => h (eq_null_of_isNull hnull)

theorem simplifyItems_dropNulls (items : List Value) :
    simplifyItems (dropNulls items) = simplifyItems items := by
  induction items with
  | nil => rfl
  | cons v vs ih =>
    by_cases h : v = .null
    · subst h
      exact ih
    · rw [dropNulls, List.filter_cons_of_pos (by simp [isNull_eq_false h]), simplifyItems_cons h,
        simplifyItems_cons h]
      exact congrArg (v.simplify :: ·) ih

theorem simplifyEntries_dropNullEntries (entries : List (Value × Value)) :
    simplifyEntries (dropNullEntries entries) = simplifyEntries entries := by
  induction entries with
  | nil => rfl
  | cons e es ih =>
    obtain ⟨k, v⟩ := e
    by_cases h : v = .null
    · subst h
      exact ih
    · rw [dropNullEntries, List.filter_cons_of_pos (by simp [isNull_eq_false h]),
        simplifyEntries_cons h, simplifyEntries_cons h]
      exact congrArg ((k, v.simplify) :: ·) ih

end Value

/-- Parameters with the same names, whose values are respelled any number of times. -/
def Params.Respelled (p q : Params) : Prop :=
  List.Forall₂ (fun e f => e.1 = f.1 ∧ Relation.ReflTransGen Value.Respelled e.2 f.2) p q

namespace Params

variable {p q : Params}

theorem Respelled.lookup (h : p.Respelled q) (name : String) :
    Option.Rel (Relation.ReflTransGen Value.Respelled) (p.lookup name) (q.lookup name) := by
  induction h with
  | nil => exact .none
  | @cons e f p q hef _ ih =>
    obtain ⟨k, x⟩ := e
    obtain ⟨l, y⟩ := f
    obtain ⟨rfl, hxy⟩ : k = l ∧ Relation.ReflTransGen Value.Respelled x y := hef
    rw [List.lookup_cons, List.lookup_cons]
    cases name == k with
    | true => exact .some hxy
    | false => exact ih

theorem Respelled.admissible (h : p.Respelled q) (hp : p.Admissible) : q.Admissible := by
  intro f hf
  obtain ⟨e, he, hname, _⟩ := exists_mem_of_forall₂ h hf
  rw [← hname]
  exact hp e he

end Params

namespace Template

open Value

/-! ## The walk -/

section Walk

variable {op : Operator} {v : Variable} {sep : Char}

/-- An integer that is written is written as its text. -/
theorem unless_encodeValue_int (p : Place) (n : Int) :
    Unless .tooManyDigits (encodeValue op v sep p (.int n))
      (encodeValue op v sep p (.text (toString n))) := by
  cases hw : (Value.int n).isWritable with
  | true => exact Or.inr (encodeValue_simplify_scalar op v sep p rfl hw)
  | false => exact Or.inl (encodeValue_of_not_isWritable op v sep p rfl hw)

theorem encodeValue_number (p : Place) (x : Binary64) :
    encodeValue op v sep p (.float x) =
      encodeValue op v sep p (.text (String.ofList (x.text .plain))) := by
  show (do return some (← encodeText op v p (x.text .plain))) =
    (do return some (← encodeText op v p (String.ofList (x.text .plain)).toList))
  rw [String.toList_ofList]

section Inside

variable {x y : Value}
  (h : ∀ p, Unless .tooManyDigits (encodeValue op v sep p x) (encodeValue op v sep p y))

include h

theorem unless_encodeItems (p : Place) (i : Nat) (before after : List Value) :
    Unless .tooManyDigits (encodeItems op v sep p i (before ++ x :: after))
      (encodeItems op v sep p i (before ++ y :: after)) := by
  induction before generalizing i with
  | nil => exact (h _).bind fun _ => .refl _
  | cons z before ih => exact (Unless.refl _).bind fun _ => (ih (i + 1)).bind fun _ => .refl _

theorem unless_encodeEntries (p : Place) (key : Value) (before after : List (Value × Value)) :
    Unless .tooManyDigits (encodeEntries op v sep p (before ++ (key, x) :: after))
      (encodeEntries op v sep p (before ++ (key, y) :: after)) := by
  induction before with
  | nil => exact (Unless.refl _).bind fun _ => (h _).bind fun _ => .refl _
  | cons e before ih =>
    exact (Unless.refl _).bind fun _ => (Unless.refl _).bind fun _ => ih.bind fun _ => .refl _

/-- What is put in an item's place leaves the sequence with items. -/
theorem unless_encodeList (p : Place) (before after : List Value) :
    Unless .tooManyDigits (encodeValue op v sep p (.list (before ++ x :: after)))
      (encodeValue op v sep p (.list (before ++ y :: after))) := by
  have hitems : ∀ z, (before ++ z :: after).isEmpty = false := fun z => by cases before <;> rfl
  rw [encodeValue, encodeValue, hitems, hitems]
  exact (unless_encodeItems h p 0 before after).bind fun _ => .refl _

theorem unless_encodeMap (p : Place) (key : Value) (before after : List (Value × Value)) :
    Unless .tooManyDigits (encodeValue op v sep p (.map (before ++ (key, x) :: after)))
      (encodeValue op v sep p (.map (before ++ (key, y) :: after))) := by
  have hentries : ∀ z, (before ++ (key, z) :: after).isEmpty = false := fun z => by
    cases before <;> rfl
  rw [encodeValue, encodeValue, hentries, hentries]
  exact (unless_encodeEntries h p key before after).bind fun _ => .refl _

end Inside

/-- A part of a value spelled in another way, and the walk over it. -/
theorem unless_encodeValue {x y : Value} (h : Respelled x y) (p : Place) :
    Unless .tooManyDigits (encodeValue op v sep p x.simplify)
      (encodeValue op v sep p y.simplify) := by
  induction h generalizing p with
  | bool b => exact .refl _
  | int n => exact unless_encodeValue_int p n
  | whole h =>
    rw [simplify, h]
    exact .refl _
  | number h =>
    rw [simplify, h]
    exact Or.inr (encodeValue_number p _)
  | tuple items => exact .refl _
  | listNulls items =>
    rw [simplify, simplify, simplifyItems_dropNulls]
    exact .refl _
  | tupleNulls items =>
    rw [simplify, simplify, simplifyItems_dropNulls]
    exact .refl _
  | mapNulls entries =>
    rw [simplify, simplify, simplifyEntries_dropNullEntries]
    exact .refl _
  | inList before after h ih =>
    rw [simplify, simplify, simplifyItems_append, simplifyItems_append,
      simplifyItems_cons h.ne_null.1, simplifyItems_cons h.ne_null.2]
    exact unless_encodeList ih p _ _
  | inTuple before after h ih =>
    rw [simplify, simplify, simplifyItems_append, simplifyItems_append,
      simplifyItems_cons h.ne_null.1, simplifyItems_cons h.ne_null.2]
    exact unless_encodeList ih p _ _
  | inMap before after key h ih =>
    rw [simplify, simplify, simplifyEntries_append, simplifyEntries_append,
      simplifyEntries_cons h.ne_null.1, simplifyEntries_cons h.ne_null.2]
    exact unless_encodeMap ih p key _ _

end Walk

/-! ## Variables and templates -/

theorem unless_variable (op : Operator) (v : Variable) {x y : Value}
    (h : Relation.ReflTransGen Respelled x y) :
    Unless .tooManyDigits (v.expand op x.simplify) (v.expand op y.simplify) := by
  induction h with
  | refl => exact .refl _
  | tail _ hstep ih =>
    refine ih.trans ?_
    rw [Variable.expand_of_ne_null op v (simplify_ne_null hstep.ne_null.1),
      Variable.expand_of_ne_null op v (simplify_ne_null hstep.ne_null.2)]
    exact (unless_encodeValue hstep _).map _

theorem unless_expand (t : Template) {p q : Params} (h : p.Respelled q) :
    Unless .tooManyDigits (t.expand p) (t.expand q) := by
  have hvalue : ∀ op (v : Variable),
      Unless .tooManyDigits (v.expand op (v.value p)) (v.expand op (v.value q)) := by
    intro op v
    have hlookup := h.lookup v.key
    rw [Variable.value, Variable.value]
    generalize p.lookup v.key = x at hlookup
    generalize q.lookup v.key = y at hlookup
    cases hlookup with
    | none => exact .refl _
    | some hxy => exact unless_variable op v hxy
  refine (Unless.mapM fun part _ => ?_).bind fun _ => .refl _
  cases part with
  | literal s => exact .refl _
  | expression e => exact (Unless.mapM fun v _ => hvalue e.operator v).bind fun _ => .refl _

/-- Values in another spelling make the same URL, or are refused for the same variable, unless
there is an integer of too many digits to begin with. -/
theorem url_respelled {source : String} {t : Template} (ht : parse source = .ok t) {p q : Params}
    (hp : p.Admissible) (h : p.Respelled q) :
    (p.WritableIn t → url source p ≠ .error .tooManyDigits) ∧
      (url source p ≠ .error .tooManyDigits → url source p = url source q ∧
        ((∃ u, url source p = .ok u) ∨
          ∃ v, url source p = .error (.lengthOfComposite source v))) := by
  refine ⟨url_ne_tooManyDigits ht hp, fun hdigits => ?_⟩
  have hexpand : t.expand p = t.expand q := by
    refine (unless_expand t h).resolve_left fun hstop => hdigits ?_
    exact (url_eq_error_iff ht hp).2 hstop
  refine ⟨by rw [url_of_admissible ht hp, url_of_admissible ht (h.admissible hp), hexpand], ?_⟩
  cases hp' : t.expand p with
  | ok u => exact Or.inl ⟨u, (url_eq_ok_iff ht hp).2 hp'⟩
  | error e =>
    have he := (url_eq_error_iff ht hp).2 hp'
    cases e with
    | lengthOfComposite v => exact Or.inr ⟨v, he⟩
    | tooManyDigits => exact absurd he hdigits

/-- A tuple two levels down, with a gap, a truth value and a negative zero, and an integer whose
text is cut. -/
theorem url_respelled_nested :
    let source := "/{d*}{;n:4}"
    let zero : Binary64 := .finite true ⟨0, by decide⟩
    let p : Params :=
      [("d", .map [(.text "k", .tuple [.null, .bool true, .float zero])]), ("n", .int 12345)]
    let q : Params :=
      [("d", .map [(.text "k", .list [.text "true", .text "0"])]), ("n", .text "12345")]
    (∃ t, parse source = .ok t) ∧ p.Admissible ∧ p.Respelled q ∧
      url source p = .ok "/k.true,k.0;n=1234" ∧ url source q = .ok "/k.true,k.0;n=1234" := by
  intro source zero p q
  obtain ⟨t, ht⟩ : ∃ t, parse "/{d*}{;n:4}" = .ok t := ⟨_, rfl⟩
  have hp : p.Admissible := by decide
  have hzero : zero.toInt? = some 0 := by decide +kernel
  have hmap : Relation.ReflTransGen Respelled
      (.map [(.text "k", .tuple [.null, .bool true, .float zero])])
      (.map [(.text "k", .list [.text "true", .text "0"])]) := by
    refine .head (.inMap [] [] (.text "k") (.tupleNulls [.null, .bool true, .float zero])) ?_
    refine .head (.inMap [] [] (.text "k") (.tuple [.bool true, .float zero])) ?_
    refine .head (.inMap [] [] (.text "k") (.inList [] [.float zero] (.bool true))) ?_
    exact .single (.inMap [] [] (.text "k") (.inList [.text "true"] [] (.whole hzero)))
  have hint : Relation.ReflTransGen Respelled (.int 12345) (.text "12345") :=
    .single (.int 12345)
  have h : p.Respelled q := .cons ⟨rfl, hmap⟩ (.cons ⟨rfl, hint⟩ .nil)
  have hurl : url source p = .ok "/k.true,k.0;n=1234" :=
    Outcome.eq_ok_of_toOption (by decide +kernel)
  have hsame := ((url_respelled ht hp h).2 (by rw [hurl]; rintro ⟨⟩)).1
  exact ⟨⟨t, ht⟩, hp, h, hurl, hsame ▸ hurl⟩

/-- The text of a number makes a URL where the number has too many digits to make one. -/
theorem long_number_is_not_its_text :
    let q : Params := [("n", .text (toString Decimal.tooLong))]
    tooLongParams.Admissible ∧ tooLongParams.Respelled q ∧
      url "/{n}" tooLongParams = .error .tooManyDigits ∧ ∃ u, url "/{n}" q = .ok u := by
  intro q
  obtain ⟨t, ht, hvars⟩ : ∃ t, parse "/{n}" = .ok t ∧ t.vars = [⟨"n", "n", .none, none⟩] :=
    ⟨_, rfl, rfl⟩
  have hp : tooLongParams.Admissible := by decide
  have h : tooLongParams.Respelled q := .cons ⟨rfl, .single (.int Decimal.tooLong)⟩ .nil
  refine ⟨hp, h, url_of_tooLong ht hvars hp rfl, (exists_url_iff ht (h.admissible hp)).2 ?_⟩
  rw [hvars]
  rintro v hv
  rw [List.mem_singleton.1 hv]
  refine ⟨rfl, ?_⟩
  rintro ⟨hlength, _⟩
  cases hlength

end Template
end RouteTemplate
