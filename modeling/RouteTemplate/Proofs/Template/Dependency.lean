/-
The names of a template are what its URLs depend on, neither more nor less.

Nothing else is looked up, so parameters that agree on the names come to the
same.  Nothing is looked up in vain: given as null a name adds no text, and given
as a text it adds one wherever it stands, whatever is cut, encoded or joined there,
while all other variables keep what they had.  So the second URL is longer.
-/
import RouteTemplate.Proofs.Template.Names
import RouteTemplate.Proofs.Template.Output
import RouteTemplate.Proofs.Template.Spelling
import RouteTemplate.Proofs.Template.Url

namespace RouteTemplate
namespace Outcome

variable {ε α β : Type}

/-! ## Runs that grow -/

/-- Two runs that succeed, the second with a result no smaller than the first,
and larger by `gap` where that is asked for. -/
def Grows (size : β → Nat) (gap : Nat) (larger : Prop) (x y : Except ε β) : Prop :=
  ∃ a b, x = .ok a ∧ y = .ok b ∧ size a ≤ size b ∧ (larger → size a + gap ≤ size b)

theorem Grows.imp {size : β → Nat} {gap : Nat} {larger larger' : Prop} {x y : Except ε β}
    (h : Grows size gap larger x y) (himp : larger' → larger) : Grows size gap larger' x y := by
  obtain ⟨a, b, ha, hb, hle, hgap⟩ := h
  exact ⟨a, b, ha, hb, hle, fun h => hgap (himp h)⟩

def total (size : β → Nat) : List β → Nat
  | [] => 0
  | y :: ys => size y + total size ys

theorem total_cons (size : β → Nat) (y : β) (ys : List β) :
    total size (y :: ys) = size y + total size ys := rfl

theorem length_flatten_eq_total (ys : List (List α)) :
    ys.flatten.length = total List.length ys := by
  induction ys with
  | nil => rfl
  | cons y ys ih => rw [List.flatten_cons, List.length_append, total_cons, ih]

/-- A traversal grows by what its steps grow, and one of them is enough. -/
theorem Grows.mapM {size : β → Nat} {gap : Nat} {larger : α → Prop} {f g : α → Except ε β}
    {xs : List α} (h : ∀ x ∈ xs, Grows size gap (larger x) (f x) (g x)) :
    Grows (total size) gap (∃ x ∈ xs, larger x) (xs.mapM f) (xs.mapM g) := by
  induction xs with
  | nil => exact ⟨[], [], rfl, rfl, Nat.le_refl _, fun ⟨_, hx, _⟩ => absurd hx List.not_mem_nil⟩
  | cons x xs ih =>
    obtain ⟨a, b, ha, hb, hle, hgap⟩ := h x List.mem_cons_self
    obtain ⟨as, bs, has, hbs, hles, hgaps⟩ := ih fun y hy => h y (List.mem_cons_of_mem x hy)
    refine ⟨a :: as, b :: bs, ?_, ?_, ?_, ?_⟩
    · rw [List.mapM_cons, ha, has]
      rfl
    · rw [List.mapM_cons, hb, hbs]
      rfl
    · rw [total_cons, total_cons]
      omega
    · rintro ⟨y, hy, hlarger⟩
      rw [total_cons, total_cons]
      rcases List.mem_cons.1 hy with rfl | hy
      · have := hgap hlarger
        omega
      · have := hgaps ⟨y, hy, hlarger⟩
        omega

end Outcome

namespace Template

open Outcome

/-! ## Parameters that agree -/

/-- A template comes to the same where each of its variables does. -/
theorem expand_congr {t : Template} {p q : Params}
    (h : ∀ e ∈ t.expressions, ∀ v ∈ e.vars,
      v.expand e.operator (v.value p) = v.expand e.operator (v.value q)) :
    t.expand p = t.expand q := by
  have hparts : t.parts.mapM (Part.expand p) = t.parts.mapM (Part.expand q) := by
    refine mapM_congr fun part hpart => ?_
    cases part with
    | literal s => rfl
    | expression e =>
      have he : e ∈ t.expressions := List.mem_filterMap.2 ⟨_, hpart, rfl⟩
      have hvars : (e.vars.mapM fun v => v.expand e.operator (v.value p)) =
          e.vars.mapM fun v => v.expand e.operator (v.value q) := mapM_congr (h e he)
      show Expression.expand e p = Expression.expand e q
      rw [Expression.expand, Expression.expand, hvars]
  rw [expand, expand, hparts]

theorem expand_eq_of_lookup_eq {t : Template} {p q : Params}
    (h : ∀ v ∈ t.vars, p.lookup v.key = q.lookup v.key) : t.expand p = t.expand q := by
  refine expand_congr fun e he v hv => ?_
  rw [Variable.value, Variable.value, h v (List.mem_flatMap.2 ⟨e, he, hv⟩)]

/-! ## The size of an expression -/

/-- The room that the text of a variable takes, a separator included. -/
def room : Option (List Char) → Nat
  | some s => s.length + 1
  | none => 0

/-- What stands around the values of an expression: its closer or else its lead. -/
def Expression.edge (e : Expression) : Nat :=
  match e.closer with
  | some _ => 1
  | none => e.operator.lead.length

/-- The length of an expression whose variables take so much room. -/
def Expression.span (e : Expression) : Nat → Nat
  | 0 => 0
  | n + 1 => e.edge + n

theorem Expression.span_le (e : Expression) {m n : Nat} (h : m ≤ n) : e.span m ≤ e.span n := by
  cases m with
  | zero => exact Nat.zero_le _
  | succ m =>
    cases n with
    | zero => omega
    | succ n =>
      rw [span, span]
      omega

/-- A text that is not empty shows, also where it is the first. -/
theorem Expression.span_lt (e : Expression) {m n : Nat} (h : m + 2 ≤ n) :
    e.span m + 1 ≤ e.span n := by
  cases n with
  | zero => omega
  | succ n =>
    cases m with
    | zero =>
      rw [span, span]
      omega
    | succ m =>
      rw [span, span]
      omega

theorem total_room_some (c : Char) (t : List Char) (ts : List (List Char)) :
    total room ((t :: ts).map some) = (List.intercalate [c] (t :: ts)).length + 1 := by
  induction ts generalizing t with
  | nil =>
    rw [List.intercalate_singleton]
    rfl
  | cons u us ih =>
    rw [List.map_cons, total_cons, ih, List.intercalate_cons_cons, List.length_append,
      List.length_append, room, List.length_singleton]
    omega

/-- What has no text takes no room. -/
theorem total_room (rs : List (Option (List Char))) :
    total room rs = total room (rs.reduceOption.map some) := by
  induction rs with
  | nil => rfl
  | cons r rs ih =>
    cases r with
    | none =>
      rw [total_cons, ih, List.reduceOption_cons_of_none]
      exact Nat.zero_add _
    | some s => rw [total_cons, ih, List.reduceOption_cons_of_some, List.map_cons, total_cons]

theorem Expression.length_assemble (e : Expression) (rs : List (Option (List Char))) :
    (e.assemble rs.reduceOption).length = e.span (total room rs) := by
  rw [total_room]
  cases rs.reduceOption with
  | nil => rfl
  | cons t ts =>
    rw [e.assemble_of_ne_nil (List.cons_ne_nil t ts), total_room_some e.operator.separator, span,
      edge]
    cases e.closer with
    | some c =>
      rw [List.length_append]
      exact Nat.add_comm _ _
    | none => exact List.length_append

/-! ## Growth of expressions and templates -/

/-- An expression grows with its variables, if what they gain shows in its length. -/
theorem Expression.grows_expand {e : Expression} {p q : Params} {gap : Nat}
    {larger : Variable → Prop}
    (h : ∀ v ∈ e.vars, Grows room gap (larger v) (v.expand e.operator (v.value p))
      (v.expand e.operator (v.value q)))
    (hspan : (∃ v ∈ e.vars, larger v) → ∀ m n, m + gap ≤ n → e.span m + 1 ≤ e.span n) :
    Grows List.length 1 (∃ v ∈ e.vars, larger v) (e.expand p) (e.expand q) := by
  obtain ⟨rs, ss, hrs, hss, hle, hgap⟩ := Grows.mapM h
  refine ⟨e.assemble rs.reduceOption, e.assemble ss.reduceOption, ?_, ?_, ?_, fun h => ?_⟩
  · rw [Expression.expand, hrs]
    rfl
  · rw [Expression.expand, hss]
    rfl
  · rw [e.length_assemble, e.length_assemble]
    exact e.span_le hle
  · rw [e.length_assemble, e.length_assemble]
    exact hspan h _ _ (hgap h)

theorem grows_expand {t : Template} {p q : Params} {larger : Expression → Prop}
    (h : ∀ e ∈ t.expressions, Grows List.length 1 (larger e) (e.expand p) (e.expand q)) :
    Grows String.length 1 (∃ e ∈ t.expressions, larger e) (t.expand p) (t.expand q) := by
  have hpart : ∀ part ∈ t.parts, Grows List.length 1 (∃ e ∈ part.expression?, larger e)
      (part.expand p) (part.expand q) := by
    intro part hpart
    cases part with
    | literal s => exact ⟨_, _, rfl, rfl, Nat.le_refl _, fun ⟨_, he, _⟩ => by cases he⟩
    | expression e =>
      refine (h e (List.mem_filterMap.2 ⟨_, hpart, rfl⟩)).imp ?_
      rintro ⟨e', he', hlarger⟩
      cases he'
      exact hlarger
  obtain ⟨ss, ts, hss, hts, hle, hgap⟩ := Grows.mapM hpart
  have hlength (us : List (List Char)) :
      (String.ofList us.flatten).length = total List.length us := by
    rw [String.length_ofList, length_flatten_eq_total]
  refine ⟨String.ofList ss.flatten, String.ofList ts.flatten, ?_, ?_, ?_, ?_⟩
  · rw [expand, hss]
    rfl
  · rw [expand, hts]
    rfl
  · rw [hlength, hlength]
    exact hle
  · rintro ⟨e, he, hlarger⟩
    obtain ⟨part, hpart, hpe⟩ := List.mem_filterMap.1 he
    rw [hlength, hlength]
    exact hgap ⟨part, hpart, e, hpe, hlarger⟩

/-! ## A name that is given as a text -/

variable {v : Variable}

theorem Place.qualify_ne_nil {lead text : List Char} {mark : Char} (h : text ≠ []) :
    qualify lead mark text ≠ [] := by
  unfold qualify
  split
  · exact h
  · exact List.append_ne_nil_of_right_ne_nil _ (List.cons_ne_nil _ _)

/-- The place of the variable itself takes every text, and shows one that is not empty. -/
theorem exists_encodeText_start (op : Operator) (v : Variable) (name s : List Char) :
    ∃ r, encodeText op v (Place.start name) s = .ok r ∧
      ((∀ n, v.modifier = .first n → 0 < n) → s ≠ [] → r ≠ []) := by
  by_cases hm : ∃ n, v.modifier = .first n
  · obtain ⟨n, hn⟩ := hm
    rw [encodeText_first hn]
    refine ⟨_, rfl, fun hpos hs => Place.qualify_ne_nil (op.charset.encode_ne_nil ?_)⟩
    rw [Ne, List.take_eq_nil_iff, not_or]
    exact ⟨Nat.ne_of_gt (hpos n hn), hs⟩
  · rw [encodeText_whole fun n hn => hm ⟨n, hn⟩]
    exact ⟨_, rfl, fun _ hs => Place.qualify_ne_nil (op.charset.encode_ne_nil hs)⟩

theorem exists_nameText (op : Operator) (name r : List Char) :
    ∃ text, nameText op name (some r) = some text ∧ (r ≠ [] → text ≠ []) := by
  cases r with
  | nil => exact ⟨_, rfl, fun h => absurd rfl h⟩
  | cons c cs =>
    exact ⟨_, rfl, fun _ => List.append_ne_nil_of_right_ne_nil _ (List.cons_ne_nil _ _)⟩

theorem exists_expand_text (op : Operator) (v : Variable) (s : String) :
    ∃ r, v.expand op (.text s) = .ok (some r) ∧
      ((∀ n, v.modifier = .first n → 0 < n) → s.toList ≠ [] → r ≠ []) := by
  obtain ⟨r, hr, hshow⟩ := exists_encodeText_start op v (encodeName v.name) s.toList
  have hexpand : v.expand op (.text s) = .ok
      (if op.named && !v.modifier.explodes then nameText op (encodeName v.name) (some r)
        else some r) := by
    rw [Variable.expand_of_ne_null op v (fun h => by cases h), encodeValue, hr]
    rfl
  rw [hexpand]
  split
  · obtain ⟨text, htext, hne⟩ := exists_nameText op (encodeName v.name) r
    rw [htext]
    exact ⟨text, rfl, fun hpos hs => hne (hshow hpos hs)⟩
  · exact ⟨r, rfl, hshow⟩

/-- Parameters that only say something of one name. -/
def only (name : String) (value : Value) : Params := [(name, value)]

theorem lookup_only_self (name : String) (value : Value) :
    (only name value).lookup name = some value := by
  rw [only, List.lookup_cons, beq_self_eq_true]

theorem lookup_only_of_ne {name other : String} (h : other ≠ name) (value : Value) :
    (only name value).lookup other = none := by
  rw [only, List.lookup_cons, beq_eq_false_iff_ne.2 h]
  rfl

theorem admissible_only {name : String} (h : name ≠ "self") (value : Value) :
    (only name value).Admissible := by
  intro e he
  rw [List.mem_singleton.1 he]
  exact h

section

variable {n : String}

theorem grows_variable (op : Operator) (hpos : ∀ m, v.modifier = .first m → 0 < m) :
    Grows room 2 (v.key = n) (v.expand op (v.value (only n .null)))
      (v.expand op (v.value (only n (.text "a")))) := by
  by_cases hkey : v.key = n
  · obtain ⟨r, hr, hshow⟩ := exists_expand_text op v "a"
    have hlength : 0 < r.length := List.length_pos_of_ne_nil (hshow hpos (by decide))
    refine ⟨none, some r, ?_, ?_, Nat.zero_le _, fun _ => ?_⟩
    · rw [Variable.value, hkey, lookup_only_self]
      rfl
    · rw [Variable.value, hkey, lookup_only_self]
      exact hr
    · show 0 + 2 ≤ r.length + 1
      omega
  · rw [Variable.value, Variable.value, lookup_only_of_ne hkey, lookup_only_of_ne hkey]
    cases v.fallback with
    | none => exact ⟨none, none, rfl, rfl, Nat.le_refl _, fun h => absurd h hkey⟩
    | some s =>
      obtain ⟨r, hr, _⟩ := exists_expand_text op v s
      exact ⟨some r, some r, hr, hr, Nat.le_refl _, fun h => absurd h hkey⟩

/-- The URL is longer where a name of the template is given as a text. -/
theorem grows_template {t : Template}
    (hpos : ∀ v ∈ t.vars, ∀ m, v.modifier = .first m → 0 < m) :
    Grows String.length 1 (∃ v ∈ t.vars, v.key = n)
      (t.expand (only n .null)) (t.expand (only n (.text "a"))) := by
  have hexpressions : Grows String.length 1 (∃ e ∈ t.expressions, ∃ v ∈ e.vars, v.key = n)
      (t.expand (only n .null)) (t.expand (only n (.text "a"))) := by
    refine grows_expand fun e he => Expression.grows_expand (fun v hv => ?_) fun _ _ _ =>
      e.span_lt
    exact grows_variable e.operator (hpos v (List.mem_flatMap.2 ⟨e, he, hv⟩))
  refine hexpressions.imp ?_
  rintro ⟨v, hv, hkey⟩
  obtain ⟨e, he, hve⟩ := List.mem_flatMap.1 hv
  exact ⟨e, he, v, hve, hkey⟩

end

/-! ## Names and keys -/

/-- Without a slash in its specification a variable is looked up by its name. -/
theorem key_eq_name {spec : List Char} {v : Variable} (h : readVariable spec = .ok v)
    (hslash : '/' ∉ beforeFallback spec) : v.key = v.name := by
  obtain ⟨_, left, name, key, hmodifier, hread, hname, hkey⟩ := readVariable_eq_ok h
  obtain ⟨_, mark, hmark, _⟩ := readModifier_eq_ok hmodifier
  have hleft : '/' ∉ left := fun hmem => hslash (hmark ▸ List.mem_append_left mark hmem)
  obtain rfl := name_eq_of_readName hleft hread
  rw [hname, hkey]
  cases key with
  | nil => rfl
  | cons c cs => rfl

theorem key_eq_name_of_mem {source : String} {t : Template} (ht : parse source = .ok t)
    (hslash : ∀ spec ∈ specs source, '/' ∉ beforeFallback spec) {v : Variable} (hv : v ∈ t.vars) :
    v.key = v.name := by
  obtain ⟨spec, hspec, h⟩ := exists_mem_of_forall₂ (forall₂_specs ht) hv
  exact key_eq_name h (hslash spec hspec)

theorem pos_of_first_of_mem {source : String} {t : Template} (ht : parse source = .ok t)
    {v : Variable} (hv : v ∈ t.vars) : ∀ m, v.modifier = .first m → 0 < m := by
  obtain ⟨_, _, h⟩ := exists_mem_of_forall₂ (forall₂_specs ht) hv
  obtain ⟨_, _, _, _, hmodifier, _⟩ := readVariable_eq_ok h
  exact (readModifier_eq_ok hmodifier).1

/-! ## Names and URLs -/

/-- The names are each listed once, as they first appear; they decide on the URL,
or on why there is none; and each of them makes a difference. -/
theorem variableNames_are_dependencies {source : String} {t : Template}
    (ht : parse source = .ok t) (hslash : ∀ spec ∈ specs source, '/' ∉ beforeFallback spec) :
    t.variableNames.Nodup ∧ ByFirstAppearance t.variableNames (t.vars.map Variable.name) ∧
      (∀ p q : Params, p.Admissible → q.Admissible →
        (∀ n ∈ t.variableNames, p.lookup n = q.lookup n) → url source p = url source q) ∧
      ∀ n ∈ t.variableNames, n ≠ "self" → ∃ p q : Params, p.Admissible ∧ q.Admissible ∧
        (∀ m, m ≠ n → p.lookup m = q.lookup m) ∧
        ∃ u w, url source p = .ok u ∧ url source q = .ok w ∧ u ≠ w := by
  have hnames := byFirstAppearance_variableNames t
  have hmem : ∀ n, n ∈ t.variableNames ↔ ∃ v ∈ t.vars, v.name = n := fun n => by
    rw [hnames.mem_iff, List.mem_map]
  refine ⟨hnames.nodup, hnames, fun p q hp hq hagree => ?_, fun n hn hself => ?_⟩
  · have hexpand : t.expand p = t.expand q := by
      refine expand_eq_of_lookup_eq fun v hv => ?_
      rw [key_eq_name_of_mem ht hslash hv]
      exact hagree v.name ((hmem _).2 ⟨v, hv, rfl⟩)
    rw [url_of_admissible ht hp, url_of_admissible ht hq, hexpand]
  · have hp := admissible_only hself .null
    have hq := admissible_only hself (.text "a")
    obtain ⟨v, hv, hname⟩ := (hmem n).1 hn
    obtain ⟨u, w, hu, hw, _, hgap⟩ := grows_template (n := n) fun v hv => pos_of_first_of_mem ht hv
    have hlonger := hgap ⟨v, hv, (key_eq_name_of_mem ht hslash hv).trans hname⟩
    refine ⟨_, _, hp, hq, fun m hm => ?_, u, w, ?_, ?_, ?_⟩
    · rw [lookup_only_of_ne hm, lookup_only_of_ne hm]
    · rw [url_of_admissible ht hp, hu]
      rfl
    · rw [url_of_admissible ht hq, hw]
      rfl
    · rintro rfl
      omega

/-- A name that is cut, one that is repeated, and slashes everywhere but in names. -/
theorem variableNames_are_dependencies_search :
    let source := "/u{/id:3}{?q=a/b,id*}{a[]/}"
    ∃ t, parse source = .ok t ∧ (∀ spec ∈ specs source, '/' ∉ beforeFallback spec) ∧
      t.variableNames = ["id", "q", "a"] ∧
      t.variableNames.Nodup ∧ ByFirstAppearance t.variableNames (t.vars.map Variable.name) ∧
      (∀ p q : Params, p.Admissible → q.Admissible →
        (∀ n ∈ t.variableNames, p.lookup n = q.lookup n) → url source p = url source q) ∧
      ∀ n ∈ t.variableNames, n ≠ "self" → ∃ p q : Params, p.Admissible ∧ q.Admissible ∧
        (∀ m, m ≠ n → p.lookup m = q.lookup m) ∧
        ∃ u w, url source p = .ok u ∧ url source q = .ok w ∧ u ≠ w := by
  have hslash : ∀ spec ∈ specs "/u{/id:3}{?q=a/b,id*}{a[]/}", '/' ∉ beforeFallback spec := by
    decide
  exact ⟨_, rfl, hslash, by decide, variableNames_are_dependencies rfl hslash⟩

end Template
end RouteTemplate
