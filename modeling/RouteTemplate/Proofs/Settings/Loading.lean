/-
Settings from a document that is there.

A document that is a mapping is read as settings, and one that is null, or no document at all,
stands for the defaults.  Of any other document it is asked whether it is blank before it is
asked what it is: an empty list, an empty text, a zero or a false stands for the defaults as
well, and only the rest is refused.

A document is shown down to the depth at which settings lie, and what is deeper is cut off.
Nothing hangs on where that is done: shown further down it comes to the same settings, or to
the same faults.
-/
import RouteTemplate.Proofs.Outcome
import RouteTemplate.Proofs.Template.Scalar
import RouteTemplate.Settings.Load

namespace RouteTemplate

namespace Value

def isCollection : Value → Bool
  | .list _ | .tuple _ | .map _ => true
  | _ => false

def isMapping : Value → Bool
  | .map _ => true
  | _ => false

/-- A value with its collections shown down to a depth, and the same value shown further down. -/
def SameTo : Nat → Value → Value → Prop
  | 0, v, w => v = w ∨ (v.isCollection = true ∧ w.isCollection = true)
  | n + 1, v, w =>
    v = w ∨ (∃ xs ys, v = .list xs ∧ w = .list ys ∧ xs.length = ys.length) ∨
      ∃ es fs, v = .map es ∧ w = .map fs ∧
        List.Forall₂ (fun e f => e.1 = f.1 ∧ SameTo n e.2 f.2) es fs

/-- Entries under the same keys, each shown down to a depth, and further down. -/
def SameEntries (n : Nat) : List (Value × Value) → List (Value × Value) → Prop :=
  List.Forall₂ fun e f => e.1 = f.1 ∧ SameTo n e.2 f.2

theorem sameTo_refl (n : Nat) (v : Value) : SameTo n v v := by
  cases n with
  | zero => exact Or.inl rfl
  | succ n => exact Or.inl rfl

end Value

namespace Yaml

open Value

theorem Document.sameTo_valueAt (d : Document) (n k id : Nat) :
    SameTo n (d.valueAt n id) (d.valueAt (n + k) id) := by
  induction n generalizing id with
  | zero =>
    cases k with
    | zero => exact Or.inl rfl
    | succ k =>
      rw [Nat.zero_add, valueAt, valueAt]
      cases d.shapes.getD id none with
      | none => exact Or.inl rfl
      | some shape =>
        cases shape with
        | scalar v => exact Or.inl rfl
        | list _ | pairs _ | set _ | map _ => exact Or.inr ⟨rfl, rfl⟩
  | succ n ih =>
    rw [Nat.succ_add, valueAt, valueAt]
    cases d.shapes.getD id none with
    | none => exact Or.inl rfl
    | some shape =>
      cases shape with
      | scalar v => exact Or.inl rfl
      | set members => exact Or.inl rfl
      -- No setting is inside a list, so that of its items only their number is kept in view.
      | list items => exact Or.inr (Or.inl ⟨_, _, rfl, rfl, by simp⟩)
      | pairs entries => exact Or.inr (Or.inl ⟨_, _, rfl, rfl, by simp⟩)
      | map entries =>
        refine Or.inr (Or.inr ⟨_, _, rfl, rfl, ?_⟩)
        rw [List.forall₂_map_left_iff, List.forall₂_map_right_iff, List.forall₂_same]
        exact fun e _ => ⟨rfl, ih e.2⟩

theorem exists_read_of_le {text : String} {m n : Nat} (hmn : m ≤ n) {w : Value}
    (h : read n text = .ok w) : ∃ v, read m text = .ok v ∧ SameTo m v w := by
  obtain ⟨k, rfl⟩ := Nat.exists_eq_add_of_le hmn
  obtain ⟨g?, hg, h⟩ := Outcome.bind_eq_ok.1 h
  cases g? with
  | none =>
    cases h
    exact ⟨.null, Outcome.bind_eq_ok.2 ⟨none, hg, rfl⟩, sameTo_refl m .null⟩
  | some g =>
    obtain ⟨d, hd, h⟩ := Outcome.bind_eq_ok.1 h
    cases h
    exact ⟨_, Outcome.bind_eq_ok.2 ⟨some g, hg, Outcome.bind_eq_ok.2 ⟨d, hd, rfl⟩⟩,
      d.sameTo_valueAt m k d.root⟩

end Yaml

namespace Schema

open Value

variable {α : Type} {n : Nat}

/-! ## How deep a rule looks -/

/-- A rule that looks no deeper into a value than to a depth. -/
def Rule.Within (n : Nat) (rule : Rule α) : Prop :=
  ∀ ⦃name v w⦄, SameTo n v w → rule name v = rule name w

theorem Rule.within_scalar {read? : Value → Option α} (hlist : ∀ items, read? (.list items) = none)
    (htuple : ∀ items, read? (.tuple items) = none) (hmap : ∀ es, read? (.map es) = none) :
    Within 0 (scalar read?) := by
  have hnone {v : Value} (hv : v.isCollection = true) : read? v = none := by
    cases v with
    | list items => exact hlist items
    | tuple items => exact htuple items
    | map es => exact hmap es
    | _ => cases hv
  rintro name v w (rfl | ⟨hv, hw⟩)
  · rfl
  · rw [scalar, scalar, hnone hv, hnone hw]

theorem Rule.Within.nullable {rule : Rule α} (h : rule.Within 0) :
    Within 0 (nullable rule) := by
  have hcollection {name : String} {v : Value} (hv : v.isCollection = true) :
      Schema.nullable rule name v = (rule name v).map some := by
    cases v with
    | null => cases hv
    | _ => rfl
  rintro name v w (rfl | ⟨hv, hw⟩)
  · rfl
  · rw [hcollection hv, hcollection hw, h (Or.inr ⟨hv, hw⟩)]

theorem Rule.within_nested {read : List (Value × Value) → Checked α}
    (h : ∀ es fs, SameEntries n es fs → read es = read fs) :
    Within (n + 1) (nested (record read)) := by
  rintro name v w (rfl | ⟨xs, ys, rfl, rfl, _⟩ | ⟨es, fs, rfl, rfl, hes⟩)
  · rfl
  · rfl
  · rw [nested, nested, record, record, h es fs hes]

theorem find?_of_sameEntries {es fs : List (Value × Value)} (h : SameEntries n es fs)
    (name : String) :
    (es.find? (fun e => isKey name e.1) = none ∧ fs.find? (fun e => isKey name e.1) = none) ∨
      ∃ e f, es.find? (fun e => isKey name e.1) = some e ∧
        fs.find? (fun e => isKey name e.1) = some f ∧ SameTo n e.2 f.2 := by
  induction h with
  | nil => exact Or.inl ⟨rfl, rfl⟩
  | @cons e f es fs hef _ ih =>
    obtain ⟨hkey, hvalue⟩ := hef
    rw [List.find?_cons, List.find?_cons, ← hkey]
    cases isKey name e.1 with
    | true => exact Or.inr ⟨e, f, rfl, rfl, hvalue⟩
    | false => exact ih

theorem given_of_sameEntries {es fs : List (Value × Value)} (h : SameEntries n es fs)
    (names : List String) :
    (given es names = none ∧ given fs names = none) ∨
      ∃ name v w, given es names = some (name, v) ∧ given fs names = some (name, w) ∧
        SameTo n v w := by
  induction names with
  | nil => exact Or.inl ⟨rfl, rfl⟩
  | cons name names ih =>
    rw [given, given] at ih ⊢
    rw [List.findSome?_cons, List.findSome?_cons]
    rcases find?_of_sameEntries h name with ⟨he, hf⟩ | ⟨e, f, he, hf, hef⟩
    · rw [he, hf]
      exact ih
    · rw [he, hf]
      exact Or.inr ⟨name, e.2, f.2, rfl, rfl, hef⟩

/-- A field whose rule looks no deeper is not told apart. -/
theorem Rule.Within.optional_eq {rule : Rule α} (h : rule.Within n) {es fs : List (Value × Value)}
    (hes : SameEntries n es fs) (names : List String) (absent : α) :
    Schema.optional es names absent rule = Schema.optional fs names absent rule := by
  rw [Schema.optional, Schema.optional]
  rcases given_of_sameEntries hes names with ⟨he, hf⟩ | ⟨name, v, w, he, hf, hvw⟩
  · rw [he, hf]
  · rw [he, hf]
    exact h hvw

theorem within_text : Rule.Within 0 (scalar text?) :=
  Rule.within_scalar (fun _ => rfl) (fun _ => rfl) fun _ => rfl

theorem within_flag : Rule.Within 0 (scalar flag?) :=
  Rule.within_scalar (fun _ => rfl) (fun _ => rfl) fun _ => rfl

theorem within_timeout : Rule.Within 0 (scalar ClientSettings.timeout?) :=
  Rule.within_scalar (fun _ => rfl) (fun _ => rfl) fun _ => rfl

end Schema

open Schema Value

variable {es fs : List (Value × Value)}

theorem Policy.ofFields_eq (h : SameEntries 0 es fs) : ofFields es = ofFields fs := by
  rw [ofFields, ofFields, within_flag.optional_eq h]

theorem ClientSettings.ofFields_eq (h : SameEntries 0 es fs) : ofFields es = ofFields fs := by
  rw [ofFields, ofFields, within_text.nullable.optional_eq h, within_timeout.optional_eq h,
    within_flag.optional_eq h]

theorem LogSettings.ofFields_eq (h : SameEntries 0 es fs) : ofFields es = ofFields fs := by
  rw [ofFields, ofFields, within_text.optional_eq h, within_text.optional_eq h]

namespace Settings

theorem ofFields_eq (h : SameEntries 1 es fs) : ofFields es = ofFields fs := by
  have hexpansion : Rule.Within 1 (nested Policy.ofValue) :=
    Rule.within_nested fun _ _ => Policy.ofFields_eq
  have hclient : Rule.Within 1 (nested ClientSettings.ofValue) :=
    Rule.within_nested fun _ _ => ClientSettings.ofFields_eq
  have hlogging : Rule.Within 1 (nested LogSettings.ofValue) :=
    Rule.within_nested fun _ _ => LogSettings.ofFields_eq
  rw [ofFields, ofFields, hexpansion.optional_eq h, hclient.optional_eq h, hlogging.optional_eq h]

theorem ofDocument_map (path : String) (es : List (Value × Value)) :
    ofDocument path (.map es) = (ofValue (.map es)).mapError .invalid := by
  cases es with
  | nil => rfl
  | cons e es => rfl

theorem ofDocument_of_not_isMapping {v : Value} (h : v.isMapping = false) (path : String) :
    ofDocument path v = if v.isBlank then .ok standard else .error (.notMapping path) := by
  cases v with
  | map es => cases h
  | _ => rfl

/-- Settings do not hang on what a document holds deeper than they lie. -/
theorem ofDocument_eq {v w : Value} (h : SameTo depth v w) (path : String) :
    ofDocument path v = ofDocument path w := by
  rcases h with rfl | ⟨xs, ys, rfl, rfl, hlength⟩ | ⟨es, fs, rfl, rfl, hes⟩
  · rfl
  · have hblank : (Value.list xs).isBlank = (Value.list ys).isBlank := by
      rw [isBlank, isBlank, Bool.eq_iff_iff, List.isEmpty_iff_length_eq_zero,
        List.isEmpty_iff_length_eq_zero, hlength]
    rw [ofDocument_of_not_isMapping rfl, ofDocument_of_not_isMapping rfl, hblank]
  · rw [ofDocument_map, ofDocument_map, ofValue, record, record, ofFields_eq hes]

/-! ## Files -/

/-- Where a path leads, the way it is shown. -/
def place (path : Option String) : String := tidyPath (path.getD defaultFile)

/-- The text of the file that a path leads to. -/
def fileAt (files : List (String × String)) (path : Option String) : Option String :=
  if isTooLong (place path) then none
  else
    textAt files (names (place path)) <|>
      (follow files (start (place path)) (components (place path))).bind (textAt files)

theorem fileAt_usual (text : String) : fileAt [(defaultFile, text)] none = some text := by
  have hplace : place none = defaultFile := by decide +kernel
  have hshort : isTooLong defaultFile = false := by decide +kernel
  rw [fileAt, hplace, hshort, if_neg Bool.false_ne_true, textAt]
  simp

/-- What is written in a text, down to a depth. -/
def document (n : Nat) (text : String) : Except Yaml.Fault Value :=
  Yaml.read n (String.ofList (unifyLineEnds text.toList))

theorem exists_document {n : Nat} {text : String} {p : Value → Bool}
    (h : (document n text).toOption.any p = true) : ∃ v, document n text = .ok v ∧ p v = true := by
  obtain ⟨v, hv, hp⟩ := (Option.any_eq_true _ _).1 h
  exact ⟨v, Outcome.eq_ok_of_toOption hv, hp⟩

theorem load_of_fileAt {files : List (String × String)} {path : Option String} {text : String}
    (h : fileAt files path = some text) : load files path = ofText (place path) text := by
  rw [fileAt] at h
  split at h
  · cases h
  · rename_i hshort
    unfold load
    dsimp only
    rw [← place, if_neg hshort, h]

/-- A document that can be read is what the settings are taken from, however deep it is shown. -/
theorem load_eq_ofDocument {files : List (String × String)} {path : Option String} {text : String}
    {n : Nat} {v : Value} (hfile : fileAt files path = some text) (hn : depth ≤ n)
    (hv : document n text = .ok v) : load files path = ofDocument (place path) v := by
  obtain ⟨w, hw, hwv⟩ := Yaml.exists_read_of_le hn hv
  rw [load_of_fileAt hfile, ← ofDocument_eq hwv, ofText, hw]
  rfl

/-- Settings come from a mapping alone, or from nothing.  Of the other documents those that are
blank are taken for nothing, and the rest is refused. -/
theorem load_eq_of_document {files : List (String × String)} {path : Option String} {text : String}
    {n : Nat} {v : Value} (hfile : fileAt files path = some text) (hn : depth ≤ n)
    (hv : document n text = .ok v) :
    (v.isMapping = true → load files path = (ofValue v).mapError .invalid) ∧
      (v.isMapping = false →
        load files path = if v.isBlank then .ok standard else .error (.notMapping (place path))) ∧
      ((∃ p, load files path = .error (.notMapping p)) ↔
        v.isMapping = false ∧ v.isBlank = false) := by
  have hload := load_eq_ofDocument hfile hn hv
  cases hmapping : v.isMapping with
  | true =>
    have hvalid : load files path = (ofValue v).mapError .invalid := by
      cases v with
      | map es => rw [hload, ofDocument_map]
      | _ => cases hmapping
    refine ⟨fun _ => hvalid, (by cases ·), fun ⟨p, hp⟩ => ?_, fun ⟨h, _⟩ => by cases h⟩
    rw [hvalid] at hp
    cases hread : ofValue v with
    | ok settings => rw [hread] at hp; cases hp
    | error faults => rw [hread] at hp; cases hp
  | false =>
    rw [ofDocument_of_not_isMapping hmapping] at hload
    refine ⟨(by cases ·), fun _ => hload, ?_⟩
    rw [hload]
    cases v.isBlank with
    | true => exact ⟨fun ⟨p, hp⟩ => (by cases hp), fun ⟨_, h⟩ => by cases h⟩
    | false => exact ⟨fun _ => ⟨rfl, rfl⟩, fun _ => ⟨_, rfl⟩⟩

/-- A section that is no mapping is a fault of the settings, and a list of sections is refused. -/
theorem load_eq_of_document_sections :
    (∃ v, document 3 "client: [timeout]\n" = .ok v ∧ v.isMapping = true ∧
      load [(defaultFile, "client: [timeout]\n")] none = (ofValue v).mapError .invalid) ∧
    ∃ v, document 3 "- client: {timeout: 3}\n" = .ok v ∧ v.isMapping = false ∧
      load [(defaultFile, "- client: {timeout: 3}\n")] none =
        .error (.notMapping (place none)) := by
  have hmap : (document 3 "client: [timeout]\n").toOption.any isMapping = true := by
    decide +kernel
  have hlist : (document 3 "- client: {timeout: 3}\n").toOption.any
      (fun v => !v.isMapping && !v.isBlank) = true := by
    decide +kernel
  have hdepth : depth ≤ 3 := by decide
  constructor
  · obtain ⟨v, hv, hmapping⟩ := exists_document hmap
    exact ⟨v, hv, hmapping, (load_eq_of_document (fileAt_usual _) hdepth hv).1 hmapping⟩
  · obtain ⟨v, hv, hp⟩ := exists_document hlist
    rw [Bool.and_eq_true, Bool.not_eq_true', Bool.not_eq_true'] at hp
    obtain ⟨hmapping, hblank⟩ := hp
    have hload := (load_eq_of_document (fileAt_usual _) hdepth hv).2.1 hmapping
    rw [hblank, if_neg Bool.false_ne_true] at hload
    exact ⟨v, hv, hmapping, hload⟩

/-- An empty list, a zero, a false and an empty text are no mappings, and none is refused. -/
theorem blank_documents_pass_for_mappings :
    let passes (text : String) : Prop := ∃ v, document depth text = .ok v ∧
      v.isMapping = false ∧ v.isNull = false ∧ load [(defaultFile, text)] none = .ok standard
    passes "[]" ∧ passes "0" ∧ passes "no" ∧ passes "''" := by
  intro passes
  have hpasses {text : String} (h : (document depth text).toOption.any
      (fun v => !v.isMapping && !v.isNull && v.isBlank) = true) : passes text := by
    obtain ⟨v, hv, hp⟩ := exists_document h
    rw [Bool.and_eq_true, Bool.and_eq_true, Bool.not_eq_true', Bool.not_eq_true'] at hp
    obtain ⟨⟨hmapping, hnull⟩, hblank⟩ := hp
    have hload := load_eq_ofDocument (fileAt_usual text) (Nat.le_refl depth) hv
    rw [ofDocument_of_not_isMapping hmapping, if_pos hblank] at hload
    exact ⟨v, hv, hmapping, hnull, hload⟩
  have hlist : passes "[]" := hpasses (by decide +kernel)
  have hzero : passes "0" := hpasses (by decide +kernel)
  have hfalse : passes "no" := hpasses (by decide +kernel)
  have hempty : passes "''" := hpasses (by decide +kernel)
  exact ⟨hlist, hzero, hfalse, hempty⟩

end Settings
end RouteTemplate
