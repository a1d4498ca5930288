/-
Which parameters are accepted, and where the others are.

A parameter is accepted if it is null, an item, a sequence of items, or a mapping from texts to
items.  An item is a scalar, or bytes that hold a text.  What is accepted keeps its name, its
place and its items; only bytes become text and tuples become lists.  A parameter that is not
accepted is one fault, at its name, whatever is wrong inside it and in however many places.
-/
import Mathlib.Data.List.Nodup
import RouteTemplate.Proofs.Schema.Parameter
import RouteTemplate.Proofs.Template.Scalar

namespace RouteTemplate

/-! ## Values as they are given and as they are kept -/

namespace Value

/-- A scalar, or bytes that hold a text. -/
def isItem : Value → Bool
  | .bytes bs => (Schema.text? (.bytes bs)).isSome
  | v => v.isScalar

def isText : Value → Bool
  | .text _ => true
  | _ => false

/-- Null, an item, a sequence of items, or a mapping from texts to items. -/
def isParameter : Value → Bool
  | .null => true
  | .list items | .tuple items => items.all isItem
  | .map es => es.all fun e => e.1.isText && e.2.isItem
  | v => v.isItem

/-- The text that bytes hold.  Any other value is itself. -/
def asText : Value → Value
  | .bytes bs =>
    match Schema.text? (.bytes bs) with
    | some s => .text s
    | none => .bytes bs
  | v => v

/-- A parameter in the form in which it is kept. -/
def kept : Value → Value
  | .list items | .tuple items => .list (items.map asText)
  | .map es => .map (es.map fun e => (e.1, e.2.asText))
  | v => v.asText

/-- A mapping has no key twice. -/
def HasDistinctKeys : Value → Prop
  | .map es => (es.map Prod.fst).Nodup
  | _ => True

/-- No key of a mapping is given as bytes. -/
def HasNoBytesKey : Value → Prop
  | .map es => ∀ e ∈ es, ∀ bs, e.1 ≠ .bytes bs
  | _ => True

end Value

namespace Schema

open Value

variable {α β : Type}

/-! ## One parameter -/

theorem scalar?_eq_some_iff {v w : Value} :
    scalar? v = some w ↔ v.isItem = true ∧ v.asText = w := by
  cases v with
  | bytes bs =>
    rw [scalar?, isItem, asText]
    cases text? (.bytes bs) with
    | none => simp
    | some s => simp
  | bool _ | int _ | float _ | text _ => simp [scalar?, isItem, isScalar, asText]
  | null | list _ | tuple _ | map _ => simp [scalar?, isItem, isScalar]

theorem mapM_scalar?_eq_some_iff {vs ws : List Value} :
    vs.mapM scalar? = some ws ↔ (∀ v ∈ vs, v.isItem = true) ∧ vs.map asText = ws := by
  rw [Outcome.mapM_eq_some]
  simp only [scalar?_eq_some_iff]
  rw [List.forall₂_and_left, ← List.forall₂_eq_eq_eq, List.forall₂_map_left_iff]

/-! ## Mappings -/

theorem map_fst_eq_of_forall₂ {R : α → β → Prop} {rs : List (String × α)} {ps : List (String × β)}
    (h : List.Forall₂ (fun r p => r.1 = p.1 ∧ R r.2 p.2) rs ps) :
    rs.map Prod.fst = ps.map Prod.fst := by
  rw [← List.forall₂_eq_eq_eq, List.forall₂_map_left_iff, List.forall₂_map_right_iff]
  exact h.imp fun _ _ h => h.1

/-- Where no name comes twice, a mapping is read entry by entry. -/
theorem mapping_ofEntries_eq_ok {name : String} {read? : Value → Option α}
    {rs : List (String × Value)} (hnames : (rs.map Prod.fst).Nodup) {ps : List (String × α)} :
    mapping read? name (Value.ofEntries rs) = .ok ps ↔
      List.Forall₂ (fun r p => r.1 = p.1 ∧ read? r.2 = some p.2) rs ps := by
  have hentries {qs : List (String × α)} :
      entries name read? (rs.map fun r => (.text r.1, r.2)) = .ok qs ↔
        List.Forall₂ (fun r q => r.1 = q.1 ∧ read? r.2 = some q.2) rs qs := by
    rw [entries_eq_ok, List.forall₂_map_left_iff]
    simp only [text?, Option.some.injEq]
  have hdictionary {qs : List (String × α)}
      (h : List.Forall₂ (fun r q => r.1 = q.1 ∧ read? r.2 = some q.2) rs qs) :
      dictionary qs = qs :=
    dictionary_eq_self (map_fst_eq_of_forall₂ (R := fun v a => read? v = some a) h ▸ hnames)
  show (entries name read? (rs.map fun r => (.text r.1, r.2))).map dictionary = _ ↔ _
  rw [Outcome.map_eq_ok]
  constructor
  · rintro ⟨qs, hqs, rfl⟩
    have h := hentries.1 hqs
    rw [hdictionary h]
    exact h
  · intro h
    exact ⟨ps, hentries.2 h, hdictionary h⟩

theorem forall₂_read_iff {read? : Value → Option Value} {accepts : Value → Bool}
    {keep : Value → Value} {rs : List (String × Value)}
    (hread : ∀ r ∈ rs, ∀ w, read? r.2 = some w ↔ accepts r.2 = true ∧ keep r.2 = w)
    {ps : List (String × Value)} :
    List.Forall₂ (fun r p => r.1 = p.1 ∧ read? r.2 = some p.2) rs ps ↔
      (∀ r ∈ rs, accepts r.2 = true) ∧ (rs.map fun r => (r.1, keep r.2)) = ps := by
  induction rs generalizing ps with
  | nil =>
    rw [List.forall₂_nil_left_iff]
    exact ⟨fun h => ⟨fun r hr => absurd hr List.not_mem_nil, h.symm⟩, fun h => h.2.symm⟩
  | cons r rs ih =>
    obtain ⟨hr, hrs⟩ := List.forall_mem_cons.1 hread
    rw [List.forall₂_cons_left_iff, List.forall_mem_cons, List.map_cons]
    constructor
    · rintro ⟨⟨k, w⟩, qs, ⟨rfl, hw⟩, hqs, rfl⟩
      obtain ⟨haccepts, rfl⟩ := (hr w).1 hw
      obtain ⟨hall, rfl⟩ := (ih hrs).1 hqs
      exact ⟨⟨haccepts, hall⟩, rfl⟩
    · rintro ⟨⟨haccepts, hall⟩, rfl⟩
      exact ⟨(r.1, keep r.2), _, ⟨rfl, (hr _).2 ⟨haccepts, rfl⟩⟩, (ih hrs).2 ⟨hall, rfl⟩, rfl⟩

theorem exists_ofEntries {es : List (Value × Value)} (h : ∀ e ∈ es, e.1.isText = true) :
    ∃ rs, Value.map es = Value.ofEntries rs := by
  induction es with
  | nil => exact ⟨[], rfl⟩
  | cons e es ih =>
    obtain ⟨he, hes⟩ := List.forall_mem_cons.1 h
    obtain ⟨rs, hrs⟩ := ih hes
    obtain ⟨key, v⟩ := e
    cases key with
    | text k => exact ⟨(k, v) :: rs, congrArg _ (congrArg _ (Value.map.inj hrs))⟩
    | _ => cases he

theorem parameter?_map {es : List (Value × Value)} {w : Value} :
    parameter? (.map es) = some w ↔
      ∃ rs, mapping scalar? "" (.map es) = .ok rs ∧ Value.ofEntries rs = w := by
  rw [parameter?]
  cases mapping scalar? "" (.map es) with
  | error faults => simp
  | ok rs => simp [Value.ofEntries]

/-- A key that is read as text is text, or bytes. -/
theorem isText_of_text? {key : Value} {k : String} (h : text? key = some k)
    (hbytes : ∀ bs, key ≠ .bytes bs) : key.isText = true := by
  cases key with
  | text s => rfl
  | bytes bs => exact absurd rfl (hbytes bs)
  | _ => cases h

theorem isText_of_parameter?_map {es : List (Value × Value)} {w : Value}
    (h : parameter? (.map es) = some w) (hbytes : (Value.map es).HasNoBytesKey) :
    ∀ e ∈ es, e.1.isText = true := by
  obtain ⟨rs, hrs, _⟩ := parameter?_map.1 h
  obtain ⟨qs, hqs, _⟩ := Outcome.map_eq_ok.1 hrs
  intro e he
  obtain ⟨q, _, hkey, _⟩ := Outcome.exists_mem_of_forall₂ (entries_eq_ok.1 hqs).flip he
  exact isText_of_text? hkey (hbytes e he)

theorem nodup_names {rs : List (String × Value)} (h : (Value.ofEntries rs).HasDistinctKeys) :
    (rs.map Prod.fst).Nodup := by
  have htexts : ((rs.map Prod.fst).map Value.text).Nodup := by
    simpa [Value.ofEntries, HasDistinctKeys, Function.comp_def] using h
  exact htexts.of_map Value.text

theorem parameter?_ofEntries_eq_some_iff {rs : List (String × Value)} {w : Value}
    (hnames : (rs.map Prod.fst).Nodup) :
    parameter? (Value.ofEntries rs) = some w ↔
      (Value.ofEntries rs).isParameter = true ∧ (Value.ofEntries rs).kept = w := by
  have hread : ∀ r ∈ rs, ∀ w, scalar? r.2 = some w ↔ r.2.isItem = true ∧ r.2.asText = w :=
    fun _ _ _ => scalar?_eq_some_iff
  have hentries {ps : List (String × Value)} :
      mapping scalar? "" (Value.ofEntries rs) = .ok ps ↔
        (∀ r ∈ rs, r.2.isItem = true) ∧ (rs.map fun r => (r.1, r.2.asText)) = ps :=
    (mapping_ofEntries_eq_ok hnames).trans (forall₂_read_iff hread)
  have haccepts : (Value.ofEntries rs).isParameter = true ↔ ∀ r ∈ rs, r.2.isItem = true := by
    simp [Value.ofEntries, isParameter, isText]
  have hkept : (Value.ofEntries rs).kept =
      Value.ofEntries (rs.map fun r => (r.1, r.2.asText)) := by
    simp [Value.ofEntries, kept]
  rw [haccepts, hkept]
  refine parameter?_map.trans ?_
  constructor
  · rintro ⟨ps, hps, rfl⟩
    obtain ⟨hall, rfl⟩ := hentries.1 hps
    exact ⟨hall, rfl⟩
  · rintro ⟨hall, rfl⟩
    exact ⟨_, hentries.2 ⟨hall, rfl⟩, rfl⟩

/-- A value is accepted as a parameter, and kept, as `isParameter` and `kept` have it. -/
theorem parameter?_eq_some_iff {v w : Value} (hdistinct : v.HasDistinctKeys)
    (hbytes : v.HasNoBytesKey) :
    parameter? v = some w ↔ v.isParameter = true ∧ v.kept = w := by
  have hsequence (vs : List Value) : (vs.mapM scalar?).map Value.list = some w ↔
      vs.all isItem = true ∧ Value.list (vs.map asText) = w := by
    simp only [Option.map_eq_some_iff, mapM_scalar?_eq_some_iff, List.all_eq_true]
    constructor
    · rintro ⟨ws, ⟨hall, rfl⟩, rfl⟩
      exact ⟨hall, rfl⟩
    · rintro ⟨hall, rfl⟩
      exact ⟨_, ⟨hall, rfl⟩, rfl⟩
  have hitem : scalar? v = some w ↔ v.isItem = true ∧ v.asText = w := scalar?_eq_some_iff
  cases v with
  | null => simp [parameter?, isParameter, kept, asText]
  | list vs => exact hsequence vs
  | tuple vs => exact hsequence vs
  | map es =>
    by_cases hkeys : ∀ e ∈ es, e.1.isText = true
    · obtain ⟨rs, hrs⟩ := exists_ofEntries hkeys
      rw [hrs] at hdistinct ⊢
      exact parameter?_ofEntries_eq_some_iff (nodup_names hdistinct)
    -- A key that is no text is refused by the reader and by `isParameter` alike.
    · refine iff_of_false (fun h => hkeys (isText_of_parameter?_map h hbytes)) ?_
      rintro ⟨hall, _⟩
      rw [isParameter, List.all_eq_true] at hall
      exact hkeys fun e he => (Bool.and_eq_true_iff.1 (hall e he)).1
  | bool _ | int _ | float _ | text _ | bytes _ => exact hitem

/-! ## Faults -/

/-- What a reading found wrong. -/
def faultsOf : Checked α → List Location
  | .ok _ => []
  | .error faults => faults

theorem faultsOf_map (x : Checked α) (f : α → β) : faultsOf (x.map f) = faultsOf x := by
  cases x with
  | ok a => rfl
  | error faults => rfl

theorem faultsOf_both (x : Checked α) (y : Checked β) :
    faultsOf (both x y) = faultsOf x ++ faultsOf y := by
  cases x with
  | ok a =>
    cases y with
    | ok b => rfl
    | error faults => rfl
  | error faults =>
    cases y with
    | ok b => exact (List.append_nil faults).symm
    | error faults' => rfl

/-- Each entry whose value is not accepted is one fault, at its name. -/
theorem faultsOf_mapping_ofEntries (name : String) (read? : Value → Option α)
    (rs : List (String × Value)) :
    faultsOf (mapping read? name (Value.ofEntries rs)) =
      (rs.filter fun r => (read? r.2).isNone).map fun r => [name, r.1] := by
  show faultsOf ((entries name read? (rs.map fun r => (.text r.1, r.2))).map dictionary) = _
  rw [faultsOf_map]
  induction rs with
  | nil => rfl
  | cons r rs ih =>
    obtain ⟨k, v⟩ := r
    rw [List.map_cons, entries, faultsOf_map, faultsOf_both, ih, List.filter_cons]
    cases h : read? v with
    | none => simp [text?, faultsOf, Value.label, Value.display?]
    | some a => simp [text?, faultsOf]

theorem eraseDups_eq_self {l : List Location} (h : l.Nodup) : l.eraseDups = l := by
  induction l with
  | nil => rfl
  | cons a l ih =>
    obtain ⟨ha, hl⟩ := List.nodup_cons.1 h
    have hfilter : (l.filter fun b => !b == a) = l := by
      rw [List.filter_eq_self]
      intro b hb
      simp only [Bool.not_eq_true', beq_eq_false_iff_ne]
      rintro rfl
      exact ha hb
    rw [List.eraseDups_cons, hfilter, ih hl]

/-- Faults at different entries of one field are all reported. -/
theorem report_entries (name : String) {ks : List String} (h : ks.Nodup) :
    report (ks.map fun k => [name, k]) = ks.map fun k => [name, k] := by
  have htake : (ks.map fun k => [name, k]).map (List.take 2) = ks.map fun k => [name, k] := by
    rw [List.map_map]
    rfl
  rw [report, htake]
  refine eraseDups_eq_self (h.map fun k l hkl => ?_)
  exact (List.cons.inj (List.cons.inj hkl).2).1

/-! ## One field of a record -/

/-- The entries of a record that are not known under some names. -/
def without (names : List String) (fields : List (Value × Value)) : List (Value × Value) :=
  fields.filter fun e => !names.any fun name => isKey name e.1

theorem eq_of_isKey {name other : String} {key : Value} (h : isKey name key = true)
    (h' : isKey other key = true) : name = other := by
  cases key with
  | text s => exact (beq_iff_eq.1 h).symm.trans (beq_iff_eq.1 h')
  | _ => cases h

theorem find?_without {name : String} {others : List String} (h : name ∉ others)
    (fields : List (Value × Value)) :
    ((without others fields).find? fun e => isKey name e.1) =
      fields.find? fun e => isKey name e.1 := by
  rw [without, List.find?_filter]
  congr 1
  funext e
  cases hkey : isKey name e.1 with
  | false => simp
  | true =>
    have hothers : ∀ other ∈ others, isKey other e.1 = false := by
      intro other hother
      rw [← Bool.not_eq_true]
      intro hkey'
      exact h (eq_of_isKey hkey hkey' ▸ hother)
    simpa using hothers

/-- What a record says under other names does not matter to a field. -/
theorem given_without {names others : List String} (h : ∀ name ∈ names, name ∉ others)
    (fields : List (Value × Value)) :
    given (without others fields) names = given fields names := by
  induction names with
  | nil => rfl
  | cons name names ih =>
    obtain ⟨hname, hnames⟩ := List.forall_mem_cons.1 h
    have hrest := ih hnames
    rw [given, given] at hrest
    rw [given, given, List.findSome?_cons, List.findSome?_cons, find?_without hname, hrest]

end Schema

namespace Request

open Schema

/-- The names that parameters are given under. -/
def paramNames : List String := ["urlTemplateParams", "url_template_params"]

/-- A request that is in order without its parameters hangs on them alone. -/
theorem ofFields_of_without {fields : List (Value × Value)} {r : Request}
    (h : ofFields (without paramNames fields) = .ok r) :
    ofFields fields =
      (optional fields paramNames none (nullable (mapping parameter?))).map fun ps =>
        { r with params := ps } := by
  have hsame {α : Type} {names : List String} (hnames : ∀ name ∈ names, name ∉ paramNames)
      (absent : α) (rule : Rule α) : optional (without paramNames fields) names absent rule =
        optional fields names absent rule := by
    rw [Schema.optional, given_without hnames, Schema.optional]
  obtain ⟨⟨url, template, params, transport⟩, hall, rfl⟩ := Outcome.map_eq_ok.1 h
  obtain ⟨hurl, hrest⟩ := both_eq_ok.1 hall
  obtain ⟨htemplate, hrest⟩ := both_eq_ok.1 hrest
  obtain ⟨_, htransport⟩ := both_eq_ok.1 hrest
  rw [hsame (by decide)] at hurl htemplate htransport
  rw [ofFields]
  dsimp only
  rw [hurl, htemplate, htransport]
  show (both _ (both _ (both (optional fields paramNames none _) _))).map _ = _
  cases optional fields paramNames none (nullable (mapping parameter?)) with
  | ok ps => rfl
  | error faults => rfl

/-- Parameters that a request is given, under either name, are accepted if each of them is, and
kept one for one.  Otherwise those that are not are reported, each once and in their order, and
nothing else is. -/
theorem params_accepted {fields : List (Value × Value)} {name : String} {m : Params} {r : Request}
    (hothers : ofValue (.map (without paramNames fields)) = .ok r)
    (hgiven : given fields paramNames = some (name, Value.ofEntries m))
    (hnames : (m.map Prod.fst).Nodup)
    (hkeys : ∀ e ∈ m, e.2.HasDistinctKeys ∧ e.2.HasNoBytesKey) :
    ((∃ r', ofValue (.map fields) = .ok r') ↔ ∀ e ∈ m, e.2.isParameter = true) ∧
      (∀ r', ofValue (.map fields) = .ok r' →
        r' = { r with params := some (m.map fun e => (e.1, e.2.kept)) }) ∧
      ∀ faults, ofValue (.map fields) = .error faults →
        report faults = (m.filter fun e => !e.2.isParameter).map fun e => [name, e.1] := by
  have hread : ∀ e ∈ m, ∀ w, parameter? e.2 = some w ↔ e.2.isParameter = true ∧ e.2.kept = w :=
    fun e he _ => parameter?_eq_some_iff (hkeys e he).1 (hkeys e he).2
  have hmapping {ps : Params} : mapping parameter? name (Value.ofEntries m) = .ok ps ↔
      (∀ e ∈ m, e.2.isParameter = true) ∧ (m.map fun e => (e.1, e.2.kept)) = ps :=
    (mapping_ofEntries_eq_ok hnames).trans (forall₂_read_iff hread)
  have hrequest : ofValue (.map fields) =
      (mapping parameter? name (Value.ofEntries m)).map fun ps => { r with params := some ps } := by
    refine (ofFields_of_without hothers).trans ?_
    rw [Schema.optional, hgiven]
    show ((mapping parameter? name (Value.ofEntries m)).map some).map _ = _
    cases mapping parameter? name (Value.ofEntries m) with
    | ok ps => rfl
    | error faults => rfl
  rw [hrequest]
  refine ⟨?_, ?_, ?_⟩
  · constructor
    · rintro ⟨r', hr'⟩
      obtain ⟨ps, hps, _⟩ := Outcome.map_eq_ok.1 hr'
      exact (hmapping.1 hps).1
    · intro hall
      exact ⟨_, Outcome.map_eq_ok.2 ⟨_, hmapping.2 ⟨hall, rfl⟩, rfl⟩⟩
  · intro r' hr'
    obtain ⟨ps, hps, rfl⟩ := Outcome.map_eq_ok.1 hr'
    rw [← (hmapping.1 hps).2]
  · intro faults hfaults
    have hfound := faultsOf_mapping_ofEntries name parameter? m
    rw [Outcome.map_eq_error.1 hfaults] at hfound
    -- The reader finds an entry at fault exactly where `isParameter` does.
    have hfilter : (m.filter fun e => (parameter? e.2).isNone) =
        m.filter fun e => !e.2.isParameter := by
      refine List.filter_congr fun e he => ?_
      rw [Bool.eq_iff_iff, Option.isNone_iff_eq_none, Option.eq_none_iff_forall_ne_some]
      simp [hread e he]
    have hnodup : ((m.filter fun e => !e.2.isParameter).map Prod.fst).Nodup :=
      hnames.sublist (List.filter_sublist.map Prod.fst)
    have hreport := report_entries name hnodup
    rw [List.map_map] at hreport
    rw [show faults = _ from hfound, hfilter]
    exact hreport

/-- Two parameters that are not accepted beside one that is, and then that one, a tuple with
bytes in it, beside null. -/
theorem params_accepted_tuple :
    let fields (m : Params) : List (Value × Value) :=
      [(.text "url", .text "/{b}"), (.text "urlTemplateParams", Value.ofEntries m)]
    let pair : Value := .tuple [.bytes [104, 105], .bool true]
    let bad : Params :=
      [("n", .list [.int 1, .null]), ("b", pair), ("d", .map [(.text "k", .list [])])]
    let good : Params := [("b", pair), ("z", .null)]
    (∃ faults, ofValue (.map (fields bad)) = .error faults ∧
      report faults = [["urlTemplateParams", "n"], ["urlTemplateParams", "d"]]) ∧
    ∃ r, ofValue (.map (fields good)) = .ok r ∧
      r.params = some [("b", .list [.text "hi", .bool true]), ("z", .null)] := by
  intro fields pair bad good
  have hothers (m : Params) : ofValue (.map (without paramNames (fields m))) =
      .ok ⟨some "/{b}", none, none, []⟩ := rfl
  have hgiven (m : Params) :
      given (fields m) paramNames = some ("urlTemplateParams", Value.ofEntries m) := rfl
  have hbad : ∀ e ∈ bad, e.2.HasDistinctKeys ∧ e.2.HasNoBytesKey := by
    simp [bad, pair, Value.HasDistinctKeys, Value.HasNoBytesKey]
  have hgood : ∀ e ∈ good, e.2.HasDistinctKeys ∧ e.2.HasNoBytesKey := by
    simp [good, pair, Value.HasDistinctKeys, Value.HasNoBytesKey]
  obtain ⟨hiff, _, hreport⟩ := params_accepted (hothers bad) (hgiven bad) (by decide) hbad
  obtain ⟨hiff', hkept, _⟩ := params_accepted (hothers good) (hgiven good) (by decide) hgood
  constructor
  · cases h : ofValue (.map (fields bad)) with
    | ok r => exact absurd (hiff.1 ⟨r, h⟩) (by decide)
    | error faults => exact ⟨faults, rfl, hreport faults h⟩
  · obtain ⟨r, hr⟩ := hiff'.2 (by decide)
    refine ⟨r, hr, ?_⟩
    rw [hkept r hr]
    rfl

end Request
end RouteTemplate
