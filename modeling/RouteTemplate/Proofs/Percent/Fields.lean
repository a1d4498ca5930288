/-
Lists and queries as their readers take them: cut at the delimiters first, and
decoded piece by piece.

A query is read back just where no name holds a delimiter or a triplet.  Values
need no such care, since no value brings a delimiter along.  That the condition
on names is needed is a matter of counting: a separator in a name makes a piece
more, and with as many pieces as fields each piece is one field.
-/
import RouteTemplate.Proofs.Percent.Decoding

namespace RouteTemplate

/-! ## Joined texts and their pieces -/

namespace Text

theorem length_splitOn (c : Char) (s : List Char) : (s.splitOn c).length = s.count c + 1 := by
  induction s with
  | nil => rfl
  | cons d s ih =>
    rw [List.splitOn_cons_eq_if_modifyHead, List.count_cons]
    split
    · rw [List.length_cons, ih]
    · rw [List.length_modifyHead, ih, Nat.add_zero]

theorem count_intercalate (c : Char) :
    ∀ {ss : List (List Char)}, ss ≠ [] →
      (List.intercalate [c] ss).count c + 1 = ss.length + ss.flatten.count c
  | [], h => absurd rfl h
  | [s], _ => by
    rw [List.intercalate_singleton, List.flatten_cons, List.flatten_nil, List.append_nil,
      List.length_singleton]
    omega
  | s :: t :: ss, _ => by
    have ih := count_intercalate c (List.cons_ne_nil t ss)
    rw [List.intercalate_cons_cons, List.count_append, List.count_append, List.count_singleton_self,
      List.flatten_cons, List.count_append, List.length_cons]
    omega

/-- Texts that come apart into as many pieces hold no separator. -/
theorem not_mem_of_length_splitOn {c : Char} {ss : List (List Char)} (hss : ss ≠ [])
    (h : ((List.intercalate [c] ss).splitOn c).length = ss.length) : ∀ s ∈ ss, c ∉ s := by
  have hcount := count_intercalate c hss
  rw [length_splitOn] at h
  have hnone : ss.flatten.count c = 0 := by omega
  intro s hs hc
  exact List.count_eq_zero.1 hnone (List.mem_flatten_of_mem hs hc)

theorem intercalate_append (c : Char) {ss ts : List (List Char)} (hss : ss ≠ []) (hts : ts ≠ []) :
    List.intercalate [c] (ss ++ ts) = List.intercalate [c] ss ++ c :: List.intercalate [c] ts := by
  induction ss with
  | nil => exact absurd rfl hss
  | cons s ss ih =>
    cases ss with
    | nil =>
      obtain ⟨t, ts, rfl⟩ := List.exists_cons_of_ne_nil hts
      rw [List.singleton_append, List.intercalate_cons_cons, List.intercalate_singleton,
        List.append_assoc]
      rfl
    | cons t ss =>
      rw [List.cons_append, List.cons_append, List.intercalate_cons_cons, ← List.cons_append,
        ih (List.cons_ne_nil t ss), List.intercalate_cons_cons, List.append_assoc,
        List.append_assoc, List.append_assoc]

/-- Texts joined in groups are joined altogether. -/
theorem intercalate_flatten (c : Char) {groups : List (List (List Char))}
    (h : ∀ ss ∈ groups, ss ≠ []) :
    List.intercalate [c] (groups.map (List.intercalate [c])) =
      List.intercalate [c] groups.flatten := by
  induction groups with
  | nil => rfl
  | cons ss groups ih =>
    have hss := h ss List.mem_cons_self
    have hgroups := fun ts hts => h ts (List.mem_cons_of_mem ss hts)
    by_cases hnil : groups = []
    · rw [hnil, List.map_singleton, List.intercalate_singleton, List.flatten_singleton]
    · obtain ⟨ts, rest, hts⟩ := List.exists_cons_of_ne_nil hnil
      have hflatten : groups.flatten ≠ [] := by
        rw [hts, List.flatten_cons]
        exact List.append_ne_nil_of_left_ne_nil (hgroups ts (hts ▸ List.mem_cons_self)) _
      have hmap : groups.map (List.intercalate [c]) ≠ [] := List.map_eq_nil_iff.not.2 hnil
      have hcons := intercalate_append c (List.cons_ne_nil (List.intercalate [c] ss) []) hmap
      rw [List.intercalate_singleton, List.singleton_append] at hcons
      rw [List.map_cons, List.flatten_cons, intercalate_append c hss hflatten, ← ih hgroups, hcons]

end Text

namespace Percent

/-! ## Readers -/

def readItems? (s : List Char) : Option (List String) := (s.splitOn ',').mapM text?

/-- What stands before and after the first equals sign. -/
def readField? (s : List Char) : Option (String × String) := do
  let (name, value) ← Text.cut? '=' s
  return (← text? name, ← text? value)

def readQuery? (s : List Char) : Option (List (String × String)) :=
  (s.splitOn '&').mapM readField?

theorem readField?_eq_some_iff {s : List Char} {e : String × String} :
    readField? s = some e ↔
      ∃ name value, (s = name ++ '=' :: value ∧ '=' ∉ name) ∧
        text? name = some e.1 ∧ text? value = some e.2 := by
  simp only [readField?, Option.bind_eq_bind, Option.bind_eq_some_iff, Text.cut?_eq_some_iff,
    Prod.exists]
  constructor
  · rintro ⟨name, value, hs, n, hn, v, hv, h⟩
    cases h
    exact ⟨name, value, hs, hn, hv⟩
  · rintro ⟨name, value, hs, hn, hv⟩
    exact ⟨name, value, hs, e.1, hn, e.2, hv, rfl⟩

/-! ## Fields -/

/-- A name as names are written, and a value as values are. -/
def fieldText (e : String × String) : List Char :=
  Charset.reserved.encode e.1.toList ++ '=' :: Charset.unreserved.encode e.2.toList

/-- One field is cut at its own equals sign if the name holds none. -/
theorem readField?_fieldText_iff (e : String × String) :
    readField? (fieldText e) = some e ↔ '=' ∉ e.1.toList ∧ holdsTriplet e.1.toList = false := by
  have hmem := mem_reserved_encode_iff (c := '=') rfl e.1.toList
  rw [readField?_eq_some_iff]
  constructor
  · rintro ⟨name, value, ⟨htext, hcut⟩, hname, hvalue⟩
    rw [text?_eq_some_iff] at hname hvalue
    have hbytes : decode e.1.toList = utf8 e.1.toList := by
      have hdecode := congrArg decode htext
      rw [fieldText, decode_append_cons rfl, decode_append_cons rfl, decode_reserved_encode, hname,
        hvalue, ← text?_eq_some_iff.1 (text?_unreserved_encode e.2)] at hdecode
      exact List.append_cancel_right (List.append_cancel_right hdecode)
    refine ⟨fun hequals => ?_, (decode_eq_utf8_iff _).1 hbytes⟩
    -- The field would be cut inside its name, and less than the name be read.
    obtain ⟨before, behind, hsplit, hbefore⟩ := List.eq_append_cons_of_mem (hmem.2 hequals)
    have hcut' : Text.cut? '=' (fieldText e) = some (before, behind ++ '=' :: _) :=
      Text.cut?_eq_some_iff.2 ⟨by rw [fieldText, hsplit, List.append_assoc]; rfl, hbefore⟩
    rw [Text.cut?_eq_some_iff.2 ⟨htext, hcut⟩] at hcut'
    obtain ⟨rfl, _⟩ := Prod.mk.inj (Option.some.inj hcut')
    have hlength := congrArg List.length (decode_reserved_encode e.1.toList)
    have hpos := length_utf8EncodeChar_pos '='
    rw [hsplit, decode_append_cons rfl, hname, hbytes] at hlength
    simp only [List.length_append] at hlength
    omega
  · rintro ⟨hequals, htriplet⟩
    exact ⟨_, _, ⟨rfl, hmem.not.2 hequals⟩, (text?_reserved_encode_iff _).2 htriplet,
      text?_unreserved_encode _⟩

theorem mem_fieldText_iff {c : Char} (hc : isReserved c = true) (hne : c ≠ '=')
    (e : String × String) : c ∈ fieldText e ↔ c ∈ e.1.toList := by
  have hvalue := not_mem_unreserved_encode hc e.2.toList
  rw [fieldText, List.mem_append, mem_reserved_encode_iff hc, List.mem_cons]
  exact or_iff_left fun h => h.elim hne hvalue

/-- A query gives its fields back just where no name holds a delimiter of queries or a triplet. -/
theorem readQuery?_iff {fields : List (String × String)} (hne : fields ≠ []) :
    readQuery? (List.intercalate ['&'] (fields.map fieldText)) = some fields ↔
      ∀ e ∈ fields, '&' ∉ e.1.toList ∧ '=' ∉ e.1.toList ∧ holdsTriplet e.1.toList = false := by
  have hmap : fields.map fieldText ≠ [] := List.map_eq_nil_iff.not.2 hne
  have hsplit : (∀ e ∈ fields, '&' ∉ fieldText e) →
      (List.intercalate ['&'] (fields.map fieldText)).splitOn '&' = fields.map fieldText :=
    fun h => List.splitOn_intercalate '&' (List.forall_mem_map.2 h) hmap
  rw [readQuery?, Outcome.mapM_eq_some]
  constructor
  · intro h
    have hpieces := h.length_eq
    have hamp := List.forall_mem_map.1
      (Text.not_mem_of_length_splitOn hmap (hpieces.trans (List.length_map fieldText).symm))
    rw [hsplit hamp, List.forall₂_map_left_iff, List.forall₂_same] at h
    intro e he
    exact ⟨(mem_fieldText_iff rfl (by decide) e).not.1 (hamp e he),
      (readField?_fieldText_iff e).1 (h e he)⟩
  · intro h
    have hamp : ∀ e ∈ fields, '&' ∉ fieldText e := fun e he =>
      (mem_fieldText_iff rfl (by decide) e).not.2 (h e he).1
    rw [hsplit hamp, List.forall₂_map_left_iff, List.forall₂_same]
    exact fun e he => (readField?_fieldText_iff e).2 (h e he).2

/-! ## Lists of names and values -/

/-- A name and a value as items of a list. -/
def itemTexts (e : String × String) : List (List Char) :=
  [Charset.reserved.encode e.1.toList, Charset.unreserved.encode e.2.toList]

theorem forall₂_text?_itemTexts {fields : List (String × String)}
    (h : ∀ e ∈ fields, holdsTriplet e.1.toList = false) :
    List.Forall₂ (fun s t => text? s = some t) (fields.flatMap itemTexts)
      (fields.flatMap fun e => [e.1, e.2]) := by
  induction fields with
  | nil => exact .nil
  | cons e rest ih =>
    have hname := (text?_reserved_encode_iff e.1).2 (h e List.mem_cons_self)
    have hrest := ih fun d hd => h d (List.mem_cons_of_mem e hd)
    exact .cons hname (.cons (text?_unreserved_encode e.2) hrest)

/-- A list of names and values is read back if no name holds a comma or a triplet. -/
theorem readItems?_itemTexts {fields : List (String × String)} (hne : fields ≠ [])
    (h : ∀ e ∈ fields, ',' ∉ e.1.toList ∧ holdsTriplet e.1.toList = false) :
    readItems? (List.intercalate [','] (fields.flatMap itemTexts)) =
      some (fields.flatMap fun e => [e.1, e.2]) := by
  have hmem : ∀ s ∈ fields.flatMap itemTexts, ',' ∉ s := by
    intro s hs
    obtain ⟨e, he, hs⟩ := List.mem_flatMap.1 hs
    rcases List.mem_pair.1 hs with rfl | rfl
    · exact (mem_reserved_encode_iff rfl _).not.2 (h e he).1
    · exact not_mem_unreserved_encode rfl _
  have hitems : fields.flatMap itemTexts ≠ [] := by
    obtain ⟨e, rest, rfl⟩ := List.exists_cons_of_ne_nil hne
    exact List.cons_ne_nil _ _
  rw [readItems?, List.splitOn_intercalate ',' hmem hitems, Outcome.mapM_eq_some]
  exact forall₂_text?_itemTexts fun e he => (h e he).2

end Percent
end RouteTemplate
