/-
What fields and mappings were read from.  A field that may be null is nothing just where it is
null.  Every entry of a mapping has a name and a value that were read from one entry of the
source, and nothing else enters.
-/
import RouteTemplate.Proofs.Outcome
import RouteTemplate.Schema.Record

namespace RouteTemplate
namespace Schema

variable {α β : Type}

theorem both_eq_ok {x : Checked α} {y : Checked β} {p : α × β} :
    both x y = .ok p ↔ x = .ok p.1 ∧ y = .ok p.2 := by
  cases x with
  | error e => cases y <;> exact ⟨(by cases ·), fun h => by cases h.1⟩
  | ok a =>
    cases y with
    | error e => exact ⟨(by cases ·), fun h => by cases h.2⟩
    | ok b =>
      constructor
      · intro h
        cases h
        exact ⟨rfl, rfl⟩
      · rintro ⟨h, h'⟩
        cases h
        cases h'
        rfl

theorem nullable_eq_none {rule : Rule α} {name : String} {v : Value} :
    nullable rule name v = .ok none ↔ v = .null := by
  constructor
  · unfold nullable
    split
    · intro _
      rfl
    · intro hmap
      obtain ⟨_, _, hsome⟩ := Outcome.map_eq_ok.1 hmap
      cases hsome
  · rintro rfl
    rfl

theorem nullable_ofText? (name : String) (s : Option String) :
    nullable (scalar text?) name (Value.ofText? s) = .ok s := by
  cases s with
  | none => rfl
  | some s => rfl

/-- Reading entries keeps their number and order. -/
theorem entries_eq_ok {name : String} {read? : Value → Option α} {es : List (Value × Value)}
    {rs : List (String × α)} :
    entries name read? es = .ok rs ↔
      List.Forall₂ (fun e r => text? e.1 = some r.1 ∧ read? e.2 = some r.2) es rs := by
  induction es generalizing rs with
  | nil =>
    rw [List.forall₂_nil_left_iff, entries]
    exact ⟨fun h => (Except.ok.inj h).symm, fun h => by rw [h]⟩
  | cons e es ih =>
    obtain ⟨key, v⟩ := e
    rw [entries, Outcome.map_eq_ok, List.forall₂_cons_left_iff]
    constructor
    · rintro ⟨⟨r, rest⟩, hboth, rfl⟩
      obtain ⟨hr, hrest⟩ := both_eq_ok.1 hboth
      refine ⟨r, rest, ?_, ih.1 hrest, rfl⟩
      revert hr
      dsimp only
      split
      · rintro ⟨⟩
        exact ⟨‹_›, ‹_›⟩
      · rintro ⟨⟩
    · rintro ⟨⟨k, a⟩, rest, ⟨hk, ha⟩, hrest, rfl⟩
      refine ⟨((k, a), rest), both_eq_ok.2 ⟨?_, ih.2 hrest⟩, rfl⟩
      rw [hk, ha]

theorem mem_put {name : String} {a : α} {es : List (String × α)} {e : String × α}
    (h : e ∈ put name a es) : e = (name, a) ∨ e ∈ es := by
  induction es with
  | nil => exact Or.inl (List.mem_singleton.1 h)
  | cons d ds ih =>
    rw [put] at h
    split at h
    · exact (List.mem_cons.1 h).imp_right (List.mem_cons_of_mem d)
    · rcases List.mem_cons.1 h with rfl | h
      · exact Or.inr List.mem_cons_self
      · exact (ih h).imp_right (List.mem_cons_of_mem d)

/-- Names with their values, each name once: a name that comes again has its later value in its
earlier place. -/
def dictionary (rs : List (String × α)) : List (String × α) :=
  rs.foldl (fun acc r => put r.1 r.2 acc) []

theorem mem_foldl_put {rs acc : List (String × α)} {e : String × α}
    (h : e ∈ rs.foldl (fun acc r => put r.1 r.2 acc) acc) : e ∈ rs ∨ e ∈ acc := by
  induction rs generalizing acc with
  | nil => exact Or.inr h
  | cons r rs ih =>
    rcases ih h with h | h
    · exact Or.inl (List.mem_cons_of_mem r h)
    · exact (mem_put h).imp_left fun h => by rw [h]; exact List.mem_cons_self

theorem mem_dictionary {rs : List (String × α)} {e : String × α} (h : e ∈ dictionary rs) :
    e ∈ rs :=
  (mem_foldl_put h).resolve_right List.not_mem_nil

/-- Giving a name its value commutes with a change of all values. -/
theorem put_map (f : α → β) (name : String) (a : α) (es : List (String × α)) :
    put name (f a) (es.map fun e => (e.1, f e.2)) = (put name a es).map fun e => (e.1, f e.2) := by
  induction es with
  | nil => rfl
  | cons e es ih =>
    rw [List.map_cons, put, put]
    split
    · rfl
    · rw [ih, List.map_cons]

theorem foldl_put_map (f : α → β) (rs acc : List (String × α)) :
    (rs.map fun r => (r.1, f r.2)).foldl (fun acc r => put r.1 r.2 acc)
        (acc.map fun e => (e.1, f e.2)) =
      (rs.foldl (fun acc r => put r.1 r.2 acc) acc).map fun e => (e.1, f e.2) := by
  induction rs generalizing acc with
  | nil => rfl
  | cons r rs ih =>
    rw [List.map_cons, List.foldl_cons, List.foldl_cons, ← ih]
    show List.foldl _ (put r.1 (f r.2) _) _ = _
    rw [put_map]

theorem dictionary_map (f : α → β) (rs : List (String × α)) :
    dictionary (rs.map fun r => (r.1, f r.2)) = (dictionary rs).map fun e => (e.1, f e.2) :=
  foldl_put_map f rs []

theorem mem_mapping {name : String} {read? : Value → Option α} {es : List (Value × Value)}
    {ps : List (String × α)} (h : mapping read? name (.map es) = .ok ps) {p : String × α}
    (hp : p ∈ ps) : ∃ e ∈ es, text? e.1 = some p.1 ∧ read? e.2 = some p.2 := by
  obtain ⟨rs, hrs, rfl⟩ := Outcome.map_eq_ok.1 h
  exact Outcome.exists_mem_of_forall₂ (entries_eq_ok.1 hrs) (mem_dictionary hp)

end Schema
end RouteTemplate
