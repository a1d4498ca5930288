/-
Reading a parameter again.

Reading brings a value into one form: bytes become text, a tuple becomes a list, and of two
keys with one text the later wins.  A value that has been read is in that form, so reading
it again returns it, under whatever name it is given.
-/
import RouteTemplate.Proofs.Schema.Mapping
import RouteTemplate.Request.Basic

namespace RouteTemplate
namespace Schema

variable {α : Type}

/-! ## Dictionaries -/

theorem put_of_not_mem {name : String} {es : List (String × α)} (h : name ∉ es.map Prod.fst)
    (a : α) : put name a es = es ++ [(name, a)] := by
  induction es with
  | nil => rfl
  | cons e es ih =>
    rw [List.map_cons, List.mem_cons, not_or] at h
    rw [put, if_neg (Ne.symm h.1), ih h.2, List.cons_append]

theorem map_fst_put_of_mem {name : String} {es : List (String × α)} (h : name ∈ es.map Prod.fst)
    (a : α) : (put name a es).map Prod.fst = es.map Prod.fst := by
  induction es with
  | nil => exact absurd h List.not_mem_nil
  | cons e es ih =>
    rw [put]
    split
    · rename_i heq
      rw [List.map_cons, List.map_cons, heq]
    · rename_i hne
      rw [List.map_cons, List.mem_cons] at h
      rw [List.map_cons, List.map_cons, ih (h.resolve_left (Ne.symm hne))]

theorem nodup_put {name : String} {es : List (String × α)} (h : (es.map Prod.fst).Nodup) (a : α) :
    ((put name a es).map Prod.fst).Nodup := by
  by_cases hmem : name ∈ es.map Prod.fst
  · rw [map_fst_put_of_mem hmem]
    exact h
  · rw [put_of_not_mem hmem, List.map_append]
    refine List.nodup_append.2 ⟨h, List.pairwise_singleton _ _, ?_⟩
    rintro k hk _ hk' rfl
    have hname : k = name := List.mem_singleton.1 hk'
    exact hmem (hname ▸ hk)

theorem nodup_foldl_put {rs acc : List (String × α)} (h : (acc.map Prod.fst).Nodup) :
    ((rs.foldl (fun acc r => put r.1 r.2 acc) acc).map Prod.fst).Nodup := by
  induction rs generalizing acc with
  | nil => exact h
  | cons r rs ih => exact ih (nodup_put h r.2)

theorem nodup_dictionary (rs : List (String × α)) : ((dictionary rs).map Prod.fst).Nodup :=
  nodup_foldl_put List.nodup_nil

theorem foldl_put_of_nodup {rs acc : List (String × α)}
    (h : ((acc ++ rs).map Prod.fst).Nodup) :
    rs.foldl (fun acc r => put r.1 r.2 acc) acc = acc ++ rs := by
  induction rs generalizing acc with
  | nil => exact (List.append_nil acc).symm
  | cons r rs ih =>
    have hnew : r.1 ∉ acc.map Prod.fst := by
      rw [List.map_append, List.nodup_append] at h
      exact fun hmem => h.2.2 r.1 hmem r.1 List.mem_cons_self rfl
    rw [List.append_cons] at h
    rw [List.foldl_cons, put_of_not_mem hnew, ih h, ← List.append_cons]

theorem dictionary_eq_self {rs : List (String × α)} (h : (rs.map Prod.fst).Nodup) :
    dictionary rs = rs :=
  foldl_put_of_nodup h

/-! ## Mappings -/

theorem entries_ofEntries {read? : Value → Option Value} {rs : List (String × Value)}
    (h : ∀ r ∈ rs, read? r.2 = some r.2) (name : String) :
    entries name read? (rs.map fun r => (.text r.1, r.2)) = .ok rs := by
  rw [entries_eq_ok, List.forall₂_map_left_iff, List.forall₂_same]
  exact fun r hr => ⟨rfl, h r hr⟩

theorem mapping_ofEntries {read? : Value → Option Value} {rs : List (String × Value)}
    (hnames : (rs.map Prod.fst).Nodup) (h : ∀ r ∈ rs, read? r.2 = some r.2) (name : String) :
    mapping read? name (Value.ofEntries rs) = .ok rs := by
  show (entries name read? (rs.map fun r => (.text r.1, r.2))).map dictionary = _
  rw [entries_ofEntries h, Except.map, dictionary_eq_self hnames]

/-- What was read as a mapping is read as itself, if its values are. -/
theorem mapping_of_mapping {read? : Value → Option Value}
    (hread : ∀ v w, read? v = some w → read? w = some w) {name : String}
    {es : List (Value × Value)} {rs : List (String × Value)}
    (h : mapping read? name (.map es) = .ok rs) (name' : String) :
    mapping read? name' (Value.ofEntries rs) = .ok rs := by
  refine mapping_ofEntries ?_ (fun r hr => ?_) name'
  · obtain ⟨rs', _, rfl⟩ := Outcome.map_eq_ok.1 h
    exact nodup_dictionary rs'
  · obtain ⟨e, _, _, hvalue⟩ := mem_mapping h hr
    exact hread e.2 r.2 hvalue

/-! ## Parameters -/

theorem scalar?_of_scalar? {v w : Value} (h : scalar? v = some w) : scalar? w = some w := by
  cases v with
  | bytes bs =>
    obtain ⟨s, _, rfl⟩ := Option.map_eq_some_iff.1 h
    rfl
  | bool _ | int _ | float _ | text _ =>
    cases h
    rfl
  | _ => cases h

theorem mapM_scalar?_of_mapM_scalar? {vs ws : List Value} (h : vs.mapM scalar? = some ws) :
    ws.mapM scalar? = some ws := by
  induction vs generalizing ws with
  | nil =>
    cases h
    rfl
  | cons v vs ih =>
    rw [List.mapM_cons] at h
    obtain ⟨w, hw, h⟩ := Option.bind_eq_some_iff.1 h
    obtain ⟨ws', hws, h⟩ := Option.bind_eq_some_iff.1 h
    cases h
    rw [List.mapM_cons, scalar?_of_scalar? hw, ih hws]
    rfl

/-- A parameter that has been read is in the form in which it is read. -/
theorem parameter?_of_parameter? {v w : Value} (h : parameter? v = some w) :
    parameter? w = some w := by
  have hlist : ∀ {vs : List Value}, (vs.mapM scalar?).map Value.list = some w →
      parameter? w = some w := by
    intro vs hvs
    obtain ⟨ws, hws, rfl⟩ := Option.map_eq_some_iff.1 hvs
    show (ws.mapM scalar?).map Value.list = _
    rw [mapM_scalar?_of_mapM_scalar? hws]
    rfl
  -- Bytes are text once they are read, so among scalars only bytes need a word.
  have hscalar : scalar? v = some w → parameter? w = some w := by
    intro hv
    have hw := scalar?_of_scalar? hv
    cases w with
    | bool _ | int _ | float _ | text _ => exact hw
    | bytes _ =>
      obtain ⟨_, _, h⟩ := Option.map_eq_some_iff.1 hw
      cases h
    | _ => cases hw
  cases v with
  | null =>
    cases h
    rfl
  | list vs => exact hlist h
  | tuple vs => exact hlist h
  | map es =>
    rw [parameter?] at h
    cases hes : mapping scalar? "" (.map es) with
    | error faults =>
      rw [hes] at h
      cases h
    | ok rs =>
      rw [hes] at h
      cases h
      have hrs := mapping_of_mapping (fun _ _ => scalar?_of_scalar?) hes ""
      rw [Value.ofEntries] at hrs
      rw [parameter?, hrs]
  | bool _ | int _ | float _ | text _ | bytes _ => exact hscalar h

/-- Parameters that have been read, if there were any, are read as themselves. -/
theorem mapping_getD_of_nullable {name : String} {v : Value} {ps : Option Params}
    (h : nullable (mapping parameter?) name v = .ok ps) (name' : String) :
    mapping parameter? name' (Value.ofEntries (ps.getD [])) = .ok (ps.getD []) := by
  cases v with
  | null =>
    cases h
    rfl
  | map es =>
    obtain ⟨rs, hrs, rfl⟩ := Outcome.map_eq_ok.1 h
    exact mapping_of_mapping (fun _ _ => parameter?_of_parameter?) hrs name'
  | _ => cases h

end Schema
end RouteTemplate
