/-
Documents read back.

A document that was written is read as itself, in both dialects and at every
depth, except for its numbers in floating point.  A finite one is read as what
its text means.  The others have no text in JSON: the compact dialect writes
null for them, and the plain one writes a word that no document holds, so that
there is nothing to be read at all.
-/
import RouteTemplate.Proofs.Json.Words

namespace RouteTemplate
namespace JsonTree

/-! ## Arrays and objects -/

theorem skipSpace_append {s : List Char} (hs : ∀ c ∈ s, isSpace c = true) (cs : List Char) :
    skipSpace (s ++ cs) = skipSpace cs :=
  List.dropWhile_append_of_pos hs

theorem skipSpace_cons {c : Char} (hc : isSpace c = false) (cs : List Char) :
    skipSpace (c :: cs) = c :: cs :=
  List.dropWhile_cons_of_neg (by simp [hc])

theorem isSpace_of_mem_lineStart {depth : Nat} : ∀ c ∈ lineStart depth, isSpace c = true := by
  intro c hc
  rcases List.mem_cons.1 hc with rfl | hc
  · rfl
  · rw [List.eq_of_mem_replicate hc]
    rfl

theorem ends_lineStart (depth : Nat) (cs : List Char) : Ends (lineStart depth ++ cs) :=
  ends_cons rfl _

/-- The start of a value or a member: neither a space nor a bracket that closes. -/
def Begins (cs : List Char) : Prop :=
  ∃ c rest, cs = c :: rest ∧ isSpace c = false ∧ c ≠ ']' ∧ c ≠ '\x7d'

theorem Begins.skipSpace_append {w : List Char} (h : Begins w) (rest : List Char) :
    skipSpace (w ++ rest) = w ++ rest := by
  obtain ⟨c, cs, rfl, hspace, _⟩ := h
  exact skipSpace_cons hspace (cs ++ rest)

theorem begins_word {w : List Char} (hne : w ≠ []) (hw : ∀ c ∈ w, isWordChar c = true) :
    Begins w := by
  obtain ⟨c, cs, rfl⟩ := List.exists_cons_of_ne_nil hne
  have hc : isWordChar c = true := hw c List.mem_cons_self
  refine ⟨c, cs, rfl, ?_, ?_, ?_⟩
  · rw [Bool.eq_false_iff]
    intro hspace
    simp only [isSpace, Bool.or_eq_true, beq_iff_eq] at hspace
    rcases hspace with ((rfl | rfl) | rfl) | rfl
    all_goals cases hc
  · intro heq
    rw [heq] at hc
    cases hc
  · intro heq
    rw [heq] at hc
    cases hc

/-- Items on lines of their own. -/
def lines (depth : Nat) (items : List (List Char)) : List Char :=
  lineStart depth ++ List.intercalate (',' :: lineStart depth) items

theorem lines_singleton (depth : Nat) (w : List Char) : lines depth [w] = lineStart depth ++ w := by
  rw [lines, List.intercalate_singleton]

theorem lines_cons_cons (depth : Nat) (v w : List Char) (ws : List (List Char)) :
    lines depth (v :: w :: ws) = lineStart depth ++ (v ++ ',' :: lines depth (w :: ws)) := by
  rw [lines, lines, List.intercalate_cons_cons]
  simp

/-- What stands between an opening bracket and what follows the closing one. -/
def enclosed (closing : Char) (depth : Nat) (items : List (List Char)) : List Char :=
  if items.isEmpty then [closing] else lines (depth + 1) items ++ lineStart depth ++ [closing]

theorem enclose_eq (opening closing : Char) (depth : Nat) (items : List (List Char)) :
    enclose opening closing depth items = opening :: enclosed closing depth items := by
  unfold enclose enclosed
  split
  · rfl
  · simp [lines]

section

variable {α β : Type} {item : List Char → Option (β × List Char)} {closing : Char}
  {cs cs' rest : List Char} {result : Option β}

theorem readItems?_last (fuel : Nat)
    (hitem : item (skipSpace cs) = result.map fun b => (b, cs'))
    (hrest : skipSpace cs' = closing :: rest) :
    readItems? item closing (fuel + 1) cs = result.map fun b => ([b], rest) := by
  rw [readItems?, hitem]
  cases result with
  | none => rfl
  | some b => simp [hrest]

theorem readItems?_more (fuel : Nat)
    (hitem : item (skipSpace cs) = result.map fun b => (b, cs'))
    (hrest : skipSpace cs' = ',' :: rest) (hclosing : ',' ≠ closing) :
    readItems? item closing (fuel + 1) cs =
      result.bind fun b => (readItems? item closing fuel rest).map fun p => (b :: p.1, p.2) := by
  rw [readItems?, hitem]
  cases result with
  | none => rfl
  | some b =>
    simp only [Option.map_some, Option.bind_eq_bind, Option.bind_some, hrest, if_neg hclosing,
      if_true]
    cases readItems? item closing fuel rest with
    | none => rfl
    | some p => rfl

/-- The text of an item that is read back within some length, whatever ends it. -/
structure ReadsAs (item : List Char → Option (β × List Char)) (bound : Nat) (w : List Char)
    (result : Option β) : Prop where
  begins : Begins w
  read : ∀ rest, Ends rest → (w ++ rest).length ≤ bound →
    item (w ++ rest) = result.map fun b => (b, rest)

theorem ReadsAs.read_line {bound depth : Nat} {w : List Char} (h : ReadsAs item bound w result)
    (hrest : Ends rest) (hbound : (lineStart depth ++ (w ++ rest)).length ≤ bound) :
    item (skipSpace (lineStart depth ++ (w ++ rest))) = result.map fun b => (b, rest) := by
  rw [skipSpace_append isSpace_of_mem_lineStart, h.begins.skipSpace_append]
  refine h.read rest hrest ?_
  simp at hbound ⊢
  omega

variable {text : α → List Char} {meaning : α → Option β} {bound : Nat} {as : List α}

/-- Items that are read back one by one are read back as a list. -/
theorem readItems?_lines (hclosing : isSpace closing = false ∧ ',' ≠ closing)
    (hitem : ∀ a ∈ as, ReadsAs item bound (text a) (meaning a))
    (hne : as ≠ []) {m n fuel : Nat} (hbound : fuel ≤ bound)
    (hfuel : (lines m (as.map text) ++ (lineStart n ++ closing :: rest)).length ≤ fuel) :
    readItems? item closing fuel (lines m (as.map text) ++ (lineStart n ++ closing :: rest)) =
      (as.mapM meaning).map fun bs => (bs, rest) := by
  -- one item takes one unit of fuel and at least one character, so the fuel lasts
  induction as generalizing fuel with
  | nil => exact absurd rfl hne
  | cons a as ih =>
    have ha := hitem a List.mem_cons_self
    obtain ⟨fuel, rfl⟩ := Nat.exists_eq_add_of_le' (show 1 ≤ fuel by simp at hfuel; omega)
    cases as with
    | nil =>
      rw [List.map_singleton, lines_singleton, List.append_assoc] at hfuel ⊢
      rw [readItems?_last fuel (ha.read_line (ends_lineStart n _) (by omega)), List.mapM_cons]
      · cases meaning a with
        | none => rfl
        | some b => rfl
      · rw [skipSpace_append isSpace_of_mem_lineStart, skipSpace_cons hclosing.1]
    | cons b bs =>
      rw [List.map_cons, List.map_cons, lines_cons_cons, List.append_assoc, List.append_assoc,
        List.cons_append, ← List.map_cons] at hfuel ⊢
      rw [readItems?_more fuel (ha.read_line (ends_cons rfl _) (by omega)) (skipSpace_cons rfl _)
        hclosing.2, List.mapM_cons, ih]
      · cases meaning a with
        | none => rfl
        | some b' =>
          cases (b :: bs).mapM meaning with
          | none => rfl
          | some bs' => rfl
      · exact fun c hc => hitem c (List.mem_cons_of_mem a hc)
      · exact List.cons_ne_nil b bs
      · omega
      · simp at hfuel ⊢
        omega

theorem readEnclosed?_enclosed (hclosing : closing = ']' ∨ closing = '\x7d')
    (hitem : ∀ a ∈ as, ReadsAs item bound (text a) (meaning a))
    {depth : Nat} (hfuel : (enclosed closing depth (as.map text) ++ rest).length ≤ bound) :
    readEnclosed? item closing bound (enclosed closing depth (as.map text) ++ rest) =
      (as.mapM meaning).map fun bs => (bs, rest) := by
  have hproper : isSpace closing = false ∧ ',' ≠ closing := by
    rcases hclosing with rfl | rfl
    · decide
    · decide
  unfold enclosed at hfuel ⊢
  cases as with
  | nil =>
    show readEnclosed? item closing bound (closing :: rest) = some ([], rest)
    rw [readEnclosed?, skipSpace_cons hproper.1]
    exact if_pos rfl
  | cons a as =>
    -- the first item does not start with the bracket that closes
    obtain ⟨c, cs, hcs, hspace, hbracket, hbrace⟩ := (hitem a List.mem_cons_self).begins
    have hc : c ≠ closing := by
      rcases hclosing with rfl | rfl
      · exact hbracket
      · exact hbrace
    obtain ⟨tail, htail⟩ : ∃ tail, lines (depth + 1) ((a :: as).map text) =
        lineStart (depth + 1) ++ c :: tail := by
      rw [List.map_cons, hcs]
      cases as with
      | nil => exact ⟨cs, lines_singleton _ _⟩
      | cons b bs => exact ⟨_, lines_cons_cons _ _ _ _⟩
    rw [if_neg (by simp), List.append_assoc, List.append_assoc, List.singleton_append] at hfuel ⊢
    have hskip : skipSpace (lines (depth + 1) ((a :: as).map text) ++
        (lineStart depth ++ closing :: rest)) =
          c :: (tail ++ (lineStart depth ++ closing :: rest)) := by
      rw [htail, List.append_assoc, skipSpace_append isSpace_of_mem_lineStart, List.cons_append,
        skipSpace_cons hspace]
    rw [readEnclosed?, hskip]
    dsimp only
    rw [if_neg hc]
    exact readItems?_lines hproper hitem (List.cons_ne_nil a as) (Nat.le_refl bound) hfuel

end

/-! ## Documents -/

mutual

/-- What a written document is read as, given what its numbers in floating point are read as. -/
def reading? (number : Binary64 → Option JsonTree) : JsonTree → Option JsonTree
  | .null => some .null
  | .bool b => some (.bool b)
  | .int n => some (.int n)
  | .float x => number x
  | .text s => some (.text s)
  | .array items => (readings? number items).map .array
  | .object members => (memberReadings? number members).map .object
termination_by structural t => t

def readings? (number : Binary64 → Option JsonTree) : List JsonTree → Option (List JsonTree)
  | [] => some []
  | t :: ts => do return (← reading? number t) :: (← readings? number ts)
termination_by structural ts => ts

def memberReadings? (number : Binary64 → Option JsonTree) :
    List (String × JsonTree) → Option (List (String × JsonTree))
  | [] => some []
  | (name, t) :: ms => do return (name, ← reading? number t) :: (← memberReadings? number ms)
termination_by structural ms => ms

end

def writeMember (d : Dialect) (depth : Nat) (m : String × JsonTree) : List Char :=
  writeText d m.1 ++ ':' :: ' ' :: write d depth m.2

def memberReading? (number : Binary64 → Option JsonTree) (m : String × JsonTree) :
    Option (String × JsonTree) :=
  (reading? number m.2).map fun t => (m.1, t)

theorem writeItems_eq_map (d : Dialect) (depth : Nat) (ts : List JsonTree) :
    writeItems d depth ts = ts.map (write d depth) := by
  induction ts with
  | nil => rfl
  | cons t ts ih => rw [writeItems, ih, List.map_cons]

theorem writeMembers_eq_map (d : Dialect) (depth : Nat) (ms : List (String × JsonTree)) :
    writeMembers d depth ms = ms.map (writeMember d depth) := by
  induction ms with
  | nil => rfl
  | cons m ms ih =>
    rw [writeMembers, ih, List.map_cons]
    rfl

theorem readings?_eq_mapM (number : Binary64 → Option JsonTree) (ts : List JsonTree) :
    readings? number ts = ts.mapM (reading? number) := by
  induction ts with
  | nil => rfl
  | cons t ts ih => rw [readings?, ih, List.mapM_cons]

theorem memberReadings?_eq_mapM (number : Binary64 → Option JsonTree)
    (ms : List (String × JsonTree)) :
    memberReadings? number ms = ms.mapM (memberReading? number) := by
  induction ms with
  | nil => rfl
  | cons m ms ih =>
    rw [memberReadings?, ih, List.mapM_cons, memberReading?]
    cases reading? number m.2 with
    | none => rfl
    | some t => rfl

section

variable {d : Dialect} {number : Binary64 → Option JsonTree} (hd : d.Reads number)

/-- A tree that is read back wherever it was written and whatever ends it. -/
def ReadsBack (d : Dialect) (number : Binary64 → Option JsonTree) (t : JsonTree) : Prop :=
  ∀ {depth fuel : Nat} {rest : List Char}, Ends rest → (write d depth t ++ rest).length ≤ fuel →
    readValue? fuel (write d depth t ++ rest) = (reading? number t).map fun t => (t, rest)

include hd

theorem begins_write (depth : Nat) (t : JsonTree) : Begins (write d depth t) := by
  cases t with
  | null =>
    show Begins "null".toList
    exact begins_word (by decide) (List.all_eq_true.1 rfl)
  | bool b =>
    cases b with
    | true =>
      show Begins "true".toList
      exact begins_word (by decide) (List.all_eq_true.1 rfl)
    | false =>
      show Begins "false".toList
      exact begins_word (by decide) (List.all_eq_true.1 rfl)
  | int n => exact begins_word (toString_ne_nil n) isWordChar_of_mem_toString
  | float x => exact begins_word (hd.ne_nil x) (hd.chars x)
  | text s => exact ⟨_, _, rfl, rfl, by decide, by decide⟩
  | array items =>
    rw [write, enclose_eq]
    exact ⟨_, _, rfl, rfl, by decide, by decide⟩
  | object members =>
    rw [write, enclose_eq]
    exact ⟨_, _, rfl, rfl, by decide, by decide⟩

theorem readMember?_write {m : String × JsonTree} (h : ReadsBack d number m.2)
    {depth fuel : Nat} {rest : List Char} (hrest : Ends rest)
    (hfuel : (writeMember d depth m ++ rest).length ≤ fuel) :
    readMember? (readValue? fuel) fuel (writeMember d depth m ++ rest) =
      (memberReading? number m).map fun m => (m, rest) := by
  have htext : writeMember d depth m ++ rest = '"' :: (m.1.toList.flatMap (escapeChar d) ++
      '"' :: ':' :: ' ' :: (write d depth m.2 ++ rest)) := by
    simp [writeMember, writeText]
  rw [htext] at hfuel ⊢
  have hname : readText? fuel (m.1.toList.flatMap (escapeChar d) ++
      '"' :: ':' :: ' ' :: (write d depth m.2 ++ rest)) =
        some (m.1.toList, ':' :: ' ' :: (write d depth m.2 ++ rest)) :=
    readText?_writeText hd.shows (by simp at hfuel ⊢; omega)
  have hvalue : readValue? fuel (write d depth m.2 ++ rest) =
      (reading? number m.2).map fun t => (t, rest) :=
    h hrest (by simp at hfuel ⊢; omega)
  have hskip : skipSpace (' ' :: (write d depth m.2 ++ rest)) = write d depth m.2 ++ rest :=
    (begins_write hd depth m.2).skipSpace_append rest
  rw [readMember?, hname]
  simp only [Option.bind_eq_bind, Option.bind_some]
  rw [skipSpace_cons rfl]
  show (readValue? fuel (skipSpace (' ' :: _))).bind _ = _
  rw [hskip, hvalue, memberReading?, String.ofList_toList]
  cases reading? number m.2 with
  | none => rfl
  | some t => rfl

end

variable {d : Dialect} {number : Binary64 → Option JsonTree}

mutual

theorem readsBack (hd : d.Reads number) (t : JsonTree) : ReadsBack d number t := by
  intro depth fuel rest hrest hfuel
  cases t with
  | null =>
    show readValue? fuel ("null".toList ++ rest) = _
    exact readValue?_word (by decide) (List.all_eq_true.1 rfl) hrest hfuel
  | bool b =>
    cases b with
    | true =>
      show readValue? fuel ("true".toList ++ rest) = _
      exact readValue?_word (by decide) (List.all_eq_true.1 rfl) hrest hfuel
    | false =>
      show readValue? fuel ("false".toList ++ rest) = _
      exact readValue?_word (by decide) (List.all_eq_true.1 rfl) hrest hfuel
  | int n =>
    rw [reading?, ← word?_toString]
    exact readValue?_word (toString_ne_nil n) isWordChar_of_mem_toString hrest hfuel
  | float x =>
    rw [reading?, ← hd.number]
    exact readValue?_word (hd.ne_nil x) (hd.chars x) hrest hfuel
  | text s =>
    obtain ⟨fuel, rfl⟩ := Nat.exists_eq_add_of_le' (show 1 ≤ fuel by
      simp [write, writeText] at hfuel
      omega)
    have htext : write d depth (.text s) ++ rest =
        '"' :: (s.toList.flatMap (escapeChar d) ++ '"' :: rest) := by
      simp [write, writeText]
    rw [htext] at hfuel ⊢
    rw [readValue?, readText?_writeText hd.shows (by simp at hfuel ⊢; omega)]
    simp [reading?]
  | array items =>
    obtain ⟨fuel, rfl⟩ := Nat.exists_eq_add_of_le' (show 1 ≤ fuel by
      simp [write, enclose_eq] at hfuel
      omega)
    rw [write, writeItems_eq_map, enclose_eq, List.cons_append] at hfuel ⊢
    have hitem : ∀ t ∈ items, ReadsAs (readValue? fuel) fuel (write d (depth + 1) t)
        (reading? number t) :=
      fun t ht => ⟨begins_write hd (depth + 1) t, fun _ => readsBack_items hd items t ht⟩
    rw [readValue?, reading?, readings?_eq_mapM, readEnclosed?_enclosed (Or.inl rfl) hitem
      (by simp at hfuel ⊢; omega)]
    cases items.mapM (reading? number) with
    | none => rfl
    | some ts => rfl
  | object members =>
    obtain ⟨fuel, rfl⟩ := Nat.exists_eq_add_of_le' (show 1 ≤ fuel by
      simp [write, enclose_eq] at hfuel
      omega)
    rw [write, writeMembers_eq_map, enclose_eq, List.cons_append] at hfuel ⊢
    have hmember : ∀ m ∈ members, ReadsAs (readMember? (readValue? fuel) fuel) fuel
        (writeMember d (depth + 1) m) (memberReading? number m) :=
      fun m hm => ⟨⟨_, _, rfl, rfl, by decide, by decide⟩,
        fun _ => readMember?_write hd (readsBack_members hd members m hm)⟩
    rw [readValue?, reading?, memberReadings?_eq_mapM, readEnclosed?_enclosed (Or.inr rfl) hmember
      (by simp at hfuel ⊢; omega)]
    cases members.mapM (memberReading? number) with
    | none => rfl
    | some ms => rfl
termination_by structural t

theorem readsBack_items (hd : d.Reads number) (ts : List JsonTree) :
    ∀ t ∈ ts, ReadsBack d number t := by
  cases ts with
  | nil => exact fun _ h => absurd h List.not_mem_nil
  | cons t ts => exact List.forall_mem_cons.2 ⟨readsBack hd t, readsBack_items hd ts⟩
termination_by structural ts

theorem readsBack_members (hd : d.Reads number) (ms : List (String × JsonTree)) :
    ∀ m ∈ ms, ReadsBack d number m.2 := by
  cases ms with
  | nil => exact fun _ h => absurd h List.not_mem_nil
  | cons m ms =>
    obtain ⟨name, t⟩ := m
    exact List.forall_mem_cons.2 ⟨readsBack hd t, readsBack_members hd ms⟩
termination_by structural ms

end

/-- A document is read back as a whole, with or without a line end behind it. -/
theorem read?_write (hd : d.Reads number) (t : JsonTree) {rest : List Char}
    (hrest : rest = [] ∨ rest = ['\n']) :
    read? (write d 0 t ++ rest) = reading? number t := by
  have hends : Ends rest := by
    rcases hrest with rfl | rfl
    · exact ends_nil
    · exact ends_cons rfl []
  have hskip : skipSpace rest = [] := by
    rcases hrest with rfl | rfl
    · rfl
    · rfl
  rw [read?, (begins_write hd 0 t).skipSpace_append, readsBack hd t hends (Nat.le_refl _)]
  cases reading? number t with
  | none => rfl
  | some t => simp [hskip]

example : read? (write .plain 0 (.object [("n", .int (-7)), ("s", .text "é\n")])) =
    some (.object [("n", .int (-7)), ("s", .text "é\n")]) := by
  rfl

end JsonTree
end RouteTemplate
