/-
What the documents on the output say.

Two commands print a URL with the template and the parameters it was made from.
The document is read back by the rules of JSON, and the URL is made again from
what it says.  That comes to the same wherever every typed number is finite.
Of the others one command writes null, so that the URL made again lacks them,
and the other writes words that are no JSON.
-/
import RouteTemplate.Proofs.CommandLine.Typed
import RouteTemplate.Proofs.Json.RoundTrip
import RouteTemplate.Proofs.Request.Step
import RouteTemplate.Proofs.Schema.Parameter

namespace RouteTemplate

namespace Value

/-- Whether JSON has a text for a scalar. -/
def isFinite : Value → Bool
  | .float .nan => false
  | .float (.infinite _) => false
  | _ => true

def orNull (v : Value) : Value := if v.isFinite then v else .null

end Value

namespace CommandLine

open JsonTree (reading? memberReading? memberReadings? plainReading compactReading)

/-! ## Typed parameters -/

theorem exists_readValue_of_readPair? {pair name : String} {v : Value}
    (h : readPair? pair = some (name, v)) : ∃ s, v = readValue s := by
  unfold readPair? at h
  split at h
  · next n value _ =>
    split at h
    · cases h
    · cases h
      exact ⟨_, rfl⟩
  · cases h

/-- Parameters with typed values, each name once. -/
structure AreTyped (ps : Params) : Prop where
  values : ∀ p ∈ ps, ∃ s, p.2 = readValue s
  names : (ps.map Prod.fst).Nodup

theorem areTyped_nil : AreTyped [] := ⟨by simp, List.nodup_nil⟩

theorem AreTyped.put {ps : Params} (h : AreTyped ps) (name s : String) :
    AreTyped (Schema.put name (readValue s) ps) := by
  refine ⟨fun p hp => ?_, Schema.nodup_put h.names _⟩
  rcases Schema.mem_put hp with rfl | hp
  · exact ⟨s, rfl⟩
  · exact h.values p hp

theorem areTyped_of_readPairs {pairs : List String} {ps : Params} (h : readPairs pairs = .ok ps) :
    AreTyped ps := by
  have hacc := areTyped_nil
  rw [readPairs] at h
  -- what is kept is that every value so far was typed, whatever the pairs so far
  generalize ([] : Params) = acc at h hacc
  induction pairs generalizing acc with
  | nil =>
    cases h
    exact hacc
  | cons pair pairs ih =>
    rw [List.foldlM_cons] at h
    cases hpair : readPair? pair with
    | none =>
      rw [hpair] at h
      cases h
    | some p =>
      obtain ⟨name, v⟩ := p
      obtain ⟨s, rfl⟩ := exists_readValue_of_readPair? hpair
      rw [hpair] at h
      exact ih _ h (hacc.put name s)

namespace Command

/-- The parameters that a command was given. -/
def typed : Command → Params
  | .expand _ params _ => params
  | .listing _ _ => []
  | .transform _ _ params _ => params.getD []

def name : Command → CommandName
  | .expand .. => .expand
  | .listing .. => .listing
  | .transform .. => .transform

/-- Whether a command writes a document about one URL. -/
def writesDocument : Command → Bool
  | .expand _ _ asJson => asJson
  | .listing _ _ => false
  | .transform .. => true

end Command

theorem areTyped_of_ofWords {words : List String} {name : CommandName} {c : Command}
    (h : Command.ofWords words name = .ok c) : AreTyped c.typed := by
  have hparams : ∀ {w : Words} {ps : Params}, params w = .ok ps → AreTyped ps := by
    intro w ps hps
    rw [params] at hps
    cases hread : readPairs (w.values paramOption.long) with
    | error e =>
      rw [hread] at hps
      cases hps
    | ok ps' =>
      rw [hread] at hps
      cases hps
      exact areTyped_of_readPairs hread
  cases name with
  | expand =>
    obtain ⟨w, _, h⟩ := Outcome.bind_eq_ok.1 h
    obtain ⟨t, _, h⟩ := Outcome.bind_eq_ok.1 h
    obtain ⟨ps, hps, h⟩ := Outcome.bind_eq_ok.1 h
    cases h
    exact hparams hps
  | listing =>
    obtain ⟨w, _, h⟩ := Outcome.bind_eq_ok.1 h
    obtain ⟨t, _, h⟩ := Outcome.bind_eq_ok.1 h
    cases h
    exact areTyped_nil
  | transform =>
    obtain ⟨w, _, h⟩ := Outcome.bind_eq_ok.1 h
    obtain ⟨_, _, h⟩ := Outcome.bind_eq_ok.1 h
    obtain ⟨ps, hps, h⟩ := Outcome.bind_eq_ok.1 h
    cases h
    show AreTyped ((if w.has paramOption.long then some ps else none).getD [])
    split
    · exact hparams hps
    · exact areTyped_nil

/-! ## Typed values as documents -/

theorem readValue_cases (s : String) :
    (∃ b, readValue s = .bool b) ∨ (∃ n, readValue s = .int n) ∨
      (∃ x, readValue s = .float x ∧ Binary64.ofText? (x.text .plain) = some x) ∨
        readValue s = .text s := by
  unfold readValue
  split
  · exact Or.inl ⟨true, rfl⟩
  split
  · exact Or.inl ⟨false, rfl⟩
  cases integer? s with
  | some n => exact Or.inr (Or.inl ⟨n, rfl⟩)
  | none =>
    cases hnumber : number? s with
    | some x =>
      have htext : x.text .plain = s.toList := by
        rw [← number?_eq_some hnumber, String.toList_ofList]
      refine Or.inr (Or.inr (Or.inl ⟨x, rfl, ?_⟩))
      rw [htext]
      exact (Option.filter_eq_some_iff.1 hnumber).1
    | none => exact Or.inr (Or.inr (Or.inr rfl))

/-- A typed value that is finite is read back as itself. -/
theorem reading?_readValue {number : Binary64 → Option JsonTree}
    (hnumber : ∀ negative rank, number (.finite negative rank) =
      (Binary64.ofText? ((Binary64.finite negative rank).text .plain)).map .float)
    {s : String} (h : (readValue s).isFinite = true) :
    reading? number (.ofValue (readValue s)) = some (.ofValue (readValue s)) := by
  rcases readValue_cases s with ⟨b, hv⟩ | ⟨n, hv⟩ | ⟨x, hv, hread⟩ | hv
  · rw [hv]
    rfl
  · rw [hv]
    rfl
  · rw [hv] at h ⊢
    cases x with
    | nan => cases h
    | infinite negative => cases h
    | finite negative rank =>
      show number (.finite negative rank) = _
      rw [hnumber, hread]
      rfl
  · rw [hv]
    rfl

theorem reading?_of_not_isFinite {v : Value} (h : v.isFinite = false) :
    reading? plainReading (.ofValue v) = none ∧
      reading? compactReading (.ofValue v) = some .null := by
  cases v with
  | float x =>
    cases x with
    | finite negative rank => cases h
    | nan => exact ⟨rfl, rfl⟩
    | infinite negative => exact ⟨rfl, rfl⟩
  | _ => cases h

theorem reading?_compact_readValue (s : String) :
    reading? compactReading (.ofValue (readValue s)) = some (.ofValue (readValue s).orNull) := by
  unfold Value.orNull
  by_cases h : (readValue s).isFinite = true
  · rw [if_pos h]
    exact reading?_readValue (fun _ _ => rfl) h
  · rw [if_neg h]
    exact (reading?_of_not_isFinite (Bool.eq_false_iff.2 h)).2

theorem toValue_orNull (s : String) :
    (JsonTree.ofValue (readValue s).orNull).toValue = (readValue s).orNull := by
  unfold Value.orNull
  split
  · rcases readValue_cases s with ⟨b, h⟩ | ⟨n, h⟩ | ⟨x, h, _⟩ | h
    all_goals
      rw [h]
      rfl
  · rfl

/-! ## Typed parameters as documents -/

/-- The parameters as a document has them that writes null for what JSON has no text for. -/
def orNulls (ps : Params) : Params := ps.map fun p => (p.1, p.2.orNull)

theorem orNulls_eq_self {ps : Params} (h : ∀ p ∈ ps, p.2.isFinite = true) : orNulls ps = ps := by
  have hself : ∀ p ∈ ps, (p.1, p.2.orNull) = id p := fun p hp => by simp [Value.orNull, h p hp]
  rw [orNulls, List.map_congr_left hself, List.map_id]

theorem map_fst_orNulls (ps : Params) : (orNulls ps).map Prod.fst = ps.map Prod.fst :=
  List.map_map

theorem reading?_ofParams (number : Binary64 → Option JsonTree) (ps : Params) :
    reading? number (.ofParams ps) =
      (ps.mapM fun p => memberReading? number (p.1, .ofValue p.2)).map .object := by
  rw [JsonTree.ofParams, reading?, JsonTree.memberReadings?_eq_mapM, List.mapM_map]
  rfl

theorem reading?_compact_params {ps : Params} (h : AreTyped ps) :
    reading? compactReading (.ofParams ps) = some (.ofParams (orNulls ps)) := by
  have hmembers : (ps.mapM fun p => memberReading? compactReading (p.1, .ofValue p.2)) =
      some ((orNulls ps).map fun p => (p.1, .ofValue p.2)) := by
    rw [Outcome.mapM_eq_some, orNulls, List.map_map, List.forall₂_map_right_iff, List.forall₂_same]
    intro p hp
    obtain ⟨s, hs⟩ := h.values p hp
    rw [memberReading?, hs, reading?_compact_readValue]
    simp [hs]
  rw [reading?_ofParams, hmembers]
  rfl

theorem reading?_plain_params {ps : Params} (h : AreTyped ps)
    (hfinite : ∀ p ∈ ps, p.2.isFinite = true) :
    reading? plainReading (.ofParams ps) = some (.ofParams (orNulls ps)) := by
  have hmembers : (ps.mapM fun p => memberReading? plainReading (p.1, .ofValue p.2)) =
      some (ps.map fun p => (p.1, .ofValue p.2)) := by
    rw [Outcome.mapM_eq_some, List.forall₂_map_right_iff, List.forall₂_same]
    intro p hp
    obtain ⟨s, hs⟩ := h.values p hp
    have hp' := hfinite p hp
    rw [hs] at hp'
    rw [memberReading?, hs, reading?_readValue (fun _ _ => rfl) hp']
    rfl
  rw [reading?_ofParams, hmembers, orNulls_eq_self hfinite]
  rfl

theorem isFinite_of_reading?_plain {ps : Params} {t : JsonTree}
    (h : reading? plainReading (.ofParams ps) = some t) : ∀ p ∈ ps, p.2.isFinite = true := by
  rw [reading?_ofParams] at h
  obtain ⟨ms, hms, _⟩ := Option.map_eq_some_iff.1 h
  intro p hp
  by_contra hp'
  obtain ⟨m, _, hm⟩ := Outcome.exists_mem_of_forall₂ (Outcome.mapM_eq_some.1 hms).flip hp
  have hnone := (reading?_of_not_isFinite (Bool.eq_false_iff.2 hp')).1
  simp only [memberReading?, hnone] at hm
  cases hm

theorem toParams_orNulls {ps : Params} (h : AreTyped ps) :
    JsonTree.toParams ((orNulls ps).map fun p => (p.1, .ofValue p.2)) = orNulls ps := by
  have hvalues : ((orNulls ps).map fun p => (p.1, (JsonTree.ofValue p.2).toValue)) =
      orNulls ps := by
    rw [orNulls, List.map_map]
    refine List.map_congr_left fun p hp => ?_
    obtain ⟨s, hs⟩ := h.values p hp
    simp [hs, toValue_orNull]
  rw [JsonTree.toParams, JsonTree.toEntries_eq_map, List.map_map]
  show Schema.dictionary ((orNulls ps).map fun p => (p.1, (JsonTree.ofValue p.2).toValue)) = _
  rw [hvalues, Schema.dictionary_eq_self]
  rw [map_fst_orNulls]
  exact h.names

/-! ## Output -/

/-- A URL with what it was made from. -/
def madeTree (template url : String) (params : JsonTree) : JsonTree :=
  .object [("url", .text url), ("url_template", .text template), ("url_template_params", params)]

/-- A request as it was given, without a template. -/
def givenTree (url : Option String) (params : Option JsonTree) : JsonTree :=
  .object (url.toList.map (fun u => ("url", .text u)) ++
    params.toList.map fun t => ("url_template_params", t))

/-- A document is about a URL that was made, or about a request that was left as it was. -/
theorem Command.output_of_result {settings : Settings} {c : Command} {output : String}
    (hwrites : c.writesDocument = true) (h : c.result settings = .ok output) :
    (∃ d template url, (c.name = .transform ∧ d = .compact ∨ c.name ≠ .transform ∧ d = .plain) ∧
      Template.url template c.typed = .ok url ∧
      output = document d (madeTree template url (.ofParams c.typed))) ∨
      c.name = .transform ∧ ∃ url params, output = document .compact (givenTree url params) ∧
        ∀ t ∈ params, t = .ofParams c.typed := by
  cases c with
  | listing template asJson => cases hwrites
  | expand template params asJson =>
    cases hwrites
    obtain ⟨url, hurl, h⟩ := Outcome.bind_eq_ok.1 h
    have houtput : expansionOutput template url params true = output := Except.ok.inj h
    rw [← houtput]
    exact Or.inl ⟨.plain, template, url, Or.inr ⟨nofun, rfl⟩, hurl, rfl⟩
  | transform url template params own =>
    obtain ⟨r, hr, h⟩ := Outcome.bind_eq_ok.1 h
    have houtput : requestOutput r = output := Except.ok.inj h
    rw [← houtput]
    cases hsource : Request.source? ((Command.transform url template params own).policy settings)
        ⟨url, template, params, []⟩ with
    | some source =>
      have hresolved := Request.resolvedFrom_of_resolve hsource hr
      obtain ⟨u, hurl, hu⟩ := hresolved.url
      refine Or.inl ⟨.compact, source.template, u, Or.inl ⟨rfl, rfl⟩, hu, ?_⟩
      rw [requestOutput, hurl, hresolved.template, hresolved.params]
      rfl
    | none =>
      rw [Request.resolve_of_source?_eq_none hsource] at hr
      cases hr
      have htemplate : template = none := Request.template_of_source?_eq_none hsource
      refine Or.inr ⟨rfl, url, params.map .ofParams, ?_, ?_⟩
      · rw [requestOutput, htemplate]
        cases params with
        | none => simp [givenTree]
        | some ps => simp [givenTree]
      · intro t ht
        obtain ⟨ps, hps, rfl⟩ := Option.map_eq_some_iff.1 ht
        rw [typed, hps, Option.getD_some]

/-- A run that ends well prints the result of its command. -/
theorem result_of_exitCode {files : List (String × String)} {words : List String}
    {i : Invocation} {c : Command} (hi : Invocation.ofWords words = .ok i)
    (hc : Command.ofWords i.words i.command = .ok c) (hexit : (run files words).exitCode = 0) :
    ∃ settings, c.result settings = .ok (run files words).output := by
  have hfailed : ∀ log f, (Outcome.ofResult log (.error f)).exitCode ≠ 0 := by
    intro log f
    show f.exitCode ≠ 0
    unfold Failure.exitCode
    split
    · decide
    · decide
  have hrun : run files words = i.run files := by rw [run, hi]
  rw [hrun] at hexit ⊢
  cases hload : Settings.load files i.settingsPath with
  | error fault =>
    unfold Invocation.run at hexit
    rw [hload] at hexit
    exact absurd hexit (hfailed _ _)
  | ok settings =>
    cases hlevel : settings.logging.levelFault? with
    | some fault =>
      unfold Invocation.run at hexit
      simp only [hload, hlevel] at hexit
      exact absurd hexit (hfailed _ _)
    | none =>
      rw [Invocation.run_of_load hload hlevel hc, Command.run] at hexit ⊢
      cases hresult : c.result settings with
      | error f =>
        rw [hresult] at hexit
        exact absurd hexit (hfailed _ _)
      | ok output => exact ⟨settings, hresult⟩

/-! ## Reading the output -/

theorem read?_document {d : JsonTree.Dialect} {number : Binary64 → Option JsonTree}
    (hd : d.Reads number) (t : JsonTree) :
    JsonTree.read? (document d t).toList = reading? number t := by
  rw [document, JsonTree.document, String.toList_append, String.toList_ofList]
  exact JsonTree.read?_write hd t (Or.inr rfl)

theorem reading?_madeTree (number : Binary64 → Option JsonTree) (template url : String)
    (params : JsonTree) :
    reading? number (madeTree template url params) =
      (reading? number params).map (madeTree template url) := by
  rw [madeTree, reading?]
  simp only [memberReadings?, reading?]
  cases reading? number params with
  | none => rfl
  | some t => rfl

theorem reading?_givenTree (url : Option String) {params : Option JsonTree} {ps : Params}
    (h : AreTyped ps) (hparams : ∀ t ∈ params, t = .ofParams ps) :
    ∃ t, reading? compactReading (givenTree url params) = some t ∧
      t.member? "url_template" = none := by
  cases params with
  | none =>
    cases url with
    | none => exact ⟨_, rfl, rfl⟩
    | some u => exact ⟨_, rfl, rfl⟩
  | some t =>
    have ht := reading?_compact_params h
    rw [← hparams t rfl] at ht
    cases url with
    | none =>
      refine ⟨givenTree none (some (.ofParams (orNulls ps))), ?_, rfl⟩
      simp [givenTree, reading?, memberReadings?, ht]
    | some u =>
      refine ⟨givenTree (some u) (some (.ofParams (orNulls ps))), ?_, rfl⟩
      simp [givenTree, reading?, memberReadings?, ht]

/-- What is read of a URL that was made, and when. -/
theorem read?_made {c : Command} (htyped : AreTyped c.typed) {d : JsonTree.Dialect}
    (hd : c.name = .transform ∧ d = .compact ∨ c.name ≠ .transform ∧ d = .plain)
    (template url : String) :
    ((∃ doc, JsonTree.read? (document d (madeTree template url (.ofParams c.typed))).toList =
        some doc) ↔ c.name = .transform ∨ ∀ p ∈ c.typed, p.2.isFinite = true) ∧
      ∀ doc, JsonTree.read? (document d (madeTree template url (.ofParams c.typed))).toList =
        some doc → doc = madeTree template url (.ofParams (orNulls c.typed)) := by
  rcases hd with ⟨hname, rfl⟩ | ⟨hname, rfl⟩
  · rw [read?_document JsonTree.reads_compact, reading?_madeTree,
      reading?_compact_params htyped, Option.map_some]
    exact ⟨⟨fun _ => Or.inl hname, fun _ => ⟨_, rfl⟩⟩, fun doc hdoc => (Option.some.inj hdoc).symm⟩
  · rw [read?_document JsonTree.reads_plain, reading?_madeTree]
    have hfinite : ∀ doc, (reading? plainReading (.ofParams c.typed)).map
        (madeTree template url) = some doc → ∀ p ∈ c.typed, p.2.isFinite = true := by
      intro doc hdoc
      obtain ⟨t, ht, _⟩ := Option.map_eq_some_iff.1 hdoc
      exact isFinite_of_reading?_plain ht
    refine ⟨⟨fun ⟨doc, hdoc⟩ => Or.inr (hfinite doc hdoc), fun h => ?_⟩, fun doc hdoc => ?_⟩
    · rw [reading?_plain_params htyped (h.resolve_left hname)]
      exact ⟨_, rfl⟩
    · rw [reading?_plain_params htyped (hfinite doc hdoc)] at hdoc
      exact (Option.some.inj hdoc).symm

/-- The output of a command is one document of JSON just where it has a text for every typed
number, or null for those that have none.  A document about a request that was resolved, and
every document of the other command, says what its URL was made from, and where every typed
number is finite the URL is made again from what it says. -/
theorem document_reads_back {files : List (String × String)} {words : List String}
    {i : Invocation} {c : Command} (hi : Invocation.ofWords words = .ok i)
    (hc : Command.ofWords i.words i.command = .ok c) (hwrites : c.writesDocument = true)
    (hexit : (run files words).exitCode = 0) :
    ((∃ doc, JsonTree.read? (run files words).output.toList = some doc) ↔
        c.name = .transform ∨ ∀ p ∈ c.typed, p.2.isFinite = true) ∧
      ∀ doc, JsonTree.read? (run files words).output.toList = some doc →
        c.name = .transform ∧ doc.member? "url_template" = none ∨
          ∃ template url members, doc.member? "url_template" = some (.text template) ∧
            doc.member? "url" = some (.text url) ∧
            doc.member? "url_template_params" = some (.object members) ∧
            JsonTree.toParams members = orNulls c.typed ∧
            Template.url template c.typed = .ok url ∧
            ((∀ p ∈ c.typed, p.2.isFinite = true) →
              Template.url template (JsonTree.toParams members) = .ok url) := by
  have htyped := areTyped_of_ofWords hc
  obtain ⟨settings, hresult⟩ := result_of_exitCode hi hc hexit
  rcases Command.output_of_result hwrites hresult with
    ⟨d, template, url, hd, hurl, houtput⟩ | ⟨hname, url, params, houtput, hparams⟩
  · -- the document is about a URL that was made
    obtain ⟨hiff, hmade⟩ := read?_made htyped hd template url
    have hparams := toParams_orNulls htyped
    rw [houtput]
    refine ⟨hiff, fun doc hdoc => ?_⟩
    rw [hmade doc hdoc]
    refine Or.inr ⟨template, url, _, rfl, rfl, rfl, hparams, hurl, fun hfinite => ?_⟩
    rw [hparams, orNulls_eq_self hfinite]
    exact hurl
  · -- the request was left as it was, and its document has no template
    obtain ⟨t, ht, hmember⟩ := reading?_givenTree url htyped hparams
    rw [houtput, read?_document JsonTree.reads_compact, ht]
    refine ⟨⟨fun _ => Or.inl hname, fun _ => ⟨t, rfl⟩⟩, fun doc hdoc => ?_⟩
    cases hdoc
    exact Or.inl ⟨hname, hmember⟩

/-- A number with an exponent, which the document writes without one, and an integer. -/
theorem document_reads_back_exponent :
    ∃ i c, Invocation.ofWords ["transform", "-t", "/v/{v}{?q}", "-p", "v=1e-05", "-p", "q=7"] =
        .ok i ∧ Command.ofWords i.words i.command = .ok c ∧ c.writesDocument = true ∧
      (run [] ["transform", "-t", "/v/{v}{?q}", "-p", "v=1e-05", "-p", "q=7"]).exitCode = 0 ∧
      (∀ p ∈ c.typed, p.2.isFinite = true) ∧
      ∃ doc template url members, JsonTree.read? (run [] ["transform", "-t", "/v/{v}{?q}", "-p",
          "v=1e-05", "-p", "q=7"]).output.toList = some doc ∧
        doc.member? "url_template" = some (.text template) ∧
        doc.member? "url" = some (.text url) ∧
        doc.member? "url_template_params" = some (.object members) ∧
        Template.url template (JsonTree.toParams members) = .ok url := by
  have hi : Invocation.ofWords ["transform", "-t", "/v/{v}{?q}", "-p", "v=1e-05", "-p", "q=7"] =
      .ok ⟨none, .transform, ["-t", "/v/{v}{?q}", "-p", "v=1e-05", "-p", "q=7"]⟩ := rfl
  have hgiven : (Command.ofWords ["-t", "/v/{v}{?q}", "-p", "v=1e-05", "-p", "q=7"]
      .transform).toOption.any
        (fun c => c.writesDocument ∧ ∀ p ∈ c.typed, p.2.isFinite) = true := by
    decide +kernel
  have hexit : (run [] ["transform", "-t", "/v/{v}{?q}", "-p", "v=1e-05", "-p",
      "q=7"]).exitCode = 0 := by
    decide +kernel
  have hmember : (JsonTree.read? (run [] ["transform", "-t", "/v/{v}{?q}", "-p", "v=1e-05", "-p",
      "q=7"]).output.toList).any (fun doc => (doc.member? "url_template").isSome) = true := by
    decide +kernel
  obtain ⟨c, hc, hok⟩ := (Option.any_eq_true _ _).1 hgiven
  obtain ⟨hwrites, hfinite⟩ := of_decide_eq_true hok
  obtain ⟨doc, hread, hsome⟩ := (Option.any_eq_true _ _).1 hmember
  have hc' : Command.ofWords ["-t", "/v/{v}{?q}", "-p", "v=1e-05", "-p", "q=7"] .transform =
      .ok c := Outcome.eq_ok_of_toOption hc
  rcases (document_reads_back hi hc' hwrites hexit).2 doc hread with
    ⟨_, hnone⟩ | ⟨template, url, members, htemplate, hurl, hparams, _, _, hagain⟩
  · rw [hnone] at hsome
    cases hsome
  · exact ⟨_, c, hi, hc', hwrites, hexit, hfinite, doc, template, url, members, hread, htemplate,
      hurl, hparams, hagain hfinite⟩

/-- A word that is no number of JSON, and a null where the URL was made from a word. -/
theorem documents_lose_infinities :
    (run [] ["expand", "/v/{v}", "-p", "v=nan", "--json-output"]).exitCode = 0 ∧
      JsonTree.read? (run [] ["expand", "/v/{v}", "-p", "v=nan",
        "--json-output"]).output.toList = none ∧
      ∃ doc members, (run [] ["transform", "-t", "/{a}", "-p", "a=-inf"]).exitCode = 0 ∧
        JsonTree.read? (run [] ["transform", "-t", "/{a}", "-p", "a=-inf"]).output.toList =
          some doc ∧
        doc.member? "url" = some (.text "/-inf") ∧
        doc.member? "url_template" = some (.text "/{a}") ∧
        doc.member? "url_template_params" = some (.object members) ∧
        Template.url "/{a}" (JsonTree.toParams members) = .ok "/" := by
  have hnan : (run [] ["expand", "/v/{v}", "-p", "v=nan", "--json-output"]).output =
      document .plain (madeTree "/v/{v}" "/v/nan" (.ofParams [("v", .float .nan)])) := by
    decide +kernel
  have hinf : (run [] ["transform", "-t", "/{a}", "-p", "a=-inf"]).output =
      document .compact
        (madeTree "/{a}" "/-inf" (.ofParams [("a", .float (.infinite true))])) := by
    decide +kernel
  refine ⟨by decide +kernel, ?_, madeTree "/{a}" "/-inf" (.object [("a", .null)]), _,
    by decide +kernel, ?_, rfl, rfl, rfl, Outcome.eq_ok_of_toOption (by decide +kernel)⟩
  · rw [hnan, read?_document JsonTree.reads_plain]
    rfl
  · rw [hinf, read?_document JsonTree.reads_compact]
    rfl

end CommandLine
end RouteTemplate
