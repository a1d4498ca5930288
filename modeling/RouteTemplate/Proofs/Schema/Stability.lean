/-
Reading a record again.

What was read is written back as a mapping of its fields, under the names they have here or under
those they have outside, and in either case it is read as what it was.  A reading brings each
field into a form in which it is read as itself: a rule with that property is stable.  Rules for
fields that may be null, for mappings and for records within records are stable if the rules
they are made of are, and every default passes the rule of its field.
-/
import RouteTemplate.Proofs.Schema.Parameter
import RouteTemplate.Schema.Model

namespace RouteTemplate
namespace Schema

variable {α : Type}

/-! ## Stable rules -/

/-- What a rule has read, written back, is read as the same, whatever name it is then given
under. -/
def Rule.Stable (rule : Rule α) (write : α → Value) : Prop :=
  ∀ ⦃name v a⦄, rule name v = .ok a → ∀ name', rule name' (write a) = .ok a

theorem scalar_eq_ok {read? : Value → Option α} {name : String} {v : Value} {a : α} :
    scalar read? name v = .ok a ↔ read? v = some a := by
  rw [scalar]
  cases read? v with
  | none => simp
  | some b => simp

namespace Rule

variable {rule : Rule α} {write : α → Value}

theorem stable_scalar {read? : Value → Option α}
    (h : ∀ v a, read? v = some a → read? (write a) = some a) :
    Stable (scalar read?) write :=
  fun _ v a hv _ => scalar_eq_ok.2 (h v a (scalar_eq_ok.1 hv))

theorem Stable.nullable {write? : Option α → Value} (h : rule.Stable write)
    (hnone : write? none = .null) (hsome : ∀ a, write? (some a) = write a)
    (hwrite : ∀ a, write a ≠ .null) : Stable (nullable rule) write? := by
  have hnullable {w : Value} (hw : w ≠ .null) (name : String) :
      Schema.nullable rule name w = (rule name w).map some := by
    cases w with
    | null => exact absurd rfl hw
    | _ => rfl
  intro name v a? hv name'
  by_cases hnull : v = .null
  · subst hnull
    cases hv
    rw [hnone]
    rfl
  · rw [hnullable hnull] at hv
    obtain ⟨a, ha, rfl⟩ := Outcome.map_eq_ok.1 hv
    rw [hsome, hnullable (hwrite a), h ha name']
    rfl

theorem stable_mapping {read? : Value → Option Value}
    (h : ∀ v w, read? v = some w → read? w = some w) :
    Stable (mapping read?) Value.ofEntries := by
  intro name v rs hv name'
  cases v with
  | map es => exact mapping_of_mapping h hv name'
  | _ => cases hv

/-- A record within a record. -/
theorem stable_nested {read : Value → Checked α}
    (h : ∀ v a, read v = .ok a → read (write a) = .ok a) : Stable (nested read) write := by
  intro name v a hv name'
  have hread : read v = .ok a := by
    cases hv' : read v with
    | ok b =>
      rw [nested, hv'] at hv
      exact hv
    | error faults =>
      rw [nested, hv'] at hv
      cases hv
  rw [nested, h v a hread]
  rfl

/-- A field that was read, or has its default, is read as itself. -/
theorem Stable.of_optional (h : rule.Stable write) {fields : List (Value × Value)}
    {names : List String} {absent a : α} (hread : Schema.optional fields names absent rule = .ok a)
    (habsent : ∀ name, rule name (write absent) = .ok absent) (name : String) :
    rule name (write a) = .ok a := by
  rw [Schema.optional] at hread
  split at hread
  · exact h hread name
  · cases hread
    exact habsent name

theorem Stable.of_required (h : rule.Stable write) {fields : List (Value × Value)}
    {field : String} {a : α} (hread : required fields field rule = .ok a) (name : String) :
    rule name (write a) = .ok a := by
  rw [required] at hread
  split at hread
  · exact h hread name
  · cases hread

/-! ## The rules of fields -/

theorem stable_text : Stable (scalar text?) Value.text :=
  stable_scalar fun _ _ _ => rfl

theorem stable_text? : Stable (Schema.nullable (scalar text?)) Value.ofText? :=
  stable_text.nullable rfl (fun _ => rfl) fun _ h => by cases h

theorem stable_flag : Stable (scalar flag?) Value.bool :=
  stable_scalar fun _ _ _ => rfl

theorem stable_integer : Stable (scalar integer?) Value.int :=
  stable_scalar fun _ _ _ => rfl

theorem stable_entries : Stable (mapping some) Value.ofEntries :=
  stable_mapping fun _ _ _ => rfl

theorem stable_entries? : Stable (Schema.nullable (mapping some)) Value.ofEntries? :=
  stable_entries.nullable rfl (fun _ => rfl) fun _ h => by cases h

theorem stable_params? : Stable (Schema.nullable (mapping parameter?)) Value.ofEntries? :=
  (stable_mapping fun _ _ => parameter?_of_parameter?).nullable rfl (fun _ => rfl) fun _ h => by
    cases h

theorem stable_timeout : Stable (scalar ClientSettings.timeout?) Value.float := by
  refine stable_scalar fun v x h => ?_
  obtain ⟨_, hpositive⟩ := Option.filter_eq_some_iff.1 h
  exact Option.filter_eq_some_iff.2 ⟨rfl, hpositive⟩

end Rule

/-! ## Records written back -/

theorem record_eq_ok {read : List (Value × Value) → Checked α} {v : Value} {a : α} :
    record read v = .ok a ↔ ∃ fields, v = .map fields ∧ read fields = .ok a := by
  cases v with
  | map fields => simp [record]
  | _ => simp [record]

/-- Whether fields go by the names they have here or by those they have outside. -/
inductive Naming where
  | inside
  | outside
deriving DecidableEq, Repr

namespace Naming

def name : Naming → String → String
  | .inside, s => s
  | .outside, s => Model.outsideName s

/-- The fields of a record as one value. -/
def write (n : Naming) (fields : List (String × Value)) : Value :=
  Value.ofEntries (fields.map fun f => (n.name f.1, f.2))

/-- A record that is written under the names it has here, under its other names. -/
def rename (n : Naming) : Value → Value
  | .map es => .map (es.map fun e =>
      (match e.1 with
        | .text s => .text (n.name s)
        | key => key, e.2))
  | v => v

end Naming

/-- A record as one value.  Settings are the one record made of records. -/
def Model.write (n : Naming) : Model → List (String × Value) → Value
  | .settings, fields => n.write (fields.map fun f => (f.1, n.rename f.2))
  | _, fields => n.write fields

end Schema

open Schema Schema.Rule

theorem Policy.ofValue_write {v : Value} {p : Policy} (h : ofValue v = .ok p) (n : Naming) :
    ofValue (n.write p.fields) = .ok p := by
  obtain ⟨fields, rfl, hfields⟩ := record_eq_ok.1 h
  obtain ⟨flag, hflag, rfl⟩ := Outcome.map_eq_ok.1 hfields
  have hwrite : ofValue (n.write (Policy.mk flag).fields) =
      (scalar flag? (n.name "url_as_template") (.bool flag)).map Policy.mk := by
    cases n with
    | inside => rfl
    | outside => rfl
  rw [hwrite, stable_flag.of_optional hflag fun _ => rfl]
  rfl

theorem Request.ofValue_write {v : Value} {r : Request} (h : ofValue v = .ok r) (n : Naming) :
    ofValue (n.write r.fields) = .ok r := by
  obtain ⟨fields, rfl, hfields⟩ := record_eq_ok.1 h
  obtain ⟨⟨url, template, params, transport⟩, hall, rfl⟩ := Outcome.map_eq_ok.1 hfields
  obtain ⟨hurl, hrest⟩ := both_eq_ok.1 hall
  obtain ⟨htemplate, hrest⟩ := both_eq_ok.1 hrest
  obtain ⟨hparams, htransport⟩ := both_eq_ok.1 hrest
  have hwrite : ofValue (n.write (Request.mk url template params transport).fields) =
      (both (nullable (scalar text?) (n.name "url") (Value.ofText? url))
        (both (nullable (scalar text?) (n.name "url_template") (Value.ofText? template))
          (both (nullable (mapping parameter?) (n.name "url_template_params")
            (Value.ofEntries? params))
            (mapping some (n.name "transport") (Value.ofEntries transport))))).map
        fun fields => ⟨fields.1, fields.2.1, fields.2.2.1, fields.2.2.2⟩ := by
    cases n with
    | inside => rfl
    | outside => rfl
  rw [hwrite, stable_text?.of_optional hurl fun _ => rfl,
    stable_text?.of_optional htemplate fun _ => rfl,
    stable_params?.of_optional hparams fun _ => rfl,
    stable_entries.of_optional htransport fun _ => rfl]
  rfl

theorem RouteSummary.ofValue_write {v : Value} {s : RouteSummary} (h : ofValue v = .ok s)
    (n : Naming) : ofValue (n.write s.fields) = .ok s := by
  obtain ⟨fields, rfl, hfields⟩ := record_eq_ok.1 h
  obtain ⟨⟨status, reason, url, route, params⟩, hall, rfl⟩ := Outcome.map_eq_ok.1 hfields
  obtain ⟨hstatus, hrest⟩ := both_eq_ok.1 hall
  obtain ⟨hreason, hrest⟩ := both_eq_ok.1 hrest
  obtain ⟨hurl, hrest⟩ := both_eq_ok.1 hrest
  obtain ⟨hroute, hparams⟩ := both_eq_ok.1 hrest
  have hwrite : ofValue (n.write (RouteSummary.mk status reason url route params).fields) =
      (both (scalar integer? (n.name "status") (.int status))
        (both (scalar text? (n.name "reason") (.text reason))
          (both (scalar text? (n.name "url") (.text url))
            (both (scalar text? (n.name "route") (.text route))
              (nullable (mapping some) (n.name "route_params") (Value.ofEntries? params)))))).map
        fun fields =>
          ⟨fields.1, fields.2.1, fields.2.2.1, fields.2.2.2.1, fields.2.2.2.2⟩ := by
    cases n with
    | inside => rfl
    | outside => rfl
  rw [hwrite, stable_integer.of_required hstatus, stable_text.of_optional hreason fun _ => rfl,
    stable_text.of_required hurl, stable_text.of_required hroute,
    stable_entries?.of_optional hparams fun _ => rfl]
  rfl

theorem ClientSettings.ofValue_write {v : Value} {c : ClientSettings} (h : ofValue v = .ok c)
    (n : Naming) : ofValue (n.write c.fields) = .ok c := by
  obtain ⟨fields, rfl, hfields⟩ := record_eq_ok.1 h
  obtain ⟨⟨baseUrl, timeout, logResponses⟩, hall, rfl⟩ := Outcome.map_eq_ok.1 hfields
  obtain ⟨hbaseUrl, hrest⟩ := both_eq_ok.1 hall
  obtain ⟨htimeout, hlogResponses⟩ := both_eq_ok.1 hrest
  have hwrite : ofValue (n.write (ClientSettings.mk baseUrl timeout logResponses).fields) =
      (both (nullable (scalar text?) (n.name "base_url") (Value.ofText? baseUrl))
        (both (scalar timeout? (n.name "timeout") (.float timeout))
          (scalar flag? (n.name "log_responses") (.bool logResponses)))).map
        fun fields => ⟨fields.1, fields.2.1, fields.2.2⟩ := by
    cases n with
    | inside => rfl
    | outside => rfl
  rw [hwrite, stable_text?.of_optional hbaseUrl fun _ => rfl,
    stable_timeout.of_optional htimeout fun _ => rfl,
    stable_flag.of_optional hlogResponses fun _ => rfl]
  rfl

theorem LogSettings.ofValue_write {v : Value} {l : LogSettings} (h : ofValue v = .ok l)
    (n : Naming) : ofValue (n.write l.fields) = .ok l := by
  obtain ⟨fields, rfl, hfields⟩ := record_eq_ok.1 h
  obtain ⟨⟨level, output⟩, hall, rfl⟩ := Outcome.map_eq_ok.1 hfields
  obtain ⟨hlevel, houtput⟩ := both_eq_ok.1 hall
  have hwrite : ofValue (n.write (LogSettings.mk level output).fields) =
      (both (scalar text? (n.name "level") (.text level))
        (scalar text? (n.name "output") (.text output))).map
        fun fields => ⟨fields.1, fields.2⟩ := by
    cases n with
    | inside => rfl
    | outside => rfl
  rw [hwrite, stable_text.of_optional hlevel fun _ => rfl,
    stable_text.of_optional houtput fun _ => rfl]
  rfl

theorem Settings.ofValue_write {v : Value} {s : Settings} (h : ofValue v = .ok s) (n : Naming) :
    ofValue (Model.settings.write n s.fields) = .ok s := by
  obtain ⟨fields, rfl, hfields⟩ := record_eq_ok.1 h
  obtain ⟨⟨expansion, client, logging⟩, hall, rfl⟩ := Outcome.map_eq_ok.1 hfields
  obtain ⟨hexpansion, hrest⟩ := both_eq_ok.1 hall
  obtain ⟨hclient, hlogging⟩ := both_eq_ok.1 hrest
  have hwrite : ofValue (Model.settings.write n (Settings.mk expansion client logging).fields) =
      (both (nested Policy.ofValue (n.name "expansion") (n.write expansion.fields))
        (both (nested ClientSettings.ofValue (n.name "client") (n.write client.fields))
          (nested LogSettings.ofValue (n.name "logging") (n.write logging.fields)))).map
        fun sections => ⟨sections.1, sections.2.1, sections.2.2⟩ := by
    cases n with
    | inside => rfl
    | outside => rfl
  have hpolicy : Rule.Stable (nested Policy.ofValue) fun p => n.write p.fields :=
    stable_nested fun _ _ h => Policy.ofValue_write h n
  have hsettings : Rule.Stable (nested ClientSettings.ofValue) fun c => n.write c.fields :=
    stable_nested fun _ _ h => ClientSettings.ofValue_write h n
  have hlevel : Rule.Stable (nested LogSettings.ofValue) fun l => n.write l.fields :=
    stable_nested fun _ _ h => LogSettings.ofValue_write h n
  -- The default of a section is what a section without settings is read as.
  rw [hwrite, hpolicy.of_optional hexpansion (@hpolicy "" (.map []) _ rfl),
    hsettings.of_optional hclient (@hsettings "" (.map []) _ rfl),
    hlevel.of_optional hlogging (@hlevel "" (.map []) _ rfl)]
  rfl

/-- Reading is a projection: what was read is read as itself, by whichever names it is written
back. -/
theorem Schema.Model.read_write {m : Model} {v : Value} {fields : List (String × Value)}
    (h : m.read v = .ok fields) (n : Naming) : m.read (m.write n fields) = .ok fields := by
  cases m with
  | request =>
    obtain ⟨r, hr, rfl⟩ := Outcome.map_eq_ok.1 h
    exact congrArg (Except.map Request.fields) (Request.ofValue_write hr n)
  | policy =>
    obtain ⟨p, hp, rfl⟩ := Outcome.map_eq_ok.1 h
    exact congrArg (Except.map Policy.fields) (Policy.ofValue_write hp n)
  | routeSummary =>
    obtain ⟨s, hs, rfl⟩ := Outcome.map_eq_ok.1 h
    exact congrArg (Except.map RouteSummary.fields) (RouteSummary.ofValue_write hs n)
  | clientSettings =>
    obtain ⟨c, hc, rfl⟩ := Outcome.map_eq_ok.1 h
    exact congrArg (Except.map ClientSettings.fields) (ClientSettings.ofValue_write hc n)
  | logSettings =>
    obtain ⟨l, hl, rfl⟩ := Outcome.map_eq_ok.1 h
    exact congrArg (Except.map LogSettings.fields) (LogSettings.ofValue_write hl n)
  | settings =>
    obtain ⟨s, hs, rfl⟩ := Outcome.map_eq_ok.1 h
    exact congrArg (Except.map Settings.fields) (Settings.ofValue_write hs n)

/-- Settings with a number for a truth value and a truth value for a number, and a summary with
bytes for texts and for a key. -/
theorem Schema.Model.read_write_settings :
    let given : Value := .map [(.text "expansion", .map [(.text "urlAsTemplate", .int 0)]),
      (.text "client", .map [(.text "timeout", .bool true)])]
    let written : Value := .map [
      (.text "expansion", .map [(.text "urlAsTemplate", .bool false)]),
      (.text "client", .map [(.text "base_url", .null),
        (.text "timeout", .float (Binary64.ofInt 1)), (.text "log_responses", .bool false)]),
      (.text "logging", .map [(.text "level", .text "info"), (.text "output", .text "stderr")])]
    let seen : Value := .map [(.text "status", .bool true), (.text "url", .bytes [47, 97]),
      (.text "route", .text "/{v}"), (.text "route_params", .map [(.bytes [118], .tuple [.null])])]
    let noted : Value := .map [(.text "status", .int 1), (.text "reason", .text ""),
      (.text "url", .text "/a"), (.text "route", .text "/{v}"),
      (.text "route_params", .map [(.text "v", .tuple [.null])])]
    (∃ fields, settings.read given = .ok fields ∧ settings.write .outside fields = written ∧
      settings.read written = .ok fields) ∧
    ∃ fields, routeSummary.read seen = .ok fields ∧ routeSummary.write .inside fields = noted ∧
      routeSummary.read noted = .ok fields := by
  intro given written seen noted
  obtain ⟨s, hs, hwritten⟩ : ∃ s, settings.read given = .ok s ∧
      settings.write .outside s = written := ⟨_, rfl, rfl⟩
  obtain ⟨t, ht, hnoted⟩ : ∃ t, routeSummary.read seen = .ok t ∧
      routeSummary.write .inside t = noted := ⟨_, rfl, rfl⟩
  refine ⟨⟨s, hs, hwritten, ?_⟩, t, ht, hnoted, ?_⟩
  · exact hwritten ▸ read_write hs .outside
  · exact hnoted ▸ read_write ht .inside

end RouteTemplate
