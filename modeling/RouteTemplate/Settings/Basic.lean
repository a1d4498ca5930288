/-
The settings of the program, which come from one document with three sections.
A section or a setting that is not given has its default.
-/
import RouteTemplate.Log
import RouteTemplate.Request.Basic
import RouteTemplate.Text.Capital

namespace RouteTemplate

/-- The settings of a client. -/
structure ClientSettings where
  baseUrl : Option String
  /-- Seconds. -/
  timeout : Binary64
  logResponses : Bool
deriving Repr

structure LogSettings where
  level : String
  output : String
deriving DecidableEq, Repr

structure Settings where
  expansion : Policy
  client : ClientSettings
  logging : LogSettings
deriving Repr

namespace ClientSettings

/-- A timeout is any number above zero, without limit. -/
def timeout? (v : Value) : Option Binary64 :=
  (Schema.number? v).filter Binary64.isPositive

def ofFields (fields : List (Value × Value)) : Schema.Checked ClientSettings :=
  let baseUrl := Schema.optional fields ["base_url"] none
    (Schema.nullable (Schema.scalar Schema.text?))
  let timeout := Schema.optional fields ["timeout"] (Binary64.ofInt 10) (Schema.scalar timeout?)
  let logResponses := Schema.optional fields ["log_responses"] false (Schema.scalar Schema.flag?)
  (Schema.both baseUrl (Schema.both timeout logResponses)).map
    fun (baseUrl, timeout, logResponses) => ⟨baseUrl, timeout, logResponses⟩

def ofValue : Value → Schema.Checked ClientSettings := Schema.record ofFields

def fields (c : ClientSettings) : List (String × Value) :=
  [("base_url", Value.ofText? c.baseUrl), ("timeout", .float c.timeout),
    ("log_responses", .bool c.logResponses)]

end ClientSettings

namespace LogSettings

/-- The words that mean something else where a level is asked for. -/
inductive LevelFault where
  /-- The layout of a line. -/
  | layout
  /-- All layouts that there are. -/
  | layouts
deriving DecidableEq, Repr

def levelFault? (l : LogSettings) : Option LevelFault :=
  match Text.capitals l.level with
  | "BASIC_FORMAT" => some .layout
  | "_STYLES" => some .layouts
  | _ => none

/-- The least urgency that a level lets through.  A word that is no level counts
as `info`. -/
def threshold (l : LogSettings) : Nat :=
  match Text.capitals l.level with
  | "NOTSET" => 0
  | "DEBUG" => 10
  | "WARNING" | "WARN" => 30
  | "ERROR" => 40
  | "CRITICAL" | "FATAL" => 50
  | _ => 20

def shows (l : LogSettings) (r : LogRecord) : Bool := l.threshold ≤ r.severity.rank

def ofFields (fields : List (Value × Value)) : Schema.Checked LogSettings :=
  let level := Schema.optional fields ["level"] "info" (Schema.scalar Schema.text?)
  let output := Schema.optional fields ["output"] "stderr" (Schema.scalar Schema.text?)
  (Schema.both level output).map fun (level, output) => ⟨level, output⟩

def ofValue : Value → Schema.Checked LogSettings := Schema.record ofFields

def fields (l : LogSettings) : List (String × Value) :=
  [("level", .text l.level), ("output", .text l.output)]

end LogSettings

namespace Settings

/-- What holds where nothing is said. -/
def standard : Settings := ⟨⟨true⟩, ⟨none, Binary64.ofInt 10, false⟩, ⟨"info", "stderr"⟩⟩

def ofFields (fields : List (Value × Value)) : Schema.Checked Settings :=
  let expansion := Schema.optional fields ["expansion"] standard.expansion
    (Schema.nested Policy.ofValue)
  let client := Schema.optional fields ["client"] standard.client
    (Schema.nested ClientSettings.ofValue)
  let logging := Schema.optional fields ["logging"] standard.logging
    (Schema.nested LogSettings.ofValue)
  (Schema.both expansion (Schema.both client logging)).map
    fun (expansion, client, logging) => ⟨expansion, client, logging⟩

def ofValue : Value → Schema.Checked Settings := Schema.record ofFields

def fields (s : Settings) : List (String × Value) :=
  [("expansion", Value.ofEntries s.expansion.fields), ("client", Value.ofEntries s.client.fields),
    ("logging", Value.ofEntries s.logging.fields)]

end Settings
end RouteTemplate
