/-
Running a command line: what is printed, what is logged, and how it ends.
-/
import RouteTemplate.CommandLine.Command
import RouteTemplate.Json.Tree
import RouteTemplate.Request.Resolution
import RouteTemplate.Settings.Load
import RouteTemplate.Table

namespace RouteTemplate
namespace CommandLine

inductive Failure where
  | usage (error : UsageError)
  | settings (fault : Settings.LoadFault)
  | level (fault : LogSettings.LevelFault)
  | template (failure : Template.Failure)
deriving Repr

namespace Failure

def message : Failure → String
  | .usage e => e.message
  | .settings f => f.message
  | .level _ => "The level cannot be set"
  | .template f => f.message

/-- Whether the program itself says what is wrong; other failures are left to
whoever runs it. -/
def isReported : Failure → Bool
  | .usage _ => true
  | .settings (.notMapping _) => true
  | .settings _ => false
  | .level _ => false
  | .template (.parameterName _) => false
  | .template .tooManyDigits => false
  | .template _ => true

def exitCode : Failure → Nat
  | .usage _ => 2
  | _ => 1

/-- What is written where errors go. -/
def report (f : Failure) : List Char := Text.dropColours ("Error: " ++ f.message).toList

end Failure

/-! ## Output -/

/-- One variable of a template as the commands list it. -/
structure Listing where
  name : String
  operator : List Char
  /-- The length of `:n`, zero where there is none. -/
  length : Nat
  explodes : Bool
deriving Repr

namespace Listing

def ofVariable (e : Template.Expression) (v : Template.Variable) : Listing :=
  ⟨v.name, e.operator.symbol, v.modifier.length, v.modifier.explodes⟩

def ofTemplate (t : Template) : List Listing :=
  t.expressions.flatMap fun e => e.vars.map (ofVariable e)

def tree (l : Listing) : JsonTree :=
  .object
    [("name", .text l.name), ("operator", .text (String.ofList l.operator)),
      ("prefix", if l.length = 0 then .null else .int l.length), ("explode", .bool l.explodes)]

/-- The cells of a row; a dash stands for nothing. -/
def row (l : Listing) : List (List Char) :=
  [l.name.toList, if l.operator.isEmpty then ['-'] else l.operator,
    if l.length = 0 then ['-'] else Decimal.digitChars l.length,
    (if l.explodes then "yes" else "no").toList]

def columns : List Column :=
  [⟨"Name".toList, false⟩, ⟨"Operator".toList, false⟩, ⟨"Prefix".toList, true⟩,
    ⟨"Explode".toList, false⟩]

def table (source : String) (listings : List Listing) : Table :=
  ⟨"Variables in ".toList ++ Text.heading source.toList, columns, listings.map row⟩

end Listing

def document (d : JsonTree.Dialect) (t : JsonTree) : String := t.document d ++ "\n"

def expansionOutput (template url : String) (params : Params) (asJson : Bool) : String :=
  if asJson then
    document .plain
      (.object [("url", .text url), ("url_template", .text template),
        ("url_template_params", JsonTree.ofParams params)])
  else url ++ "\n"

def listingOutput (t : Template) (asJson : Bool) : String :=
  let listings := Listing.ofTemplate t
  if asJson then document .plain (.array (listings.map Listing.tree))
  else String.ofList ((Listing.table t.source listings).lines.flatMap (· ++ ['\n']))

/-- A request without its transport settings and without what is null. -/
def requestOutput (r : Request) : String :=
  let text (name : String) (s : Option String) : List (String × JsonTree) :=
    s.toList.map fun s => (name, .text s)
  document .compact
    (.object (text "url" r.url ++ text "url_template" r.template ++
      r.params.toList.map fun params => ("url_template_params", JsonTree.ofParams params)))

/-! ## Running -/

structure Outcome where
  output : String
  log : List LogRecord
  failure : Option Failure
deriving Repr

namespace Outcome

def ofResult (log : List LogRecord) : Except Failure String → Outcome
  | .ok output => ⟨output, log, none⟩
  | .error f => ⟨"", log, some f⟩

def exitCode (o : Outcome) : Nat := (o.failure.map Failure.exitCode).getD 0

/-- What is written where errors go, line after line. -/
def errors (o : Outcome) : List (List Char) :=
  o.log.map (fun r => r.shown.toList) ++
    (o.failure.filter Failure.isReported).toList.map Failure.report

end Outcome

namespace Command

def policy (settings : Settings) : Command → Policy
  | .transform _ _ _ own => own.getD settings.expansion
  | _ => settings.expansion

/-- The request that a command resolves. -/
def request? : Command → Option Request
  | .transform url template params _ => some ⟨url, template, params, []⟩
  | _ => none

def log (settings : Settings) (c : Command) : List LogRecord :=
  (c.request?.map (Request.notices (c.policy settings))).getD [] |>.filter settings.logging.shows

def result (settings : Settings) (c : Command) : Except Template.Failure String :=
  match c with
  | .expand template params asJson => do
    return expansionOutput template (← Template.url template params) params asJson
  | .listing template asJson => do return listingOutput (← Template.read template) asJson
  | .transform url template params _ => do
    return requestOutput (← Request.resolve (c.policy settings) ⟨url, template, params, []⟩)

def run (settings : Settings) (c : Command) : Outcome :=
  Outcome.ofResult (c.log settings) ((c.result settings).mapError .template)

end Command

/-- Run an invocation with the files that are there.  The settings come before
everything but the name of the command. -/
def Invocation.run (i : Invocation) (files : List (String × String)) : Outcome :=
  match Settings.load files i.settingsPath with
  | .error fault => Outcome.ofResult [] (.error (.settings fault))
  | .ok settings =>
    match settings.logging.levelFault?, Command.ofWords i.words i.command with
    | some fault, _ => Outcome.ofResult [] (.error (.level fault))
    | none, .error e => Outcome.ofResult [] (.error (.usage e))
    | none, .ok c => c.run settings

def run (files : List (String × String)) (words : List String) : Outcome :=
  match Invocation.ofWords words with
  | .error e => Outcome.ofResult [] (.error (.usage e))
  | .ok i => i.run files

end CommandLine
end RouteTemplate
