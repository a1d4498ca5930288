/-
The three commands of the program, read from words: `expand` prints the URL that
a template makes, `variables` lists what a template holds, and `transform`
resolves a whole request.
-/
import RouteTemplate.CommandLine.Argument
import RouteTemplate.CommandLine.Words

namespace RouteTemplate
namespace CommandLine

inductive CommandName where
  | expand
  | listing
  | transform
deriving DecidableEq, Repr

/-- A command and its words, which are not looked at before the settings are
there. -/
structure Invocation where
  settingsPath : Option String
  command : CommandName
  words : List String
deriving Repr

inductive Command where
  | expand (template : String) (params : Params) (asJson : Bool)
  | listing (template : String) (asJson : Bool)
  /-- A policy of its own wins over that of the settings. -/
  | transform (url template : Option String) (params : Option Params) (policy : Option Policy)
deriving Repr

/-! ## The program's own options -/

def configOption : OptionForm := ⟨"--config", some 'c', true⟩

def CommandName.ofText? : String → Option CommandName
  | "expand" => some .expand
  | "variables" => some .listing
  | "transform" => some .transform
  | _ => none

def Invocation.ofWords (words : List String) : Except UsageError Invocation := do
  let sorted ← Words.sort [configOption] false words
  match sorted.operands with
  | [] => .error .missingCommand
  | name :: rest =>
    match CommandName.ofText? name with
    | some command => .ok ⟨sorted.value? configOption.long, command, rest⟩
    | none => .error (.noSuchCommand name)

/-! ## The options of the commands -/

def paramOption : OptionForm := ⟨"--param", some 'p', true⟩
def jsonOption : OptionForm := ⟨"--json-output", none, false⟩
def urlOption : OptionForm := ⟨"--url", none, true⟩
def templateOption : OptionForm := ⟨"--template", some 't', true⟩
def urlIsTemplateOption : OptionForm := ⟨"--url-as-template", none, false⟩
def urlIsLiteralOption : OptionForm := ⟨"--no-url-as-template", none, false⟩

def templateOperand : String := "TEMPLATE"

def noOperands : List String → Except UsageError Unit
  | [] => .ok ()
  | words => .error (.extraOperands words)

/-- The one operand of a command that takes one. -/
def oneOperand (name : String) : List String → Except UsageError String
  | [] => .error (.missingOperand name)
  | word :: rest => (noOperands rest).map fun _ => word

def params (w : Words) : Except UsageError Params :=
  (readPairs (w.values paramOption.long)).mapError .badParameter

/-- Of the two options about a policy the last one given counts. -/
def policy? (w : Words) : Option Policy :=
  (w.options.filterMap fun o =>
    if o.1 = urlIsTemplateOption.long then some (Policy.mk true)
    else if o.1 = urlIsLiteralOption.long then some (Policy.mk false)
    else none).getLast?

def Command.ofWords (words : List String) : CommandName → Except UsageError Command
  | .expand => do
    let w ← Words.sort [paramOption, jsonOption] true words
    let template ← oneOperand templateOperand w.operands
    return .expand template (← params w) (w.has jsonOption.long)
  | .listing => do
    let w ← Words.sort [jsonOption] true words
    let template ← oneOperand templateOperand w.operands
    return .listing template (w.has jsonOption.long)
  | .transform => do
    let w ← Words.sort
      [urlOption, templateOption, paramOption, urlIsTemplateOption, urlIsLiteralOption] true words
    noOperands w.operands
    let given ← params w
    return .transform (w.value? urlOption.long) (w.value? templateOption.long)
      (if w.has paramOption.long then some given else none) (policy? w)

end CommandLine
end RouteTemplate
