/-
The words of a command line, sorted into options and operands.

A word that starts with a dash is an option.  A long one has its value after an
equals sign or in the next word, a letter has it in the same word or the next,
and the next word is the value whatever it looks like.  Two dashes alone end the
options.
-/
import RouteTemplate.Text.Pieces
import RouteTemplate.Text.Quoted

namespace RouteTemplate
namespace CommandLine

/-- What is wrong with the way a command is called. -/
inductive UsageError where
  | noSuchOption (name : String)
  | valueMissing (option : String)
  | valueUnwanted (option : String)
  | missingCommand
  | noSuchCommand (name : String)
  | missingOperand (name : String)
  | extraOperands (words : List String)
  | badParameter (word : String)
deriving DecidableEq, Repr

/-- An option that a command knows.  Only an option with a value has a letter. -/
structure OptionForm where
  long : String
  letter : Option Char
  takesValue : Bool
deriving Repr

/-- A word by itself. -/
inductive Word where
  | operand
  | complete (option : String) (value : Option String)
  /-- An option, the way it was written, whose value is the next word. -/
  | incomplete (option : String) (written : String)
deriving Repr

structure Words where
  /-- The options under their long names, in order. -/
  options : List (String × Option String)
  operands : List String
deriving Repr

namespace Word

def readLong (forms : List OptionForm) (word : String) : Except UsageError Word :=
  let (name, value) :=
    match Text.cut? '=' word.toList with
    | some (name, value) => (String.ofList name, some (String.ofList value))
    | none => (word, none)
  match forms.find? fun f => f.long == name with
  | none => .error (.noSuchOption name)
  | some f =>
    match f.takesValue, value with
    | true, some v => .ok (.complete name (some v))
    | true, none => .ok (.incomplete name name)
    | false, some _ => .error (.valueUnwanted name)
    | false, none => .ok (.complete name none)

def readLetter (forms : List OptionForm) (letter : Char) (rest : List Char) :
    Except UsageError Word :=
  let written := String.ofList ['-', letter]
  match forms.find? fun f => f.letter == some letter with
  | none => .error (.noSuchOption written)
  | some f =>
    if rest.isEmpty then .ok (.incomplete f.long written)
    else .ok (.complete f.long (some (String.ofList rest)))

def read (forms : List OptionForm) (word : String) : Except UsageError Word :=
  match word.toList with
  | '-' :: '-' :: _ => readLong forms word
  | '-' :: letter :: rest => readLetter forms letter rest
  | _ => .ok .operand

end Word

namespace Words

def addOption (name : String) (value : Option String) (w : Words) : Words :=
  { w with options := (name, value) :: w.options }

def addOperand (word : String) (w : Words) : Words :=
  { w with operands := word :: w.operands }

/-- Sort words.  Where operands and options do not mix, the first operand ends
the options too. -/
def sort (forms : List OptionForm) (mixed : Bool) : List String → Except UsageError Words
  | [] => .ok ⟨[], []⟩
  | word :: rest =>
    if word = "--" then .ok ⟨[], rest⟩
    else
      match Word.read forms word with
      | .error e => .error e
      | .ok .operand =>
        if mixed then (sort forms mixed rest).map (addOperand word) else .ok ⟨[], word :: rest⟩
      | .ok (.complete name value) => (sort forms mixed rest).map (addOption name value)
      | .ok (.incomplete name written) =>
        match rest with
        | [] => .error (.valueMissing written)
        | value :: rest => (sort forms mixed rest).map (addOption name (some value))

/-- The values of an option, in order. -/
def values (w : Words) (name : String) : List String :=
  w.options.filterMap fun o => if o.1 = name then o.2 else none

/-- The value of an option; the last one given counts. -/
def value? (w : Words) (name : String) : Option String := (w.values name).getLast?

def has (w : Words) (name : String) : Bool := w.options.any fun o => o.1 == name

end Words

namespace UsageError

def message : UsageError → String
  | .noSuchOption name => "No such option: " ++ name
  | .valueMissing option => "Option '" ++ option ++ "' requires an argument."
  | .valueUnwanted option => "Option '" ++ option ++ "' does not take a value."
  | .missingCommand => "Missing command."
  | .noSuchCommand name => "No such command " ++ quote name ++ "."
  | .missingOperand name => "Missing argument '" ++ name ++ "'."
  | .extraOperands words =>
    "Got unexpected extra argument" ++ (if words.length = 1 then " (" else "s (") ++
      String.intercalate " " words ++ ")"
  | .badParameter word =>
    "Invalid value for --param: Expected name=value, got " ++ quote word
where
  quote (s : String) : String := String.ofList (Text.quoted s.toList)

end UsageError
end CommandLine
end RouteTemplate
