/-
Loading settings from a file.  No file, or one that says nothing, stands for the
defaults; anything else has to be a mapping.
-/
import RouteTemplate.Settings.Basic
import RouteTemplate.Yaml.Document

namespace RouteTemplate
namespace Settings

inductive LoadFault where
  | unreadable (fault : Yaml.Fault)
  | directory (path : String)
  | tooLong (path : String)
  | notMapping (path : String)
  | invalid (faults : List Schema.Location)
deriving Repr

def LoadFault.message : LoadFault → String
  | .unreadable _ => "The document cannot be read"
  | .directory path => path ++ " is a directory"
  | .tooLong path => path ++ " is too long for a path"
  | .notMapping path => "Expected a mapping at the top of " ++ path
  | .invalid _ => "The settings are not valid"

def defaultFile : String := "url-template.yaml"

/-! ## Paths -/

/-- The components of a path; empty and dot components say nothing. -/
def components (path : String) : List String :=
  ((path.toList.splitOn '/').filter fun p => !p.isEmpty && p ≠ ['.']).map String.ofList

/-- What an absolute path starts with; exactly two slashes stay two. -/
def root (path : String) : String :=
  let slashes := (path.toList.takeWhile (· = '/')).length
  if slashes = 0 then "" else if slashes = 2 then "//" else "/"

/-- A path the way it is shown. -/
def tidyPath (path : String) : String :=
  let tidy := root path ++ String.intercalate "/" (components path)
  if tidy.isEmpty then "." else tidy

/-- No name in a path is longer than 255 bytes, and no path longer than 4095. -/
def isTooLong (path : String) : Bool :=
  path.utf8ByteSize > 4095 || (components path).any fun name => name.utf8ByteSize > 255

/-! ## Where a path leads

A place is told by the names that lead to it from the working directory, or from the
root, which goes by the name of a slash. -/

def start (path : String) : List String :=
  if (root path).isEmpty then [] else ["/"]

def names (path : String) : List String :=
  start path ++ components path

/-- Whether a place is the working directory, the root, or one above a file. -/
def isDirectory (files : List (String × String)) (here : List String) : Bool :=
  here == [] || here == ["/"] ||
    files.any fun f => here.isPrefixOf (names f.1) && here != names f.1

/-- The directory that a place is in.  None of the files lies above the working
directory, so that what is there is as good as the root. -/
def above (here : List String) : List String :=
  if here == [] || here == ["/"] then ["/"] else here.dropLast

/-- Go on by some names, each of which has to start at a directory. -/
def follow (files : List (String × String)) : List String → List String → Option (List String)
  | here, [] => some here
  | here, name :: rest =>
    if isDirectory files here then
      follow files (if name = ".." then above here else here ++ [name]) rest
    else none
termination_by structural _ rest => rest

/-- The text under a name, which the latest of several files gives. -/
def textAt (files : List (String × String)) (here : List String) : Option String :=
  (files.reverse.find? fun f => names f.1 == here).map Prod.snd

/-! ## Documents -/

/-- Text with its line ends in one form. -/
def unifyLineEnds : List Char → List Char
  | '\r' :: '\n' :: cs => '\n' :: unifyLineEnds cs
  | '\r' :: cs => '\n' :: unifyLineEnds cs
  | c :: cs => c :: unifyLineEnds cs
  | [] => []
termination_by structural s => s

/-- The settings that a document stands for, which was found at a path. -/
def ofDocument (path : String) (document : Value) : Except LoadFault Settings :=
  if document.isBlank then .ok standard
  else
    match document with
    | .map fields => (ofFields fields).mapError .invalid
    | _ => .error (.notMapping path)

/-- How deep settings lie: a setting is a scalar in a section of the whole. -/
def depth : Nat := 2

def ofText (path : String) (text : String) : Except LoadFault Settings := do
  let unified := String.ofList (unifyLineEnds text.toList)
  let document ← (Yaml.read depth unified).mapError .unreadable
  ofDocument path document

/-- The settings at a path among some files, or at the usual place. -/
def load (files : List (String × String)) (path : Option String) : Except LoadFault Settings :=
  let place := tidyPath (path.getD defaultFile)
  let target := follow files (start place) (components place)
  if isTooLong place then .error (.tooLong place)
  else
    match textAt files (names place) <|> target.bind (textAt files) with
    | some text => ofText place text
    | none =>
      if target.any (isDirectory files) then .error (.directory place) else .ok standard

end Settings
end RouteTemplate
