/-
URLs as a client holds them.  A URL is split once, from left to right, and each
component is brought to one form: the scheme and the host in lower case, no
service number that the scheme implies, no dot components in the path, and
everything that a component may not hold percent-encoded.  What is encoded
already stays.
-/
import RouteTemplate.Http.Host
import RouteTemplate.Text.Blank
import RouteTemplate.Text.Digit
import RouteTemplate.Text.Pieces

namespace RouteTemplate

structure Url where
  scheme : List Char
  userInfo : List Char
  host : List Char
  /-- The number of the service at the host, where it is not the usual one. -/
  service : Option Int
  path : List Char
  query : Option (List Char)
  fragment : Option (List Char)
deriving DecidableEq, Repr

namespace Url

inductive Fault where
  | tooLong
  | controlCharacter
  | badHost
  | badService
  | badPath
deriving DecidableEq, Repr

/-! ## Splitting -/

/-- The components of a text, before they are looked at. -/
structure Reference where
  scheme : List Char
  authority : List Char
  path : List Char
  query : Option (List Char)
  fragment : Option (List Char)
deriving DecidableEq, Repr

def isSchemeChar (c : Char) : Bool := c.isAlphanum || c = '+' || c = '.' || c = '-'

/-- The scheme and what follows its colon.  An empty scheme may have a colon
too. -/
def splitScheme (s : List Char) : List Char × List Char :=
  let scheme := s.takeWhile isSchemeChar
  match s.drop scheme.length with
  | ':' :: rest => if scheme.isEmpty || (scheme.headD ' ').isAlpha then (scheme, rest) else ([], s)
  | _ => ([], s)

def splitAuthority (s : List Char) : List Char × List Char :=
  match s with
  | '/' :: '/' :: rest => rest.span fun c => c ≠ '/' && c ≠ '?' && c ≠ '#'
  | _ => ([], s)

/-- What stands before a mark, and what stands behind it if it is there. -/
def splitMark (mark : Char) (s : List Char) : List Char × Option (List Char) :=
  match Text.cut? mark s with
  | some (before, behind) => (before, some behind)
  | none => (s, none)

def Reference.split (s : List Char) : Reference :=
  let (scheme, s) := splitScheme s
  let (authority, s) := splitAuthority s
  let (s, fragment) := splitMark '#' s
  let (path, query) := splitMark '?' s
  ⟨scheme, authority, path, query, fragment⟩

/-- The user, the host and the service of an authority.  The last at sign ends the
user; a host in brackets may hold colons. -/
def splitHost (authority : List Char) : List Char × List Char × List Char :=
  let tail := (authority.reverse.takeWhile (· ≠ '@')).reverse
  let user := (authority.take (authority.length - tail.length)).dropLast
  let bracketed := (tail.reverse.dropWhile (· ≠ ']')).reverse
  let host :=
    if tail.head? = some '[' ∧ !bracketed.isEmpty then bracketed else tail.takeWhile (· ≠ ':')
  let rest := tail.drop host.length
  (user, host, if rest.head? = some ':' then rest.drop 1 else rest)

/-! ## Components -/

def isVisible (c : Char) : Bool := 0x20 < c.toNat && c.toNat < 0x7F

def keepsFragment (c : Char) : Bool := isVisible c && !(['"', '<', '>', '\x60'].contains c)

def keepsQuery (c : Char) : Bool := isVisible c && !(['"', '#', '<', '>'].contains c)

def keepsPath (c : Char) : Bool := keepsQuery c && !(['?', '\x60', '{', '}'].contains c)

def keepsUser (c : Char) : Bool :=
  keepsPath c && !(['/', ';', '=', '@', '[', '\\', ']', '^', '|'].contains c)

def usualService? (scheme : List Char) : Option Int :=
  match String.ofList scheme with
  | "ftp" => some 21
  | "http" | "ws" => some 80
  | "https" | "wss" => some 443
  | _ => none

/-- A whole number, with blanks around it, a sign, digits of any script and single
underscores between them. -/
def wholeNumber? (s : List Char) : Option Int :=
  let (negative, body) := Decimal.splitSign (Text.trim (s.map Text.plainDigit))
  let groups := body.splitOn '_'
  let digits := groups.flatten
  if groups.all Decimal.isDigits && digits.length ≤ Decimal.digitLimit then
    let n : Int := Decimal.ofDigits digits
    some (if negative then -n else n)
  else none

/-- A service; none where it is left out or is the one that the scheme implies. -/
def readService (scheme service : List Char) : Except Fault (Option Int) :=
  if service.isEmpty then .ok none
  else
    match wholeNumber? service with
    | some n => .ok (if usualService? scheme = some n then none else some n)
    | none => .error .badService

def readHost (host : List Char) : Except Fault (List Char) :=
  match Host.read? host with
  | some h => .ok h
  | none => .error .badHost

/-- Go through the components of a path.  One dot stands for nothing, two take
back the component before, but never the root. -/
def dropDots (components : List (List Char)) : List (List Char) :=
  let step (out : List (List Char)) (c : List Char) : List (List Char) :=
    if c = ['.'] then out
    else if c = ['.', '.'] then (if out = [[]] then out else out.dropLast)
    else out ++ [c]
  components.foldl step []

def tidyPath (path : List Char) : List Char :=
  let components := path.splitOn '/'
  if components.contains ['.'] || components.contains ['.', '.'] then
    List.intercalate ['/'] (dropDots components)
  else path

/-- A path behind an authority starts with a slash; a text that has neither
scheme nor authority does not start like one that has. -/
def isProperPath (hasScheme hasAuthority : Bool) (path : List Char) : Bool :=
  (!hasAuthority || path.isEmpty || path.head? == some '/') &&
    (hasScheme || hasAuthority ||
      (!(['/', '/'].isPrefixOf path) && path.head? != some ':'))

/-! ## Reading and writing -/

def ofReference (r : Reference) : Except Fault Url := do
  let scheme := r.scheme.map Char.toLower
  let (user, host, service) := splitHost r.authority
  let userInfo := Percent.encodeAll keepsUser user
  let host ← readHost host
  let service ← readService r.scheme service
  let hasScheme := !scheme.isEmpty
  let hasAuthority := !userInfo.isEmpty || !host.isEmpty || service.isSome
  if !isProperPath hasScheme hasAuthority r.path then .error .badPath
  else
    let path := if hasScheme || hasAuthority then tidyPath r.path else r.path
    return ⟨scheme, userInfo, host, service, Percent.encodeAll keepsPath path,
      r.query.map (Percent.encodeAll keepsQuery), r.fragment.map (Percent.encodeAll keepsFragment)⟩

/-- The greatest length of a URL. -/
def maxLength : Nat := 65536

def isControl (c : Char) : Bool := c.toNat < 0x20 || c.toNat = 0x7F

def parse (s : List Char) : Except Fault Url :=
  if maxLength < s.length then .error .tooLong
  else if s.any isControl then .error .controlCharacter
  else ofReference (Reference.split s)

def hostText (u : Url) : List Char :=
  if u.host.contains ':' then '[' :: u.host ++ [']'] else u.host

def authority (u : Url) : List Char :=
  (if u.userInfo.isEmpty then [] else u.userInfo ++ ['@']) ++ u.hostText ++
    (match u.service with
      | some n => ':' :: (toString n).toList
      | none => [])

def marked (mark : Char) : Option (List Char) → List Char
  | some s => mark :: s
  | none => []

def text (u : Url) : List Char :=
  (if u.scheme.isEmpty then [] else u.scheme ++ [':']) ++
    (if u.authority.isEmpty then [] else '/' :: '/' :: u.authority) ++
    u.path ++ marked '?' u.query ++ marked '#' u.fragment

/-! ## Changing and joining -/

def reference (u : Url) : Reference := ⟨u.scheme, u.authority, u.path, u.query, u.fragment⟩

def withQuery (u : Url) (query : Option (List Char)) : Except Fault Url :=
  ofReference { u.reference with query := query }

/-- What is asked of the host: the path, or the root, and the query. -/
def target (u : Url) : List Char :=
  (if u.path.isEmpty then ['/'] else u.path) ++ marked '?' u.query

def withTarget (u : Url) (target : List Char) : Except Fault Url :=
  let (path, query) := splitMark '?' target
  ofReference { u.reference with path := path, query := query }

def isAbsolute (u : Url) : Bool := !u.scheme.isEmpty && !u.host.isEmpty

/-- A URL that others can be appended to: its target ends in a slash. -/
def asBase (u : Url) : Except Fault Url :=
  if u.target.getLast? = some '/' then .ok u else u.withTarget (u.target ++ ['/'])

/-- An absolute URL by itself, and the target of any other appended to the
base. -/
def join (base u : Url) : Except Fault Url :=
  if u.isAbsolute then .ok u else base.withTarget (base.target ++ u.target.dropWhile (· = '/'))

end Url
end RouteTemplate
