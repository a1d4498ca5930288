/-
Headers of a request.  Names are compared without regard to case; a name that
is given several times has all its values.
-/
import RouteTemplate.Value

namespace RouteTemplate

structure Header where
  /-- In lower case. -/
  name : String
  value : String
deriving DecidableEq, Repr

namespace Header

inductive Fault where
  | nameNotText
  | valueNotText
  | notAscii
deriving DecidableEq, Repr

/-- Bytes as text: in UTF-8, or each byte a character where they are not that. -/
def decode (bs : List UInt8) : String :=
  match String.fromUTF8? ⟨bs.toArray⟩ with
  | some s => s
  | none => String.ofList (bs.map fun b => Char.ofNat b.toNat)

def readText (other : Fault) : Value → Except Fault String
  | .text s => if s.toList.all (·.toNat < 128) then .ok s else .error .notAscii
  | .bytes bs => .ok (decode bs)
  | _ => .error other

def read (name value : Value) : Except Fault Header := do
  let n ← readText .nameNotText name
  let v ← readText .valueNotText value
  return ⟨n.toLower, v⟩

def ofEntries (entries : List (Value × Value)) : Except Fault (List Header) :=
  entries.mapM fun e => read e.1 e.2

/-- All values of a name. -/
def lookup (headers : List Header) (name : String) : String :=
  String.intercalate ", "
    ((headers.filter fun h => h.name == name.toLower).map Header.value)

end Header
end RouteTemplate
