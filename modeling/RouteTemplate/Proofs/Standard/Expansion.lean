/-
Expansion of standard templates as RFC 6570 has it: one table, and one loop
over the variables of an expression that reads it.

The loop knows texts, lists of texts and lists of pairs.  How a parameter
becomes one of these is said by `bind`, where the text of a scalar is the one
that scalars are expanded as everywhere.
-/
import RouteTemplate.Proofs.Standard.Grammar
import RouteTemplate.Proofs.Template.Scalar

namespace RouteTemplate

/-! ## Parameters -/

namespace Value

/-- A key that no encoding changes. -/
def isPlainKey : Value → Bool
  | .text s => !s.toList.isEmpty && s.toList.all Percent.isUnreserved
  | _ => false

/-- Nothing, a scalar, or scalars and nothings in a list or under plain keys. -/
def isFlat : Value → Bool
  | .null => true
  | .list xs => xs.all fun x => x.isNull || x.isScalar
  | .map es => es.all fun e => e.1.isPlainKey && (e.2.isNull || e.2.isScalar)
  | v => v.isScalar

/-- The texts of the items that are something. -/
def members (xs : List Value) : List (List Char) :=
  (xs.filter fun x => !x.isNull).map scalarText

/-- The keys and texts of the entries that are something. -/
def pairs (es : List (Value × Value)) : List (List Char × List Char) :=
  (es.filter fun e => !e.2.isNull).map fun e => (e.1.scalarText, e.2.scalarText)

end Value

namespace Standard

/-- What a variable stands for.  A list or a list of pairs that is defined is
not empty. -/
inductive Binding where
  | undefined
  | text (s : List Char)
  | list (items : List (List Char))
  | pairs (entries : List (List Char × List Char))
deriving DecidableEq, Repr

def Binding.isComposite : Binding → Bool
  | .list _ | .pairs _ => true
  | _ => false

def Binding.ofItems (items : List (List Char)) : Binding :=
  if items = [] then .undefined else .list items

def Binding.ofPairs (entries : List (List Char × List Char)) : Binding :=
  if entries = [] then .undefined else .pairs entries

def Binding.ofValue : Value → Binding
  | .null => .undefined
  | .list xs => .ofItems (Value.members xs)
  | .map es => .ofPairs (Value.pairs es)
  | v => .text v.scalarText

def bind (p : Params) (name : Name) : Binding :=
  match p.lookup name.string with
  | some v => .ofValue v
  | none => .undefined

/-! ## The table -/

structure Row where
  /-- What stands before the first defined variable. -/
  first : List Char
  /-- What stands before each later one. -/
  sep : Char
  named : Bool
  /-- What stands behind a name without a value. -/
  ifEmpty : List Char
  allowed : Charset

def Operator.row : Operator → Row
  | .simple => ⟨[], ',', false, [], .unreserved⟩
  | .reserved => ⟨[], ',', false, [], .reserved⟩
  | .fragment => ⟨['#'], ',', false, [], .reserved⟩
  | .label => ⟨['.'], '.', false, [], .unreserved⟩
  | .path => ⟨['/'], '/', false, [], .unreserved⟩
  | .parameter => ⟨[';'], ';', true, [], .unreserved⟩
  | .query => ⟨['?'], '&', true, ['='], .unreserved⟩
  | .continuation => ⟨['&'], '&', true, ['='], .unreserved⟩

/-! ## The loop -/

/-- The encoding of literals, which names are written with too. -/
def literalText (s : List Char) : List Char := Charset.reserved.encode s

def Modifier.cut : Modifier → List Char → List Char
  | .first n _ _, s => s.take n
  | _, s => s

namespace Row

variable (r : Row)

/-- A name, with the text `shown` for its value unless the value is empty. -/
def label (name : List Char) (isEmpty : Bool) (shown : List Char) : List Char :=
  literalText name ++ if isEmpty then r.ifEmpty else '=' :: shown

/-- The text of a variable that is defined. -/
def write (v : VarSpec) : Binding → List Char
  | .undefined => []
  | .text s =>
    let shown := r.allowed.encode (v.modifier.cut s)
    if r.named then r.label v.name.text s.isEmpty shown else shown
  | .list items =>
    if v.modifier.explodes then
      List.intercalate [r.sep] (items.map fun s =>
        if r.named then r.label v.name.text s.isEmpty (r.allowed.encode s)
        else r.allowed.encode s)
    else
      let shown := List.intercalate [','] (items.map r.allowed.encode)
      if r.named then r.label v.name.text items.isEmpty shown else shown
  | .pairs entries =>
    if v.modifier.explodes then
      List.intercalate [r.sep] (entries.map fun (key, s) =>
        if r.named then r.label key s.isEmpty (r.allowed.encode s)
        else r.allowed.encode key ++ '=' :: r.allowed.encode s)
    else
      let shown := List.intercalate [','] (entries.map fun (key, s) =>
        r.allowed.encode key ++ ',' :: r.allowed.encode s)
      if r.named then r.label v.name.text entries.isEmpty shown else shown

/-- Variables from left to right; `started` tells whether one was defined yet. -/
def loop (env : Name → Binding) (started : Bool) : List VarSpec → List Char
  | [] => []
  | v :: vs =>
    if env v.name = .undefined then loop env started vs
    else (if started then [r.sep] else r.first) ++ r.write v (env v.name) ++ loop env true vs

end Row

/-! ## Templates -/

/-- Put a literal in front of parts, as one literal with the one that stands there. -/
def consLiteral (l : Literal) : List Part → List Part
  | .literal m :: rest =>
    .literal ⟨l.text ++ m.text, by
      simp only [List.mem_append, not_or]
      exact ⟨⟨l.braceFree.1, m.braceFree.1⟩, l.braceFree.2, m.braceFree.2⟩⟩ :: rest
  | rest => if l.text = [] then rest else .literal l :: rest

/-- The parts with all that stands between two expressions as one literal.  A
triplet of the text may lie across the literals that a sequence is made of. -/
def joinLiterals : List Part → List Part
  | [] => []
  | .literal l :: rest => consLiteral l (joinLiterals rest)
  | .expression e :: rest => .expression e :: joinLiterals rest

def expandPart (env : Name → Binding) : Part → List Char
  | .literal l => literalText l.text
  | .expression e => e.operator.row.loop env false e.vars

def expand (env : Name → Binding) (parts : List Part) : List Char :=
  (joinLiterals parts).flatMap (expandPart env)

/-- Whether a length is asked of a list or of pairs, of which there are some. -/
def LengthMeetsComposite (env : Name → Binding) (parts : List Part) : Prop :=
  ∃ e ∈ expressions parts, ∃ v ∈ e.vars, v.modifier.length ≠ 0 ∧ (env v.name).isComposite = true

instance (env : Name → Binding) (parts : List Part) :
    Decidable (LengthMeetsComposite env parts) :=
  inferInstanceAs (Decidable (∃ e ∈ expressions parts, ∃ v ∈ e.vars,
    v.modifier.length ≠ 0 ∧ (env v.name).isComposite = true))

/-- Whether all values that a template looks up can be written. -/
def Writable (p : Params) (parts : List Part) : Prop :=
  ∀ e ∈ expressions parts, ∀ v ∈ e.vars, ∀ value ∈ p.lookup v.name.string,
    value.isWritable = true

instance (p : Params) (parts : List Part) : Decidable (Writable p parts) :=
  inferInstanceAs (Decidable (∀ e ∈ expressions parts, ∀ v ∈ e.vars,
    ∀ value ∈ p.lookup v.name.string, value.isWritable = true))

/-- The values that `;` writes as the table says: no composite that comes to
nothing, and no empty text that would stand in a composite or be exploded. -/
def Solid (m : Modifier) : Value → Prop
  | .null => True
  | .list xs => Value.members xs ≠ [] ∧ [] ∉ Value.members xs
  | .map es => Value.pairs es ≠ [] ∧ ∀ e ∈ Value.pairs es, e.2 ≠ []
  | v => m.explodes = true → v.scalarText ≠ []

instance : (m : Modifier) → (value : Value) → Decidable (Solid m value)
  | _, .null => .isTrue trivial
  | _, .list xs => inferInstanceAs (Decidable (Value.members xs ≠ [] ∧ [] ∉ Value.members xs))
  | _, .map es =>
    inferInstanceAs (Decidable (Value.pairs es ≠ [] ∧ ∀ e ∈ Value.pairs es, e.2 ≠ []))
  | m, .bool b => inferInstanceAs (Decidable (m.explodes = true → (Value.bool b).scalarText ≠ []))
  | m, .int n => inferInstanceAs (Decidable (m.explodes = true → (Value.int n).scalarText ≠ []))
  | m, .float x =>
    inferInstanceAs (Decidable (m.explodes = true → (Value.float x).scalarText ≠ []))
  | m, .text s => inferInstanceAs (Decidable (m.explodes = true → (Value.text s).scalarText ≠ []))
  | m, .bytes bs =>
    inferInstanceAs (Decidable (m.explodes = true → (Value.bytes bs).scalarText ≠ []))
  | m, .tuple xs =>
    inferInstanceAs (Decidable (m.explodes = true → (Value.tuple xs).scalarText ≠ []))

/-- All that `;` meets among the parameters is solid. -/
def SolidUnderParameter (p : Params) (parts : List Part) : Prop :=
  ∀ e ∈ expressions parts, e.operator = .parameter →
    ∀ v ∈ e.vars, ∀ value ∈ p.lookup v.name.string, Solid v.modifier value

instance (p : Params) (parts : List Part) : Decidable (SolidUnderParameter p parts) :=
  inferInstanceAs (Decidable (∀ e ∈ expressions parts, e.operator = .parameter →
    ∀ v ∈ e.vars, ∀ value ∈ p.lookup v.name.string, Solid v.modifier value))

end Standard
end RouteTemplate
