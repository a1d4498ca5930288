/-
Percent-encoding of text.  A character outside the set that a place allows is
written as its UTF-8 bytes, each as `%` and two uppercase hexadecimal digits.
There are two ways to encode: `encodeAll` treats a `%` in the text like any
other character, so the text can be read back; `encodeKeeping` lets a triplet
that is already there stand, so text that is encoded stays as it is.
-/

namespace RouteTemplate
namespace Percent

/-! ## Character classes

All of them are sets of ASCII characters. -/

def isHexDigit (c : Char) : Bool :=
  c.isDigit || ('a' ≤ c && c ≤ 'f') || ('A' ≤ c && c ≤ 'F')

/-- Letters, digits and the four marks that never carry meaning in a URI. -/
def isUnreserved (c : Char) : Bool :=
  c.isAlphanum || ['-', '.', '_', '~'].contains c

/-- The delimiters of a URI. -/
def isReserved (c : Char) : Bool :=
  [':', '/', '?', '#', '[', ']', '@', '!', '$', '&', '\'', '(', ')', '*', '+', ',', ';',
    '='].contains c

/-! ## Bytes -/

/-- The digit for a value below sixteen. -/
def hexDigit (n : Nat) : Char :=
  if n < 10 then Char.ofNat (48 + n) else Char.ofNat (55 + n)

def hexValue? (c : Char) : Option Nat :=
  if c.isDigit then some (c.toNat - 48)
  else if 'a' ≤ c ∧ c ≤ 'f' then some (c.toNat - 87)
  else if 'A' ≤ c ∧ c ≤ 'F' then some (c.toNat - 55)
  else none

def triplet (b : UInt8) : List Char :=
  ['%', hexDigit (b.toNat / 16), hexDigit (b.toNat % 16)]

def encodeChar (c : Char) : List Char :=
  (String.utf8EncodeChar c).flatMap triplet

/-! ## Encoding and decoding -/

def encodeUnless (keep : Char → Bool) (c : Char) : List Char :=
  if keep c then [c] else encodeChar c

/-- Encode every character that `keep` refuses, a `%` included unless `keep`
names it. -/
def encodeAll (keep : Char → Bool) (s : List Char) : List Char :=
  s.flatMap (encodeUnless keep)

/-- Text that may stand as it is stays as it is. -/
theorem encodeAll_eq_self {keep : Char → Bool} {s : List Char} (h : ∀ c ∈ s, keep c = true) :
    encodeAll keep s = s := by
  induction s with
  | nil => rfl
  | cons c cs ih =>
    have hc : keep c = true := h c (List.mem_cons_self ..)
    have hcs : encodeAll keep cs = cs := ih fun d hd => h d (List.mem_cons_of_mem _ hd)
    simp only [encodeAll, List.flatMap_cons, encodeUnless, hc, if_true] at hcs ⊢
    simp [hcs]

/-- Encode like `encodeAll`, but copy each triplet that the text already holds.
Triplets are found from left to right. -/
def encodeKeeping (keep : Char → Bool) : List Char → List Char
  | [] => []
  | '%' :: a :: b :: rest =>
    if isHexDigit a && isHexDigit b then '%' :: a :: b :: encodeKeeping keep rest
    else encodeUnless keep '%' ++ encodeKeeping keep (a :: b :: rest)
  | c :: cs => encodeUnless keep c ++ encodeKeeping keep cs

/-- The bytes that a text stands for: a triplet is its byte, any other
character its UTF-8 form. -/
def decode : List Char → List UInt8
  | [] => []
  | '%' :: a :: b :: rest =>
    match hexValue? a, hexValue? b with
    | some x, some y => UInt8.ofNat (16 * x + y) :: decode rest
    | _, _ => String.utf8EncodeChar '%' ++ decode (a :: b :: rest)
  | c :: cs => String.utf8EncodeChar c ++ decode cs

end Percent

/-- What a place in a URI lets through unencoded. -/
inductive Charset where
  /-- Unreserved characters only, so that a value can never act as syntax. -/
  | unreserved
  /-- Reserved characters and triplets too, for text that is URI already. -/
  | reserved
deriving DecidableEq, Repr

namespace Charset

def encode : Charset → List Char → List Char
  | .unreserved => Percent.encodeAll Percent.isUnreserved
  | .reserved => Percent.encodeKeeping fun c => Percent.isUnreserved c || Percent.isReserved c

end Charset
end RouteTemplate
