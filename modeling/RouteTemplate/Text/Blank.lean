/-
White space, by the Unicode property of that name.
-/

namespace RouteTemplate
namespace Text

def isBlank (c : Char) : Bool :=
  let n := c.toNat
  (9 ≤ n && n ≤ 13) || n == 0x20 || n == 0x85 || n == 0xA0 || n == 0x1680 ||
    (0x2000 ≤ n && n ≤ 0x200A) || n == 0x2028 || n == 0x2029 || n == 0x202F || n == 0x205F ||
    n == 0x3000

/-- White space, or one of the four marks that separate records. -/
def isGap (c : Char) : Bool := isBlank c || (0x1C ≤ c.toNat && c.toNat ≤ 0x1F)

def trimLeft (s : List Char) : List Char := s.dropWhile isBlank

/-- A text without white space at either end. -/
def trim (s : List Char) : List Char := (trimLeft (trimLeft s).reverse).reverse

end Text
end RouteTemplate
