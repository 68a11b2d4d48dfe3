/-! Blank characters, and text with its blank ends removed. -/

namespace CallFlow.Text
set_option autoImplicit false

/-- The characters with the Unicode property White_Space. -/
def isBlank (c : Char) : Bool :=
  let n := c.toNat
  (9 ≤ n && n ≤ 13) || n == 0x20 || n == 0x85 || n == 0xA0 || n == 0x1680 ||
    (0x2000 ≤ n && n ≤ 0x200A) || n == 0x2028 || n == 0x2029 || n == 0x202F ||
    n == 0x205F || n == 0x3000

/-- Text without a single character to speak. -/
def blank (s : String) : Bool := s.toList.all isBlank

def trimLeft (cs : List Char) : List Char := cs.dropWhile isBlank

def trimRight (cs : List Char) : List Char := (trimLeft cs.reverse).reverse

def trim (s : String) : String := String.ofList (trimRight (trimLeft s.toList))

end CallFlow.Text
