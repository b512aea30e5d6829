/-!
# Blank characters

The twenty-five characters with the White_Space property, and trimming by them.
-/

set_option autoImplicit false

namespace JobReport.Text

def isBlank (c : Char) : Bool :=
  let n := c.toNat
  (0x9 ≤ n && n ≤ 0xD) || n == 0x20 || n == 0x85 || n == 0xA0 || n == 0x1680
    || (0x2000 ≤ n && n ≤ 0x200A) || n == 0x2028 || n == 0x2029 || n == 0x202F
    || n == 0x205F || n == 0x3000

def dropBlanks (s : List Char) : List Char := s.dropWhile isBlank

def dropTrailingBlanks (s : List Char) : List Char := (s.reverse.dropWhile isBlank).reverse

/-- A text without the blanks at its two ends. -/
def trim (s : String) : String := String.ofList (dropTrailingBlanks (dropBlanks s.toList))

end JobReport.Text
