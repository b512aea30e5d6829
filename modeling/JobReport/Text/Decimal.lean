/-!
# Decimal numbers in texts

Natural numbers are written in decimal digits without leading zeros and read from any digits.
-/

set_option autoImplicit false

namespace JobReport.Text

def natChars (n : Nat) : List Char := Nat.toDigits 10 n

def digitsToNat (digits : List Char) : Nat :=
  digits.foldl (fun n c => n * 10 + (c.toNat - '0'.toNat)) 0

/-- The number of 64 bits that these characters write, if all are digits and there is one. -/
def word64? (digits : List Char) : Option UInt64 :=
  if digits ≠ [] ∧ digits.all Char.isDigit ∧ digitsToNat digits < 0x1_0000_0000_0000_0000 then
    some (UInt64.ofNat (digitsToNat digits))
  else none

end JobReport.Text
