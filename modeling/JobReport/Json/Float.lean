import JobReport.Text.Shortest

/-!
# Floating-point numbers in JSON texts

A number is written with the shortest digits that read back. It is positional when its first
digit stands between the fifth place after the point and the sixteenth before it, and always
shows a point or an exponent.
-/

set_option autoImplicit false

namespace JobReport

/-- Where the text of a number changes its form. -/
structure FloatForm where
  leastPositional : Int
  greatestPositional : Int

def floatForm : FloatForm := ⟨-5, 15⟩

/-- The digits of a positive number without zeros at their end. -/
def significantDigits (n : Nat) : List Char :=
  ((Nat.toDigits 10 n).reverse.dropWhile (· == '0')).reverse

/-- The text of a positive number whose first digit has the weight `10 ^ place`. -/
def FloatForm.layout (form : FloatForm) (digits : List Char) (place : Int) : List Char :=
  if form.leastPositional ≤ place && place ≤ form.greatestPositional then
    if place < 0 then ['0', '.'] ++ List.replicate (-place - 1).toNat '0' ++ digits
    else
      let whole := place.toNat + 1
      digits.take whole ++ List.replicate (whole - digits.length) '0' ++ '.' ::
        (if digits.length ≤ whole then ['0'] else digits.drop whole)
  else
    digits.take 1 ++ (if digits.length ≤ 1 then [] else '.' :: digits.drop 1) ++
      ['e', if place < 0 then '-' else '+'] ++ Nat.toDigits 10 place.natAbs

/-- The text of the finite number of 64 bits. -/
def floatChars (bits : UInt64) : List Char :=
  let sign := if bits < 0x8000000000000000 then [] else ['-']
  let x := Text.Binary.ofBits bits
  sign ++
    if x.significand = 0 then ['0', '.', '0']
    else
      let d := x.shortest
      floatForm.layout (significantDigits d.digits)
        (d.exponent + (Nat.toDigits 10 d.digits).length - 1)

end JobReport
