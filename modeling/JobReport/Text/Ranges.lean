/-!
# Character classes given by ranges

A class is a list of inclusive ranges of code points.
-/

set_option autoImplicit false

namespace JobReport.Text

abbrev Ranges := List (Nat × Nat)

def Ranges.holds (ranges : Ranges) (c : Char) : Bool :=
  ranges.any fun (first, last) => first ≤ c.toNat && c.toNat ≤ last

end JobReport.Text
