/-!
# Shortest decimals

The fewest decimal digits that read back to a binary floating-point number, and of those the ones
nearest to it. A decimal reads back when it lies in the interval of numbers that round to the
given one; the ends belong to it when the significand is even.
-/

set_option autoImplicit false

namespace JobReport.Text

/-- A positive number `significand * 2 ^ exponent`, as a 64-bit floating-point number holds it. -/
structure Binary where
  significand : Nat
  exponent : Int
  /-- Whether the next smaller number is only half a step away. -/
  closeBelow : Bool
  deriving DecidableEq, Repr

/-- The number `digits * 10 ^ exponent`. -/
structure Decimal where
  digits : Nat
  exponent : Int
  deriving DecidableEq, Repr

def Binary.ofBits (bits : UInt64) : Binary :=
  let fraction : Nat := bits.toNat % 0x10_0000_0000_0000
  let field : Nat := bits.toNat / 0x10_0000_0000_0000 % 0x800
  if field = 0 then ⟨fraction, -1074, false⟩
  else ⟨0x10_0000_0000_0000 + fraction, (field : Int) - 1075, fraction = 0 && 1 < field⟩

namespace Shortest

structure Ratio where
  num : Nat
  den : Nat

def Ratio.scaled (n : Nat) (e : Int) : Ratio :=
  if 0 ≤ e then ⟨n * Nat.pow 2 e.toNat, 1⟩ else ⟨n, Nat.pow 2 (-e).toNat⟩

def digitCount (n : Nat) : Nat := (Nat.toDigits 10 n).length

/-- The power of ten in whose decade a positive quotient lies. -/
def Ratio.decade (r : Ratio) : Int :=
  if r.den ≤ r.num then (digitCount (r.num / r.den) : Int) - 1
  else
    let n := digitCount (r.den / r.num)
    if r.num * Nat.pow 10 (n - 1) = r.den then 1 - n else -n

/-- `n * 10 ^ e` compared with a quotient. -/
def compareAt (n : Nat) (e : Int) (r : Ratio) : Ordering :=
  if 0 ≤ e then compare (n * Nat.pow 10 e.toNat * r.den) r.num
  else compare (n * r.den) (r.num * Nat.pow 10 (-e).toNat)

/-- The largest `n` with `n * 10 ^ e` not above a quotient. -/
def floorAt (e : Int) (r : Ratio) : Nat :=
  if 0 ≤ e then r.num / (r.den * Nat.pow 10 e.toNat) else r.num * Nat.pow 10 (-e).toNat / r.den

/-- Whether a decimal reads back to the number. -/
def readsBack (x : Binary) (n : Nat) (e : Int) : Bool :=
  let even := x.significand % 2 == 0
  let low := Ratio.scaled (4 * x.significand - if x.closeBelow then 1 else 2) (x.exponent - 2)
  let high := Ratio.scaled (4 * x.significand + 2) (x.exponent - 2)
  let below := compareAt n e low
  let above := compareAt n e high
  (below == .gt || (even && below == .eq)) && (above == .lt || (even && above == .eq))

/-- The neighbour of the number on the grid of multiples of `10 ^ e` that reads back, the nearer
one if both do. -/
def onGrid (x : Binary) (e : Int) : Option Nat :=
  let value := Ratio.scaled x.significand x.exponent
  let n := floorAt e value
  let below := readsBack x n e
  let above := readsBack x (n + 1) e
  if below && above then
    some (match compareAt (2 * n + 1) e ⟨2 * value.num, value.den⟩ with
      | .gt => n
      | .lt => n + 1
      | .eq => if n % 2 = 0 then n else n + 1)
  else if below then some n
  else if above then some (n + 1)
  else none

/-- The first of the next `tries` grids, each ten times finer than the one before, that has a
decimal which reads back. -/
def search (x : Binary) : Nat → Int → Option Decimal
  | 0, _ => none
  | tries + 1, e =>
    match onGrid x e with
    | some n => some ⟨n, e⟩
    | none => search x tries (e - 1)

end Shortest

/-- The shortest decimal that reads back to a positive number. Seventeen digits always do. -/
def Binary.shortest (x : Binary) : Decimal :=
  (Shortest.search x 17 (Shortest.Ratio.scaled x.significand x.exponent).decade).getD ⟨0, 0⟩

end JobReport.Text
