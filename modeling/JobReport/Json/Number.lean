import JobReport.Json.Scan
import JobReport.Text.Decimal

/-!
# Numbers in JSON texts

A number without fraction and exponent is an integer if it fits 64 bits, except minus zero. Every
other number is a floating-point number: as many leading digits as fit 64 bits are scaled by a
power of ten in one or more floating-point steps, and the digits that do not fit count only
through their places.
-/

set_option autoImplicit false

namespace JobReport

/-- The parts of a number as they are written. -/
structure Numeral where
  negative : Bool
  whole : List Char
  fraction : Option (List Char)
  /-- Whether the exponent is negative, and its digits. -/
  exponent : Option (Bool × List Char)

namespace Numeral

/-- Appends digits to a significand while it fits 64 bits, and gives those left over. -/
def absorb (significand : Nat) : List Char → Nat × List Char
  | [] => (significand, [])
  | c :: cs =>
    let n := significand * 10 + (c.toNat - '0'.toNat)
    if n < 0x1_0000_0000_0000_0000 then absorb n cs else (significand, c :: cs)

def powerOfTen (n : Nat) : Float := Float.ofScientific 1 false n

/-- A significand times a power of ten, by steps of at most 308 places; nothing if it is too
large. -/
def scale (f : Float) (places : Int) : Option Float :=
  if places.natAbs ≤ 308 then
    if 0 ≤ places then
      let g := f * powerOfTen places.toNat
      if g.isInf then none else some g
    else some (f / powerOfTen places.natAbs)
  else if f == 0 then some f
  else if 0 ≤ places then none
  else scale (f / powerOfTen 308) (places + 308)
termination_by places.natAbs
decreasing_by omega

def float (negative : Bool) (significand : Nat) (places : Int) : Except Malformed Json :=
  match scale (UInt64.ofNat significand).toFloat places with
  | some f => .ok (.float (if negative then -f else f).toBits)
  | none => .error .numberOutOfRange

def integer (negative : Bool) (significand : Nat) : Except Malformed Json :=
  match if negative && significand == 0 then none
      else WideInt.ofInt? (if negative then -significand else significand) with
  | some n => .ok (.int n)
  | none => float negative significand 0

/-- The number that a numeral stands for. An exponent beyond 32 bits leaves only zero. -/
def value (n : Numeral) : Except Malformed Json :=
  let (significand, dropped) := absorb 0 n.whole
  if n.fraction.isNone && n.exponent.isNone && dropped.isEmpty then
    integer n.negative significand
  else
    let fraction := n.fraction.getD []
    let (significand, unused) := absorb significand fraction
    let places : Int := dropped.length - (fraction.length - unused.length : Nat)
    match n.exponent with
    | none => float n.negative significand places
    | some (down, digits) =>
      let e := Text.digitsToNat digits
      if e < 0x8000_0000 then float n.negative significand (if down then places - e else places + e)
      else if significand ≠ 0 ∧ !down then .error .numberOutOfRange
      else .ok (.float (if n.negative then 0x8000000000000000 else 0))

end Numeral

namespace Scan

def isSign (c : Char) : Bool := c == '+' || c == '-'

def isExponentMark (c : Char) : Bool := c == 'e' || c == 'E'

/-- The digits after a point. -/
def fraction : Scan (Option (List Char)) := do
  let some _ ← takeIf (· == '.') | pure none
  let digits ← takeWhile Char.isDigit
  if digits.isEmpty then
    let left ← rest
    if left.isEmpty then fail (.unfinished .value) else malformed .invalidNumber
  else pure (some digits)

def exponent : Scan (Option (Bool × List Char)) := do
  let some _ ← takeIf isExponentMark | pure none
  let sign ← takeIf isSign
  let d ← char .value
  if d.isDigit then
    let ds ← takeWhile Char.isDigit
    pure (some (sign == some '-', d :: ds))
  else malformed .invalidNumber

def numeral (first : Char) : Scan Numeral := do
  let d ← if first = '-' then char .value else pure first
  let ds ← takeWhile Char.isDigit
  if !d.isDigit || (d == '0' && !ds.isEmpty) then malformed .invalidNumber
  else
    let f ← fraction
    let e ← exponent
    pure ⟨first == '-', d :: ds, f, e⟩

/-- The number that begins with the character already taken. -/
def number (first : Char) : Scan Json := do
  let n ← numeral first
  match n.value with
  | .ok j => pure j
  | .error what => malformed what

/-- Passes over a number, whatever its size. A number that breaks off is malformed here even at
the end of the text. -/
def skipNumber (first : Char) : Scan Unit := do
  let d ← if first = '-' then orMalformed else pure first
  let ds ← takeWhile Char.isDigit
  if !d.isDigit || (d == '0' && !ds.isEmpty) then malformed .invalidNumber
  else
    let point ← takeIf (· == '.')
    let ds ← if point.isSome then takeWhile Char.isDigit else pure ['0']
    if ds.isEmpty then malformed .invalidNumber
    else
      let mark ← takeIf isExponentMark
      if mark.isSome then
        let _ ← takeIf isSign
        let ds ← takeWhile Char.isDigit
        if ds.isEmpty then malformed .invalidNumber else pure ()
      else pure ()
where
  orMalformed : Scan Char := do
    match ← takeIf fun _ => true with
    | some c => pure c
    | none => malformed .invalidNumber

end Scan

end JobReport
