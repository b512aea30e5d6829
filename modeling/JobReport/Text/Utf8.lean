/-!
# UTF-8

Bytes are read one character at a time. Where no character can be read, the longest start of one
is a single unreadable unit, so reading goes on after it and no byte is looked at twice.
-/

set_option autoImplicit false

namespace JobReport.Text

abbrev Bytes := List UInt8

namespace Utf8

def encode (s : List Char) : Bytes := s.flatMap String.utf8EncodeChar

/-- The number of bytes that a text takes. -/
def size (s : List Char) : Nat := s.foldr (fun c n => c.utf8Size + n) 0

/-- The front of a text that takes `n` bytes, or all of a shorter text; nothing if the place after
`n` bytes is inside a character. -/
def takeSize? (n : Nat) : List Char → Option (List Char)
  | [] => some []
  | c :: cs =>
    if n = 0 then some []
    else if c.utf8Size ≤ n then (takeSize? (n - c.utf8Size) cs).map (c :: ·)
    else none

/-- What a first byte announces: how many bytes follow, the bounds of the next one, and the bits
it carries itself. -/
def lead (b : UInt8) : Option (Nat × UInt8 × UInt8 × Nat) :=
  if b < 0x80 then some (0, 0x80, 0xBF, b.toNat)
  else if b < 0xC2 then none
  else if b < 0xE0 then some (1, 0x80, 0xBF, b.toNat - 0xC0)
  else if b = 0xE0 then some (2, 0xA0, 0xBF, 0)
  else if b = 0xED then some (2, 0x80, 0x9F, 0xD)
  else if b < 0xF0 then some (2, 0x80, 0xBF, b.toNat - 0xE0)
  else if b = 0xF0 then some (3, 0x90, 0xBF, 0)
  else if b < 0xF4 then some (3, 0x80, 0xBF, b.toNat - 0xF0)
  else if b = 0xF4 then some (3, 0x80, 0x8F, 4)
  else none

/-- Takes the following bytes of a character, up to the first that does not belong to it. -/
def follow : Nat → UInt8 → UInt8 → Nat → Bytes → Option Char × Bytes
  | 0, _, _, bits, rest => (some (Char.ofNat bits), rest)
  | _ + 1, _, _, _, [] => (none, [])
  | n + 1, low, high, bits, b :: rest =>
    if low ≤ b && b ≤ high then follow n 0x80 0xBF (bits * 64 + b.toNat % 64) rest
    else (none, b :: rest)

theorem length_follow_le (n : Nat) (low high : UInt8) (bits : Nat) (s : Bytes) :
    (follow n low high bits s).2.length ≤ s.length := by
  induction s generalizing n low high bits with
  | nil => cases n <;> simp [follow]
  | cons b rest ih =>
    cases n with
    | zero => simp [follow]
    | succ n =>
      simp only [follow]
      split
      · exact Nat.le_succ_of_le (ih ..)
      · simp

/-- One unit: a character, or nothing where none can be read. -/
def unit (b : UInt8) (rest : Bytes) : Option Char × Bytes :=
  match lead b with
  | none => (none, rest)
  | some (n, low, high, bits) => follow n low high bits rest

theorem length_unit_le (b : UInt8) (rest : Bytes) : (unit b rest).2.length ≤ rest.length := by
  unfold unit
  split
  · simp
  · exact length_follow_le ..

def units : Bytes → List (Option Char)
  | [] => []
  | b :: rest => (unit b rest).1 :: units (unit b rest).2
termination_by s => s.length
decreasing_by
  have := length_unit_le b rest
  simp only [List.length_cons]
  omega

/-- The text of the bytes, if all of it can be read. -/
def decode? (bytes : Bytes) : Option (List Char) := (units bytes).mapM id

/-- The text of the bytes, with a replacement character for each unreadable unit. -/
def decodeLossy (bytes : Bytes) : List Char := (units bytes).map (·.getD '\uFFFD')

end Utf8

end JobReport.Text
