import JobReport.Json.Float
import JobReport.Json.String
import JobReport.Text.Decimal

/-!
# Printing JSON trees

A tree is printed without any blanks, or with every element on a line of its own, indented by two
blanks for each level.
-/

set_option autoImplicit false

namespace JobReport

inductive Layout where
  | compact
  | indented
  deriving DecidableEq, Repr

namespace Layout

/-- What stands before an element or a closing bracket at a depth. -/
def gap : Layout → Nat → List Char
  | .compact, _ => []
  | .indented, depth => '\n' :: List.replicate (2 * depth) ' '

def colon : Layout → List Char
  | .compact => [':']
  | .indented => [':', ' ']

end Layout

namespace Json

/-- The decimal text of an integer. -/
def intChars (n : Int) : List Char :=
  if n < 0 then '-' :: Text.natChars n.natAbs else Text.natChars n.natAbs

mutual

def chars (layout : Layout) (depth : Nat) : Json → List Char
  | .null => ['n', 'u', 'l', 'l']
  | .bool true => ['t', 'r', 'u', 'e']
  | .bool false => ['f', 'a', 'l', 's', 'e']
  | .int n => intChars n.val
  | .float bits => floatChars bits
  | .str s => stringChars s
  | .arr [] => ['[', ']']
  | .arr (x :: xs) =>
    '[' :: layout.gap (depth + 1) ++ chars layout (depth + 1) x
      ++ itemChars layout (depth + 1) xs ++ layout.gap depth ++ [']']
  | .obj [] => ['\x7b', '\x7d']
  | .obj ((name, x) :: ms) =>
    '\x7b' :: layout.gap (depth + 1) ++ stringChars name ++ layout.colon
      ++ chars layout (depth + 1) x ++ memberChars layout (depth + 1) ms ++ layout.gap depth
      ++ ['\x7d']

/-- The elements after the first, each with the comma before it. -/
def itemChars (layout : Layout) (depth : Nat) : List Json → List Char
  | [] => []
  | x :: xs =>
    ',' :: layout.gap depth ++ chars layout depth x ++ itemChars layout depth xs

/-- The members after the first, each with the comma before it. -/
def memberChars (layout : Layout) (depth : Nat) : List (String × Json) → List Char
  | [] => []
  | (name, x) :: ms =>
    ',' :: layout.gap depth ++ stringChars name ++ layout.colon ++ chars layout depth x
      ++ memberChars layout depth ms

end

def compact (j : Json) : String := String.ofList (j.chars .compact 0)

def indented (j : Json) : String := String.ofList (j.chars .indented 0)

end Json

end JobReport
