import JobReport.Text.Hidden

/-!
# Quoted text

A text between double quotes, on one line and readable whatever it holds: quotes, backslashes and
the common controls have short escapes, and every other hidden character is given by its number.
-/

set_option autoImplicit false

namespace JobReport.Text

/-- The number of a character in braces, in lowercase hexadecimal. -/
def numbered (c : Char) : List Char :=
  ['\\', 'u', '\x7b'] ++ Nat.toDigits 16 c.toNat ++ ['\x7d']

def quotedChar (c : Char) : List Char :=
  if c = '\x00' then ['\\', '0']
  else if c = '\t' then ['\\', 't']
  else if c = '\r' then ['\\', 'r']
  else if c = '\n' then ['\\', 'n']
  else if c = '\\' then ['\\', '\\']
  else if c = '"' then ['\\', '"']
  else if isHidden c then numbered c
  else [c]

def quoted (s : String) : String :=
  String.ofList ('"' :: s.toList.flatMap quotedChar ++ ['"'])

end JobReport.Text
