import JobReport.Json.Read

/-!
# Passing over a value

A value that nobody asks for is only passed over: its brackets are matched to any depth, and its
numbers and strings are looked at just enough to find where they end.
-/

set_option autoImplicit false

namespace JobReport

/-- A bracket that is still open. -/
inductive Bracket where
  | list
  | object
  deriving DecidableEq, Repr

namespace Bracket

def close : Bracket → Char
  | .list => ']'
  | .object => '\x7d'

def unfinished : Bracket → Unfinished
  | .list => .list
  | .object => .object

def expectedComma : Bracket → Malformed
  | .list => .expectedCommaOrBracket
  | .object => .expectedCommaOrBrace

end Bracket

namespace Scan

/-- The open brackets, innermost first, and whether the innermost one is still empty. -/
structure Nesting where
  inner : Bracket
  outer : List Bracket
  isEmpty : Bool

/-- The nesting after a value has been passed over inside these brackets. -/
def Nesting.after : List Bracket → Nesting ⊕ Unit
  | [] => .inr ()
  | b :: bs => .inl ⟨b, bs, false⟩

/-- A value inside these brackets: a scalar is passed over at once, a bracket is opened. -/
def skipInside (brackets : List Bracket) (first : Char) : Scan (Nesting ⊕ Unit) :=
  if first = '[' then pure (.inl ⟨.list, brackets, true⟩)
  else if first = '\x7b' then pure (.inl ⟨.object, brackets, true⟩)
  else do
    skipScalar
    pure (Nesting.after brackets)
where
  skipScalar : Scan Unit :=
    if first = '"' then skipString
    else if first = '-' || first.isDigit then skipNumber first
    else if first = 'n' then word ['u', 'l', 'l']
    else if first = 't' then word ['r', 'u', 'e']
    else if first = 'f' then word ['a', 'l', 's', 'e']
    else malformed .expectedValue

/-- An element or member of the innermost bracket, whose first character has been taken. -/
def skipItem (n : Nesting) (first : Char) : Scan (Nesting ⊕ Unit) :=
  match n.inner with
  | .list => skipInside (n.inner :: n.outer) first
  | .object =>
    if first = '"' then do
      skipString
      colon
      let c ← next .value
      skipInside (n.inner :: n.outer) c
    else malformed .nameNotString

def skipStep (n : Nesting) (c : Char) : Scan (Nesting ⊕ Unit) :=
  if c = n.inner.close then pure (Nesting.after n.outer)
  else if n.isEmpty then skipItem n c
  else if c = ',' then do
    let d ← next (match n.inner with | .list => .value | .object => .object)
    skipItem n d
  else malformed n.inner.expectedComma

/-- Passes over the value that begins with the character already taken. -/
def skip (first : Char) : Scan Unit := do
  match ← skipInside [] first with
  | .inr () => pure ()
  | .inl n => loop skipStep (fun n => n.inner.unfinished) n

end Scan

end JobReport
