import JobReport.Json.Number
import JobReport.Json.String

/-!
# Reading JSON trees

A tree is read with a bound on the levels of nesting below it, so that the bound is what the
recursion descends on. A scan for a value is given the first character of that value, which the
caller has already taken.
-/

set_option autoImplicit false

namespace JobReport

/-- How deep the lists and objects of a text may be nested. -/
def nestingLimit : Nat := 127

namespace Scan

variable {α β : Type}

/-- A value that is neither a list nor an object. -/
def scalar (first : Char) : Scan Json :=
  if first = '"' then do let s ← string; pure (.str s)
  else if first = '-' || first.isDigit then number first
  else if first = 'n' then do word ['u', 'l', 'l']; pure .null
  else if first = 't' then do word ['r', 'u', 'e']; pure (.bool true)
  else if first = 'f' then do word ['a', 'l', 's', 'e']; pure (.bool false)
  else malformed .expectedValue

/-- The elements of a list whose bracket has been taken, and possibly some elements. -/
def listFrom (element : Char → Scan α) (isFirst : Bool) (before : List α) : Scan (List α) :=
  loop step (fun _ => .list) (isFirst, before)
where
  step : Bool × List α → Char → Scan ((Bool × List α) ⊕ List α)
    | (isFirst, before), c =>
      if c = ']' then pure (.inr before.reverse)
      else if isFirst then do
        let a ← element c
        pure (.inl (false, a :: before))
      else if c = ',' then do
        let d ← next .value
        if d = ']' then malformed .trailingComma
        else
          let a ← element d
          pure (.inl (false, a :: before))
      else malformed .expectedCommaOrBracket

/-- The elements of a list whose bracket has been taken. -/
def list (element : Char → Scan α) : Scan (List α) := listFrom element true []

/-- The first character of the next element of a list, unless the list ends. The bracket at the
end stays there. -/
def nextElement (isFirst : Bool) : Scan (Option Char) := do
  match ← peek with
  | none => fail (.unfinished .list)
  | some c =>
    if c = ']' then pure none
    else
      let _ ← next .list
      if isFirst then pure (some c)
      else if c = ',' then
        let d ← next .value
        if d = ']' then malformed .trailingComma else pure (some d)
      else malformed .expectedCommaOrBracket

/-- Takes the bracket at the end of a list. -/
def endList : Scan Unit := do
  let c ← next .list
  if c = ']' then pure ()
  else if c = ',' then
    match ← peek with
    | some ']' => malformed .trailingComma
    | _ => malformed .trailingCharacters
  else malformed .trailingCharacters

/-- The members of an object whose brace has been taken. A member is read by `member`, which
starts after the opening quote of its name; what members leave behind is passed from one to the
next and finished at the end. -/
def object (member : α → Scan α) (finish : α → Except Mismatch β) (start : α) : Scan β :=
  loop step (fun _ => .object) (true, start)
where
  step : Bool × α → Char → Scan ((Bool × α) ⊕ β)
    | (isFirst, before), c =>
      if c = '\x7d' then do
        let b ← settle (finish before)
        pure (.inr b)
      else if isFirst then named before .nameNotString c
      else if c = ',' then do
        let d ← next .value
        if d = '\x7d' then malformed .trailingComma else named before .nameNotString d
      else malformed .expectedCommaOrBrace
  named (before : α) (otherwise : Malformed) (c : Char) : Scan ((Bool × α) ⊕ β) :=
    if c = '"' then do
      let after ← member before
      pure (.inl (false, after))
    else malformed otherwise

/-- A member of an object with its tree, put before those read so far. -/
def member (value : Char → Scan Json) (before : List (String × Json)) :
    Scan (List (String × Json)) := do
  let name ← string
  colon
  let c ← next .value
  let j ← value c
  pure ((name, j) :: before)

/-- A tree with at most `levels` levels of lists and objects. -/
def json : Nat → Char → Scan Json
  | 0, first =>
    if first = '[' || first = '\x7b' then malformed .nestedTooDeep else scalar first
  | levels + 1, first =>
    if first = '[' then do
      let items ← list (json levels)
      pure (.arr items)
    else if first = '\x7b' then
      object (member (json levels)) (fun before => .ok (.obj before.reverse)) []
    else scalar first

/-- Reads a whole text as one value. -/
def whole (value : Char → Scan α) (text : String) : Except Fault α :=
  match scan.run text.toList with
  | .ok (a, _) => .ok a
  | .error fault => .error fault
where
  scan : Scan α := do
    let c ← next .value
    let a ← value c
    match ← peek with
    | none => pure a
    | some _ => malformed .trailingCharacters

end Scan

def Json.parse (text : String) : Except Fault Json := Scan.whole (Scan.json nestingLimit) text

end JobReport
