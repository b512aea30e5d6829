import JobReport.Text.Split

/-!
# Paths

A path is a text with slashes. It keeps its spelling; two spellings are the same path when they
have the same components, which leaves out empty ones and all single dots but a leading one.
-/

set_option autoImplicit false

namespace JobReport

structure Path where
  text : String
  deriving DecidableEq, Repr, Inhabited

namespace Path

def isAbsolute (p : Path) : Bool := p.text.toList.head? == some '/'

/-- The parts between slashes. -/
def parts (p : Path) : List String := (Text.split '/' p.text.toList).map String.ofList

/-- The components of a path; an absolute path begins with the component `/`. -/
def components (p : Path) : List String :=
  let names := p.parts.filter fun part => part ≠ "" && part ≠ "."
  if p.isAbsolute then "/" :: names
  else if p.parts.head? = some "." then "." :: names
  else names

def same (p q : Path) : Bool := p.components == q.components

/-- A path seen from a directory. An absolute path stays what it is. -/
def join (dir p : Path) : Path :=
  if p.isAbsolute then p
  else if dir.text.toList = [] ∨ dir.text.toList.getLast? = some '/' then ⟨dir.text ++ p.text⟩
  else ⟨dir.text ++ "/" ++ p.text⟩

end Path

end JobReport
