import JobReport.Files.Fault

/-!
# Trees of files

A tree of files held in memory, read like the one of a system. A place in it is given by the names
that lead there from the root. A path is followed name by name from the working directory, or from
the root, and every step but the last needs a directory to step from. The bytes of a name and of a
path are limited.
-/

set_option autoImplicit false

namespace JobReport

abbrev Place := List String

structure FileTree where
  directories : List Place
  files : List (Place × Text.Bytes)

namespace FileTree

def empty : FileTree := ⟨[], []⟩

instance : Inhabited FileTree := ⟨empty⟩

def isDirectory (t : FileTree) (place : Place) : Bool :=
  place.isEmpty || t.directories.contains place

def file? (t : FileTree) (place : Place) : Option Text.Bytes := t.files.lookup place

/-- The place above; the root is above itself. -/
def above (place : Place) : Place := place.dropLast

/-- Where a name leads to from a place. -/
def step (place : Place) (name : String) : Place :=
  if name = "" ∨ name = "." then place
  else if name = ".." then above place
  else place ++ [name]

def start (working : Place) (path : Path) : Place := if path.isAbsolute then [] else working

def nameLimit : Nat := 255

def pathLimit : Nat := 4095

/-- Follows names from a place. -/
def walk (t : FileTree) (place : Place) : List String → Except FileFault Place
  | [] => .ok place
  | name :: names =>
    if t.isDirectory place then
      if nameLimit < name.utf8ByteSize then .error .nameTooLong
      else t.walk (step place name) names
    else if (t.file? place).isSome then .error .notADirectory
    else .error .notFound

def follow (t : FileTree) (working : Place) (path : Path) : Except FileFault Place :=
  if '\x00' ∈ path.text.toList then .error .nulInName
  else if path.text = "" then .error .notFound
  else if pathLimit < path.text.utf8ByteSize then .error .nameTooLong
  else t.walk (start working path) path.parts

/-- What a path seen from a working directory holds. -/
def read (t : FileTree) (working : Place) (path : Path) : Except FileFault Text.Bytes := do
  let place ← t.follow working path
  match t.file? place with
  | some bytes => .ok bytes
  | none => if t.isDirectory place then .error .isADirectory else .error .notFound

/-- A tree as a reader of files, with paths seen from a working directory. -/
def reader (t : FileTree) (working : Place) : FileReader Id := fun path =>
  pure (t.read working path)

/-- A tree in which a place and all above it are directories. -/
def addDirectory (t : FileTree) (place : Place) : FileTree :=
  { t with directories := (List.range (place.length + 1)).map place.take ++ t.directories }

/-- A tree in which a place holds some bytes, in place of those it may hold already. -/
def write (t : FileTree) (place : Place) (bytes : Text.Bytes) : FileTree :=
  let t := t.addDirectory (above place)
  { t with files := (place, bytes) :: t.files.filter (·.1 ≠ place) }

def append (t : FileTree) (place : Place) (bytes : Text.Bytes) : FileTree :=
  t.write place ((t.file? place).getD [] ++ bytes)

def remove (t : FileTree) (place : Place) : FileTree :=
  { t with files := t.files.filter (·.1 ≠ place) }

/-- The place that a path spells, whatever the tree holds. -/
def spelled (working : Place) (path : Path) : Place :=
  path.parts.foldl step (start working path)

end FileTree

end JobReport
