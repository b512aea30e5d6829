import JobReport.Text.Blank
import JobReport.Text.Decimal

/-!
# Platform versions

The version of the platform is a release of three numbers with an optional suffix, or a build of
developers. It is read with blanks around it and leading zeros, and written without them.
-/

set_option autoImplicit false

namespace JobReport

inductive PlatformVersion where
  | dev
  | release (major minor patch : UInt64) (suffix : Option String)
  deriving DecidableEq

/-- The text of something that is no version. -/
structure InvalidVersion where
  text : String
  deriving DecidableEq, Repr

def InvalidVersion.message (e : InvalidVersion) : String :=
  "invalid platform version '" ++ e.text ++ "': expected major.minor.patch[-suffix] or 'dev'"

namespace PlatformVersion

def isDev : PlatformVersion → Bool
  | .dev => true
  | .release .. => false

def isSuffixChar (c : Char) : Bool := c.isAlphanum || c == '.' || c == '-'

/-- The number at the front of a text. -/
def takeNumber? (s : List Char) : Option (UInt64 × List Char) :=
  (Text.word64? (s.takeWhile Char.isDigit)).map fun n => (n, s.dropWhile Char.isDigit)

def takePoint? : List Char → Option (List Char)
  | '.' :: s => some s
  | _ => none

/-- The suffix that ends a version, after its hyphen. -/
def suffix? : List Char → Option (Option String)
  | [] => some none
  | '-' :: c :: s =>
    if (c :: s).all isSuffixChar then some (some (String.ofList (c :: s))) else none
  | _ => none

def release? (s : List Char) : Option PlatformVersion := do
  let (major, s) ← takeNumber? s
  let s ← takePoint? s
  let (minor, s) ← takeNumber? s
  let s ← takePoint? s
  let (patch, s) ← takeNumber? s
  let suffix ← suffix? s
  some (.release major minor patch suffix)

def parse (text : String) : Except InvalidVersion PlatformVersion :=
  let s := (Text.trim text).toList
  if s.map Char.toLower = ['d', 'e', 'v'] then .ok .dev
  else match release? s with
    | some v => .ok v
    | none => .error ⟨text⟩

def chars : PlatformVersion → List Char
  | .dev => ['d', 'e', 'v']
  | .release major minor patch suffix =>
    Text.natChars major.toNat ++ '.' :: Text.natChars minor.toNat ++ '.' ::
      Text.natChars patch.toNat ++
      match suffix with
      | none => []
      | some s => '-' :: s.toList

/-- The one way in which a version is written. -/
def text (v : PlatformVersion) : String := String.ofList v.chars

end PlatformVersion

end JobReport
