import JobReport.Record.Named
import JobReport.Record.Shape

/-!
# Tagged records

A record of one of several shapes is an object in which one member, the tag, names the shape, or
an array that begins with the tag. All but the tag is read ahead, since the tag may come last.
-/

set_option autoImplicit false

namespace JobReport

/-- A family of record types, one for each value of the tag. -/
structure Family (τ : Type) where
  title : String
  tag : String
  member : τ → Type
  shape : (t : τ) → Shape (member t)

namespace Family

variable {τ : Type} [Named τ]

abbrev Member (family : Family τ) : Type := Σ t, family.member t

def wanted (family : Family τ) : String := "internally tagged enum " ++ family.title

def decodeAs (family : Family τ) (t : τ) (j : Json) : Except Mismatch family.Member := do
  let a ← (family.shape t).decode .readAhead j
  .ok ⟨t, a⟩

/-- The member of a family from its tag, if there was one, and its other members. -/
def assemble (family : Family τ) (tag : Option τ) (others : List (String × Json)) :
    Except Mismatch family.Member :=
  match tag with
  | some t => family.decodeAs t (.obj others)
  | none => .error (.missing family.tag)

/-- Takes the tag out of the members of an object. -/
def takeTag (family : Family τ) :
    List (String × Json) → Option τ → Except Mismatch (Option τ × List (String × Json))
  | [], tag => .ok (tag, [])
  | (name, j) :: ms, tag =>
    if name = family.tag then
      if tag.isSome then .error (.repeated family.tag)
      else do
        let t ← Named.decodeBare j
        takeTag family ms (some t)
    else do
      let (tag, others) ← takeTag family ms tag
      .ok (tag, (name, j) :: others)

def decode (family : Family τ) (_ : Origin) : Json → Except Mismatch family.Member
  | .obj ms => do
    let (tag, others) ← family.takeTag ms none
    family.assemble tag others
  | .arr [] => .error (.missing family.tag)
  | .arr (j :: js) => do
    let t ← Named.decodeBare j
    family.decodeAs t (.arr js)
  | j => Codec.reject family.wanted j

/-- Reads a member whose opening quote has been taken, the tag at once and any other ahead. -/
def readMember (family : Family τ) (levels : Nat)
    (before : Option τ × List (String × Json)) : Scan (Option τ × List (String × Json)) := do
  let name ← Scan.string
  if name = family.tag then
    if before.1.isSome then Scan.mismatch (.repeated family.tag)
    else
      Scan.colon
      let c ← Scan.next .value
      let t ← Named.readBare c
      pure (some t, before.2)
  else
    Scan.colon
    let c ← Scan.next .value
    let j ← Scan.json levels c
    pure (before.1, (name, j) :: before.2)

def read (family : Family τ) (levels : Nat) (first : Char) : Scan family.Member :=
  if first = '[' then
    Scan.nested levels fun levels => do
      let c ← Scan.next .list
      if c = ']' then Scan.mismatch (.missing family.tag)
      else
        let t ← Named.readBare c
        let js ← Scan.listFrom (Scan.json levels) false []
        Scan.settle (family.decodeAs t (.arr js))
  else if first = '\x7b' then
    Scan.nested levels fun levels =>
      Scan.object (family.readMember levels)
        (fun before => family.assemble before.1 before.2.reverse) (none, [])
  else Scan.reject family.wanted first

end Family

/-- A record of one of several shapes, written as an object that begins with its tag. -/
def Codec.tagged {τ : Type} [Named τ] [DecidableEq τ] (family : Family τ) :
    Codec family.Member where
  encode a := .obj ((family.tag, .str (Named.name a.1)) :: (family.shape a.1).members a.2)
  decode := family.decode
  read := family.read
  same a b :=
    if h : a.1 = b.1 then (Codec.record (family.shape b.1)).same (h ▸ a.2) b.2 else false

end JobReport
