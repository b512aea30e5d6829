import JobReport.Json.Skip
import JobReport.Record.Codec

/-!
# Shapes of records

The shape of a record lists its fields, each with its name, its codec and what happens where it is
left out. From the one list come the writer and the readers. A record is written as an object; it
is read from an object, whose members may stand in any order beside others that are passed over,
or from an array of the fields in their order.
-/

set_option autoImplicit false

namespace JobReport

/-- What happens where a field is left out: only an object may do that, or an array may also end
before it. -/
inductive Absence (α : Type) where
  | refused
  | inObject (value : α)
  | anywhere (value : α)

def Absence.value? {α : Type} : Absence α → Option α
  | .refused => none
  | .inObject a => some a
  | .anywhere a => some a

structure Field (α : Type) where
  name : String
  codec : Codec α
  absence : Absence α
  /-- Whether a value is left out when the record is written. -/
  omits : α → Bool
  value?_of_omits : ∀ a, omits a = true → absence.value? = some a

namespace Field

variable {α : Type}

def required (name : String) (codec : Codec α) : Field α :=
  ⟨name, codec, .refused, fun _ => false, by simp⟩

/-- A field that may be null, and is null where an object leaves it out. -/
def nullable (name : String) (codec : Codec α) : Field (Option α) :=
  ⟨name, codec.option, .inObject none, fun _ => false, by simp⟩

/-- A field that may be null, and is null where it is left out. -/
def optional (name : String) (codec : Codec α) : Field (Option α) :=
  ⟨name, codec.option, .anywhere none, fun _ => false, by simp⟩

/-- An optional field that is not written when there is no value. -/
def sparse (name : String) (codec : Codec α) : Field (Option α) :=
  ⟨name, codec.option, .anywhere none, Option.isNone, by
    intro a h
    rw [Option.isNone_iff_eq_none] at h
    rw [h]
    rfl⟩

def withDefault (name : String) (codec : Codec α) (value : α) : Field α :=
  ⟨name, codec, .anywhere value, fun _ => false, by simp⟩

/-- A list that is empty where it is left out, and is left out when it is empty. -/
def sparseList (name : String) (codec : Codec α) : Field (List α) :=
  ⟨name, codec.list, .anywhere [], List.isEmpty, by
    intro a h
    rw [List.isEmpty_iff] at h
    rw [h]
    rfl⟩

end Field

inductive Fields : List Type → Type 1 where
  | nil : Fields []
  | cons {α : Type} {ts : List Type} (f : Field α) (fs : Fields ts) : Fields (α :: ts)

def Row : List Type → Type
  | [] => Unit
  | α :: ts => α × Row ts

def Slots : List Type → Type
  | [] => Unit
  | α :: ts => Option α × Slots ts

def Slots.empty : (ts : List Type) → Slots ts
  | [] => ()
  | _ :: ts => (none, Slots.empty ts)

namespace Fields

def count : {ts : List Type} → Fields ts → Nat
  | _, .nil => 0
  | _, .cons _ fs => fs.count + 1

def names : {ts : List Type} → Fields ts → List String
  | _, .nil => []
  | _, .cons f fs => f.name :: fs.names

def encode : {ts : List Type} → Fields ts → Row ts → List (String × Json)
  | _, .nil, _ => []
  | _, .cons f fs, (a, row) =>
    if f.omits a then fs.encode row else (f.name, f.codec.encode a) :: fs.encode row

def place {m : Type → Type} [Monad m] (refuse : {α : Type} → Mismatch → m α)
    (value : {α : Type} → Codec α → m α) (name : String) :
    {ts : List Type} → Fields ts → Slots ts → Option (m (Slots ts))
  | _, .nil, _ => none
  | _, .cons f fs, (slot, slots) =>
    if f.name = name then
      some (match slot with
        | some _ => refuse (.repeated name)
        | none => do
          let a ← value f.codec
          pure (some a, slots))
    else (place refuse value name fs slots).map fun filled => do
      let slots ← filled
      pure (slot, slots)

def finish : {ts : List Type} → Fields ts → Slots ts → Except Mismatch (Row ts)
  | _, .nil, _ => .ok ()
  | _, .cons f fs, (slot, slots) => do
    let a ← match slot.or f.absence.value? with
      | some a => .ok a
      | none => .error (.missing f.name)
    let row ← fs.finish slots
    .ok (a, row)

def decodeMembers (origin : Origin) {ts : List Type} (fs : Fields ts) :
    List (String × Json) → Slots ts → Except Mismatch (Row ts)
  | [], slots => fs.finish slots
  | (name, j) :: ms, slots =>
    match fs.place (m := Except Mismatch) .error (fun c => c.decode origin j) name slots with
    | none => decodeMembers origin fs ms slots
    | some filled => do
      let slots ← filled
      decodeMembers origin fs ms slots

/-- The value of a field before which an array ended, if that may be. -/
def absentInArray {α : Type} (wanted : String) (index : Nat) (f : Field α) :
    Except Mismatch α :=
  match f.absence with
  | .anywhere a => .ok a
  | _ => .error (.wrongLength index wanted)

/-- Reads the elements of an array into the fields, and gives those left over. -/
def decodeItems (origin : Origin) (wanted : String) :
    {ts : List Type} → Fields ts → Nat → List Json → Except Mismatch (Row ts × List Json)
  | _, .nil, _, js => .ok ((), js)
  | _, .cons f fs, index, [] => do
    let a ← absentInArray wanted index f
    let (row, js) ← fs.decodeItems origin wanted (index + 1) []
    .ok ((a, row), js)
  | _, .cons f fs, index, j :: js => do
    let a ← f.codec.decode origin j
    let (row, js) ← fs.decodeItems origin wanted (index + 1) js
    .ok ((a, row), js)

/-- Reads a member whose opening quote has been taken into its slot, or passes over it. -/
def readMember (levels : Nat) {ts : List Type} (fs : Fields ts) (slots : Slots ts) :
    Scan (Slots ts) := do
  let name ← Scan.string
  match fs.place (m := Scan) Scan.mismatch value name slots with
  | some filled => filled
  | none =>
    Scan.colon
    let c ← Scan.next .value
    Scan.skip c
    pure slots
where
  value {α : Type} (c : Codec α) : Scan α := do
    Scan.colon
    let first ← Scan.next .value
    c.read levels first

def readItems (levels : Nat) (wanted : String) :
    {ts : List Type} → Fields ts → Nat → Scan (Row ts)
  | _, .nil, _ => pure ()
  | _, .cons f fs, index => do
    let a ← match ← Scan.nextElement (index == 0) with
      | some first => f.codec.read levels first
      | none => Scan.settle (absentInArray wanted index f)
    let row ← fs.readItems levels wanted (index + 1)
    pure (a, row)

def same : {ts : List Type} → Fields ts → Row ts → Row ts → Bool
  | _, .nil, _, _ => true
  | _, .cons f fs, (a, as), (b, bs) => f.codec.same a b && fs.same as bs

end Fields

structure Shape (α : Type) where
  title : String
  types : List Type
  fields : Fields types
  make : Row types → α
  unmake : α → Row types
  make_unmake : ∀ a, make (unmake a) = a

namespace Shape

variable {α : Type}

def wanted (shape : Shape α) : String := "struct " ++ shape.title

def wantedLength (shape : Shape α) : String :=
  shape.wanted ++ " with " ++ elements shape.fields.count
where
  elements (n : Nat) : String := if n = 1 then "1 element" else toString n ++ " elements"

def members (shape : Shape α) (a : α) : List (String × Json) :=
  shape.fields.encode (shape.unmake a)

def tooLong (shape : Shape α) (origin : Origin) (length : Nat) : Mismatch :=
  match origin with
  | .given => .wrongLength length "fewer elements in array"
  | .readAhead => .wrongLength length (wantedLength.elements shape.fields.count ++ " in sequence")

def decode (shape : Shape α) (origin : Origin) : Json → Except Mismatch α
  | .obj ms => (shape.fields.decodeMembers origin ms (Slots.empty _)).map shape.make
  | .arr js => do
    let (row, left) ← shape.fields.decodeItems origin shape.wantedLength 0 js
    if left.isEmpty then .ok (shape.make row) else .error (shape.tooLong origin js.length)
  | j => Codec.reject shape.wanted j

def read (shape : Shape α) (levels : Nat) (first : Char) : Scan α :=
  if first = '[' then
    Scan.nested levels fun levels => do
      let row ← shape.fields.readItems levels shape.wantedLength 0
      Scan.endList
      pure (shape.make row)
  else if first = '\x7b' then
    Scan.nested levels fun levels =>
      Scan.object (shape.fields.readMember levels)
        (fun slots => (shape.fields.finish slots).map shape.make) (Slots.empty _)
  else Scan.reject shape.wanted first

end Shape

/-- A record, written as an object of its fields. -/
def Codec.record {α : Type} (shape : Shape α) : Codec α where
  encode a := .obj (shape.members a)
  decode := shape.decode
  read := shape.read
  same a b := shape.fields.same (shape.unmake a) (shape.unmake b)

end JobReport
