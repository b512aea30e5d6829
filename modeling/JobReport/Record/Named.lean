import JobReport.Record.Codec

/-!
# Enumerations by name

A type of finitely many values, each with a name of its own, is written by name. A name may also
stand as the only member of an object, with null as its value. Messages and other enumerations know
a value by its label, which has to be the same text.
-/

set_option autoImplicit false

namespace JobReport

class Named (α : Type) where
  /-- What the enumeration is called in messages. -/
  typeName : String
  all : List α
  /-- How a value is written. -/
  name : α → String
  /-- What a value is called in messages, and by what it is looked for elsewhere. -/
  label : α → String := name
  find_name : ∀ a, all.find? (fun b => name b == name a) = some a
  label_eq_name : ∀ a, label a = name a := by intro _; rfl

namespace Named

variable {α : Type} [Named α]

def ofName? (s : String) : Option α := all.find? fun a => name a == s

@[simp] theorem ofName?_name (a : α) : ofName? (name a) = some a := find_name a

theorem mem_all (a : α) : a ∈ (all : List α) := List.mem_of_find?_eq_some (find_name a)

theorem name_of_ofName? {s : String} {a : α} (h : ofName? s = some a) : name a = s := by
  simpa using List.find?_some h

def known (α : Type) [Named α] : List String := (all : List α).map name

/-- The value of a name that was read. -/
def resolve (s : String) : Except Mismatch α :=
  match ofName? s with
  | some a => .ok a
  | none => .error (.unknownName s (known α))

/-- A bare name, as it stands where an object says which kind it is. -/
def decodeBare : Json → Except Mismatch α
  | .str s => resolve s
  | j => Codec.reject "variant identifier" j

/-- Reads a bare name. -/
def readBare (first : Char) : Scan α :=
  if first = '"' then do
    let s ← Scan.string
    Scan.settle (resolve s)
  else Scan.reject "variant identifier" first

/-- The value beside a name in an object of one member: null, or nothing at all in a tree that
was read ahead. -/
def decodeUnit (origin : Origin) : Json → Except Mismatch Unit
  | .null => .ok ()
  | .obj [] => if origin = .readAhead then .ok () else Codec.reject "unit" (.obj [])
  | j => Codec.reject "unit" j

def readUnit (first : Char) : Scan Unit :=
  if first = 'n' then Scan.word ['u', 'l', 'l'] else Scan.reject "unit" first

/-- The rest of an object with a name as its only member. -/
def readMember : Scan α := do
  let c ← Scan.next .value
  let a ← readBare c
  Scan.colon
  let d ← Scan.next .value
  readUnit d
  let e ← Scan.next .object
  if e = '\x7d' then pure a else Scan.malformed .expectedValue

def decode (origin : Origin) : Json → Except Mismatch α
  | .str s => resolve s
  | .obj [(name, j)] => do
    let a ← resolve name
    decodeUnit origin j
    pure a
  | .obj _ => .error .notOneMember
  | j => Codec.reject "string or map" j

def read (levels : Nat) (first : Char) : Scan α :=
  if first = '"' then do
    let s ← Scan.string
    Scan.settle (resolve s)
  else if first = '\x7b' then Scan.nested levels fun _ => readMember
  else Scan.malformed .expectedValue

end Named

/-- An enumeration, written by name. -/
def Codec.named (α : Type) [Named α] : Codec α where
  encode a := .str (Named.name a)
  decode := Named.decode
  read := Named.read
  same a b := Named.name a == Named.name b

end JobReport
