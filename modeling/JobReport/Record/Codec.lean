import JobReport.Json.Document
import JobReport.Json.Print
import JobReport.Json.Read
import JobReport.Path
import JobReport.Uuid

/-!
# Codecs

A codec says how a type of values is written as a JSON tree, how it is read from a tree and from
the front of a text, and when two values are the same. Reading from a text goes along the text:
of several faults the one that stands first is found, whether it is in the grammar or in the
tree.
-/

set_option autoImplicit false

namespace JobReport

/-- Where a tree comes from: it was given as a value, or it was read from a text ahead of the
record that it belongs to. -/
inductive Origin where
  | given
  | readAhead
  deriving DecidableEq, Repr

structure Codec (α : Type) where
  /-- The tree a value is written as. -/
  encode : α → Json
  /-- The value a tree stands for. -/
  decode : Origin → Json → Except Mismatch α
  /-- Reads a value whose first character has been taken, with a bound on its nesting. -/
  read : Nat → Char → Scan α
  /-- Sameness of values, paths being compared by component. -/
  same : α → α → Bool

namespace Codec

variable {α β : Type}

def parse (c : Codec α) (text : String) : Except Fault α :=
  Scan.whole (c.read nestingLimit) text

def print (c : Codec α) (a : α) : String := (c.encode a).compact

def reject (wanted : String) (j : Json) : Except Mismatch α :=
  .error (.wrongKind (Found.ofJson j) wanted)

end Codec

namespace Scan

variable {α : Type}

/-- A value of the wrong kind: a scalar is read to its end before it is refused. -/
def reject (wanted : String) (first : Char) : Scan α :=
  if first = '[' then mismatch (.wrongKind .list wanted)
  else if first = '\x7b' then mismatch (.wrongKind .object wanted)
  else do
    let j ← scalar first
    settle (Codec.reject wanted j)

/-- Goes down one level of nesting. -/
def nested (levels : Nat) (inside : Nat → Scan α) : Scan α :=
  match levels with
  | 0 => malformed .nestedTooDeep
  | levels + 1 => inside levels

end Scan

namespace Codec

variable {α β : Type}

/-- A type that is written as a scalar, read where `accept` has an answer. -/
def scalar (wanted : String) (encode : α → Json) (accept : Json → Option (Except Mismatch α))
    (same : α → α → Bool) : Codec α where
  encode := encode
  decode _ j := decode j
  read _ first :=
    if first = '[' ∨ first = '\x7b' then Scan.reject wanted first
    else do
      let j ← Scan.scalar first
      Scan.settle (decode j)
  same := same
where
  decode (j : Json) : Except Mismatch α := (accept j).getD (reject wanted j)

def bool : Codec Bool :=
  scalar "a boolean" .bool (fun | .bool b => some (.ok b) | _ => none) (· == ·)

def string : Codec String :=
  scalar "a string" .str (fun | .str s => some (.ok s) | _ => none) (· == ·)

def path : Codec Path :=
  scalar "path string" (.str ·.text) (fun | .str s => some (.ok ⟨s⟩) | _ => none) Path.same

def uuid : Codec Uuid :=
  scalar "a formatted UUID string" (.str ·.text)
    (fun
      | .str s => some (match Uuid.parse? s with | some u => .ok u | none => .error .badUuid)
      | _ => none)
    (· == ·)

def integer [BEq α] (wanted : String) (wide : α → WideInt) (narrow : Int → Option α) :
    Codec α :=
  scalar wanted (.int <| wide ·)
    (fun
      | .int n => some (match narrow n.val with
        | some a => .ok a
        | none => .error (.outOfRange n.val wanted))
      | _ => none)
    (· == ·)

def int64 : Codec Int64 :=
  integer "i64" .ofInt64 fun n =>
    if -0x8000_0000_0000_0000 ≤ n ∧ n < 0x8000_0000_0000_0000 then some (Int64.ofInt n) else none

def int32 : Codec Int32 :=
  integer "i32" .ofInt32 fun n =>
    if -0x8000_0000 ≤ n ∧ n < 0x8000_0000 then some (Int32.ofInt n) else none

def narrowUInt64 (n : Int) : Option UInt64 :=
  if 0 ≤ n ∧ n < 0x1_0000_0000_0000_0000 then some (UInt64.ofNat n.toNat) else none

def uint64 : Codec UInt64 := integer "u64" .ofUInt64 narrowUInt64

/-- A number of things held in memory. -/
def size : Codec UInt64 := integer "usize" .ofUInt64 narrowUInt64

def document : Codec Document where
  encode d := d.json
  decode _ j := .ok (.ofJson j)
  read levels first := do
    let j ← Scan.json levels first
    pure (.ofJson j)
  same a b := a.json.same b.json

def option (c : Codec α) : Codec (Option α) where
  encode
    | none => .null
    | some a => c.encode a
  decode origin
    | .null => .ok none
    | j => (c.decode origin j).map some
  read levels first :=
    if first = 'n' then do
      Scan.word ['u', 'l', 'l']
      pure none
    else do
      let a ← c.read levels first
      pure (some a)
  same
    | none, none => true
    | some a, some b => c.same a b
    | _, _ => false

def sameList (same : α → α → Bool) : List α → List α → Bool
  | [], [] => true
  | a :: as, b :: bs => same a b && sameList same as bs
  | _, _ => false

def list (c : Codec α) : Codec (List α) where
  encode as := .arr (as.map c.encode)
  decode origin
    | .arr js => js.mapM (c.decode origin)
    | j => reject "a sequence" j
  read levels first :=
    if first = '[' then Scan.nested levels fun levels => Scan.list (c.read levels)
    else Scan.reject "a sequence" first
  same := sameList c.same

/-- A codec for a type with another representation. -/
def convert (c : Codec α) (make : α → β) (unmake : β → α) : Codec β where
  encode b := c.encode (unmake b)
  decode origin j := (c.decode origin j).map make
  read levels first := do
    let a ← c.read levels first
    pure (make a)
  same a b := c.same (unmake a) (unmake b)

end Codec

end JobReport
