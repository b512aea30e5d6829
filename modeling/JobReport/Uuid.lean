import JobReport.Json.String

/-!
# UUIDs

A UUID is thirty-two hexadecimal digits. It is read from the bare digits, from the form with
hyphens, and from that form in braces or after `urn:uuid:`, all of it in small or capital letters,
and is written with hyphens in small letters.
-/

set_option autoImplicit false

namespace JobReport

structure Uuid where
  digits : List (Fin 16)
  length_digits : digits.length = 32
  deriving DecidableEq

namespace Uuid

def digit? (c : Char) : Option (Fin 16) :=
  (hexValue? c).bind fun n => if h : n < 16 then some ⟨n, h⟩ else none

def ofDigits? (s : List Char) : Option Uuid :=
  match s.mapM digit? with
  | some ds => if h : ds.length = 32 then some ⟨ds, h⟩ else none
  | none => none

/-- The digits of the form with hyphens, if they stand in the right places. -/
def unhyphenated? (s : List Char) : Option (List Char) :=
  if s.length = 36 ∧ s[8]? = some '-' ∧ s[13]? = some '-' ∧ s[18]? = some '-' ∧
      s[23]? = some '-' then
    some (s.take 8 ++ (s.drop 9).take 4 ++ (s.drop 14).take 4 ++ (s.drop 19).take 4 ++ s.drop 24)
  else none

/-- The form with hyphens, without its braces or its prefix. -/
def bare (s : List Char) : List Char :=
  match s with
  | '\x7b' :: r => if r.getLast? = some '\x7d' then r.dropLast else s
  | _ =>
    let scheme := "urn:uuid:".toList
    if (s.take scheme.length).map Char.toLower = scheme then s.drop scheme.length else s

def parse? (text : String) : Option Uuid :=
  match unhyphenated? (bare text.toList) with
  | some s => ofDigits? s
  | none => ofDigits? text.toList

def chars (u : Uuid) : List Char :=
  let s := u.digits.map fun d => Nat.digitChar d.val
  s.take 8 ++ '-' :: (s.drop 8).take 4 ++ '-' :: (s.drop 12).take 4 ++ '-' :: (s.drop 16).take 4
    ++ '-' :: s.drop 20

def text (u : Uuid) : String := String.ofList u.chars

end Uuid

end JobReport
