import JobReport.Json.Scan
import JobReport.Text.Utf8

/-!
# Strings in JSON texts

A string is written with short escapes for quotes, backslashes and the common controls, and a
numbered escape for the other controls. It is read with all escapes of the format; characters
beyond the first plane are escaped as a pair of surrogates, and half a pair is a fault.
-/

set_option autoImplicit false

namespace JobReport

/-- A control character by its four hexadecimal digits. -/
def controlEscape (c : Char) : List Char :=
  ['\\', 'u', '0', '0', Nat.digitChar (c.toNat / 16), Nat.digitChar (c.toNat % 16)]

def escapeChar (c : Char) : List Char :=
  if c = '"' then ['\\', '"']
  else if c = '\\' then ['\\', '\\']
  else if c = '\x08' then ['\\', 'b']
  else if c = '\x0c' then ['\\', 'f']
  else if c = '\n' then ['\\', 'n']
  else if c = '\r' then ['\\', 'r']
  else if c = '\t' then ['\\', 't']
  else if c.toNat < 0x20 then controlEscape c
  else [c]

def stringChars (s : String) : List Char := '"' :: s.toList.flatMap escapeChar ++ ['"']

def hexValue? (c : Char) : Option Nat :=
  if '0' ≤ c ∧ c ≤ '9' then some (c.toNat - '0'.toNat)
  else if 'a' ≤ c ∧ c ≤ 'f' then some (c.toNat - 'a'.toNat + 10)
  else if 'A' ≤ c ∧ c ≤ 'F' then some (c.toNat - 'A'.toNat + 10)
  else none

def isLowSurrogate (n : Nat) : Bool := 0xDC00 ≤ n && n ≤ 0xDFFF

def isHighSurrogate (n : Nat) : Bool := 0xD800 ≤ n && n ≤ 0xDBFF

namespace Scan

/-- Four hexadecimal digits. Fewer than four bytes of text cannot hold them. -/
def hex4 : Scan Nat := do
  let left ← rest
  let digits ← takeFour left
  match digits.mapM hexValue? with
  | some [a, b, c, d] => pure (((a * 16 + b) * 16 + c) * 16 + d)
  | _ =>
    if Text.Utf8.size (left.take 4) < 4 then fail (.unfinished .string)
    else malformed .invalidEscape
where
  takeFour (left : List Char) : Scan (List Char) := {
    run := fun s => .ok (left.take 4, s.drop 4)
    shrinks := by
      intro s a r h
      cases h
      simp }

/-- The character after a backslash and a `u`. -/
def numberedEscape : Scan Char := do
  let n ← hex4
  if isLowSurrogate n then malformed .loneSurrogate
  else if isHighSurrogate n then
    let b ← char .string
    if b ≠ '\\' then malformed .brokenSurrogatePair
    else
      let u ← char .string
      if u ≠ 'u' then malformed .brokenSurrogatePair
      else
        let m ← hex4
        if isLowSurrogate m then
          pure (Char.ofNat (0x10000 + (n - 0xD800) * 0x400 + (m - 0xDC00)))
        else malformed .loneSurrogate
  else pure (Char.ofNat n)

/-- The character after a backslash, where `numbered` reads what follows a `u`. -/
def escape (numbered : Scan Char) : Scan Char := do
  let c ← char .string
  if c = '"' ∨ c = '\\' ∨ c = '/' then pure c
  else if c = 'b' then pure '\x08'
  else if c = 'f' then pure '\x0c'
  else if c = 'n' then pure '\n'
  else if c = 'r' then pure '\r'
  else if c = 't' then pure '\t'
  else if c = 'u' then numbered
  else malformed .invalidEscape

def stringRun (numbered : Scan Char) (before : List Char) (s : List Char) :
    Except Fault (String × List Char) :=
  match s with
  | [] => .error (.unfinished .string)
  | c :: r =>
    if c = '"' then .ok (String.ofList before.reverse, r)
    else if c = '\\' then
      match _h : (escape numbered).run r with
      | .error e => .error e
      | .ok (d, t) => stringRun numbered (d :: before) t
    else if c.toNat < 0x20 then .error (.malformed .controlCharacter)
    else stringRun numbered (c :: before) r
termination_by s.length
decreasing_by
  · have := (escape numbered).shrinks _h
    simp only [List.length_cons]
    omega
  · simp

theorem length_stringRun_le (numbered : Scan Char) (before s : List Char) {a : String}
    {t : List Char} (h : stringRun numbered before s = .ok (a, t)) : t.length ≤ s.length := by
  induction hn : s.length using Nat.strongRecOn generalizing before s with
  | ind n ih =>
    subst hn
    cases s with
    | nil => rw [stringRun] at h; cases h
    | cons c r =>
      rw [stringRun] at h
      split at h
      · cases h; simp
      · split at h
        · split at h
          · cases h
          · rename_i d t' hr
            have h₁ := (escape numbered).shrinks hr
            have := ih t'.length (by simp only [List.length_cons]; omega) _ t' h rfl
            simp only [List.length_cons]
            omega
        · split at h
          · cases h
          · have := ih r.length (by simp) _ r h rfl
            simp only [List.length_cons]
            omega

def stringBody (numbered : Scan Char) : Scan String where
  run := stringRun numbered []
  shrinks h := length_stringRun_le numbered [] _ h

/-- The string whose opening quote has been taken. -/
def string : Scan String := stringBody numberedEscape

/-- Passes over a string whose opening quote has been taken. Halves of surrogate pairs are let
through here, since no text is made of them. -/
def skipString : Scan Unit := do
  let _ ← stringBody (do let n ← hex4; pure (Char.ofNat n))
  pure ()

end Scan

end JobReport
