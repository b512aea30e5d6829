import JobReport.Proofs.Json.Scanning

/-!
# Strings are read as they are printed

Every character is read back from its escape, and the closing quote ends the string.
-/

set_option autoImplicit false

namespace JobReport

theorem hexValue?_digitChar : ∀ n < 16, hexValue? (Nat.digitChar n) = some n := by
  decide +kernel

/-- A string after its opening quote. -/
def stringTail (s : String) : List Char := s.toList.flatMap escapeChar ++ ['"']

theorem stringChars_eq (s : String) : stringChars s = '"' :: stringTail s := rfl

namespace Scan

theorem run_hex4_control {n : Nat} (h : n < 0x20) (rest : List Char) :
    hex4.run ('0' :: '0' :: Nat.digitChar (n / 16) :: Nat.digitChar (n % 16) :: rest) =
      .ok (n, rest) := by
  have hzero : hexValue? '0' = some 0 := by decide
  have hhigh := hexValue?_digitChar (n / 16) (by omega)
  have hlow := hexValue?_digitChar (n % 16) (by omega)
  have hn : ((0 * 16 + 0) * 16 + n / 16) * 16 + n % 16 = n := by omega
  have hdigits : ['0', '0', Nat.digitChar (n / 16), Nat.digitChar (n % 16)].mapM hexValue? =
      some [0, 0, n / 16, n % 16] := by
    simp [hzero, hhigh, hlow]
  simp only [hex4, run_bind, Scan.rest, hex4.takeFour, List.take_succ_cons, List.take_zero,
    List.drop_succ_cons, List.drop_zero, hdigits, run_pure, hn]

/-- The number of a control character is read back as that character. -/
theorem run_numberedEscape_control {c : Char} (h : c.toNat < 0x20) (rest : List Char) :
    numberedEscape.run ('0' :: '0' :: Nat.digitChar (c.toNat / 16) ::
      Nat.digitChar (c.toNat % 16) :: rest) = .ok (c, rest) := by
  have hlow : isLowSurrogate c.toNat = false := by
    simp only [isLowSurrogate, Bool.and_eq_false_iff, decide_eq_false_iff_not]
    omega
  have hhigh : isHighSurrogate c.toNat = false := by
    simp only [isHighSurrogate, Bool.and_eq_false_iff, decide_eq_false_iff_not]
    omega
  simp [numberedEscape, run_hex4_control h, hlow, hhigh]

theorem stringRun_backslash {before r t : List Char} {d : Char}
    (h : (escape numberedEscape).run r = .ok (d, t)) :
    stringRun numberedEscape before ('\\' :: r) = stringRun numberedEscape (d :: before) t := by
  rw [stringRun, if_neg (by decide), if_pos rfl]
  split
  · rename_i h'
    rw [h] at h'
    cases h'
  · rename_i h'
    rw [h] at h'
    cases h'
    rfl

theorem run_escape_control {c : Char} (h : c.toNat < 0x20) (rest : List Char) :
    (escape numberedEscape).run ((controlEscape c).drop 1 ++ rest) = .ok (c, rest) := by
  have hread := run_numberedEscape_control h rest
  simpa [escape, controlEscape, run_char] using hread

/-- Every character is read back from its escape. -/
theorem stringRun_escapeChar (c : Char) (before rest : List Char) :
    stringRun numberedEscape before (escapeChar c ++ rest) =
      stringRun numberedEscape (c :: before) rest := by
  unfold escapeChar
  by_cases h₁ : c = '"'
  · subst h₁
    exact stringRun_backslash rfl
  by_cases h₂ : c = '\\'
  · subst h₂
    exact stringRun_backslash rfl
  by_cases h₃ : c = '\x08'
  · subst h₃
    exact stringRun_backslash rfl
  by_cases h₄ : c = '\x0c'
  · subst h₄
    exact stringRun_backslash rfl
  by_cases h₅ : c = '\n'
  · subst h₅
    exact stringRun_backslash rfl
  by_cases h₆ : c = '\r'
  · subst h₆
    exact stringRun_backslash rfl
  by_cases h₇ : c = '\t'
  · subst h₇
    exact stringRun_backslash rfl
  simp only [h₁, h₂, h₃, h₄, h₅, h₆, h₇, if_false]
  by_cases hc : c.toNat < 0x20
  · rw [if_pos hc]
    exact stringRun_backslash (run_escape_control hc rest)
  · rw [if_neg hc, List.singleton_append, stringRun, if_neg h₁, if_neg h₂, if_neg hc]

theorem stringRun_escaped (cs before rest : List Char) :
    stringRun numberedEscape before (cs.flatMap escapeChar ++ '"' :: rest) =
      .ok (String.ofList (before.reverse ++ cs), rest) := by
  induction cs generalizing before with
  | nil =>
    rw [List.flatMap_nil, List.nil_append, stringRun]
    simp
  | cons c cs ih =>
    rw [List.flatMap_cons, List.append_assoc, stringRun_escapeChar, ih]
    simp

theorem run_string (s : String) (rest : List Char) :
    string.run (stringTail s ++ rest) = .ok (s, rest) := by
  have h := stringRun_escaped s.toList [] rest
  simpa [string, stringBody, stringTail] using h

end Scan

end JobReport
