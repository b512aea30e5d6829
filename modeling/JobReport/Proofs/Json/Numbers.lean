import JobReport.Proofs.Json.Scanning

/-!
# Integers are read as they are printed

The decimal digits of an integer are read back where they end. Nothing is said of floating-point
numbers, whose reading rounds.
-/

set_option autoImplicit false

namespace JobReport

namespace Text

theorem natChars_digit {n : Nat} {c : Char} (h : c ∈ natChars n) : c.isDigit = true :=
  Nat.isDigit_of_mem_toDigits (by decide) (by decide) h

/-- Only zero begins with a zero. -/
theorem natChars_zero_cons {n : Nat} {ds : List Char} (h : natChars n = '0' :: ds) : ds = [] := by
  induction n using Nat.strongRecOn generalizing ds with
  | ind n ih =>
    unfold natChars at h ih
    by_cases hn : n < 10
    · rw [Nat.toDigits_of_lt_base hn] at h
      exact (List.cons.inj h).2.symm
    · rw [Nat.toDigits_of_base_le (by decide) (by omega)] at h
      cases hfront : Nat.toDigits 10 (n / 10) with
      | nil => exact absurd hfront Nat.toDigits_ne_nil
      | cons d front =>
        rw [hfront, List.cons_append] at h
        obtain ⟨rfl, _⟩ := List.cons.inj h
        have hempty := ih (n / 10) (by omega) hfront
        rw [hempty] at hfront
        have hvalue := congrArg (Nat.ofDigitChars 10 · 0) hfront
        simp only [Nat.ofDigitChars_ten_toDigits, Nat.ofDigitChars_cons] at hvalue
        simp at hvalue
        omega

end Text

namespace Numeral

theorem absorb_all {cs : List Char} {n : Nat}
    (h : Nat.ofDigitChars 10 cs n < 0x1_0000_0000_0000_0000) :
    absorb n cs = (Nat.ofDigitChars 10 cs n, []) := by
  induction cs generalizing n with
  | nil => simp [absorb]
  | cons c cs ih =>
    rw [Nat.ofDigitChars_cons] at h ⊢
    have hle : 10 * n + (c.toNat - '0'.toNat) ≤
        Nat.ofDigitChars 10 cs (10 * n + (c.toNat - '0'.toNat)) := by
      rw [Nat.ofDigitChars_eq_ofDigitChars_zero]
      exact Nat.le_trans (Nat.le_mul_of_pos_left _ (Nat.pow_pos (by decide))) (Nat.le_add_right _ _)
    have hstep : n * 10 + (c.toNat - '0'.toNat) < 0x1_0000_0000_0000_0000 := by omega
    rw [absorb]
    simp only [if_pos hstep]
    rw [Nat.mul_comm n 10, ih h]

theorem absorb_natChars {n : Nat} (h : n < 0x1_0000_0000_0000_0000) :
    absorb 0 (Text.natChars n) = (n, []) := by
  have hvalue : Nat.ofDigitChars 10 (Text.natChars n) 0 = n := Nat.ofDigitChars_ten_toDigits
  rw [absorb_all (by rw [hvalue]; exact h), hvalue]

end Numeral

namespace Scan

variable {rest : List Char}

theorem run_fraction (h : Ends rest) : fraction.run rest = .ok (none, rest) := by
  have hpoint : (takeIf (· == '.')).run rest = .ok (none, rest) :=
    run_takeIf_none fun c hc => by simpa using (h c hc).2.1
  rw [fraction, run_bind, hpoint]
  rfl

theorem run_exponent (h : Ends rest) : exponent.run rest = .ok (none, rest) := by
  have hmark : (takeIf isExponentMark).run rest = .ok (none, rest) :=
    run_takeIf_none fun c hc => (h c hc).2.2
  rw [exponent, run_bind, hmark]
  rfl

theorem natChars_cons (n : Nat) : ∃ d ds, Text.natChars n = d :: ds := by
  cases h : Text.natChars n with
  | nil => exact absurd h Nat.toDigits_ne_nil
  | cons d ds => exact ⟨d, ds, rfl⟩

/-- The digits of a natural number, the first one of which has been taken. -/
theorem run_digits {n : Nat} {d : Char} {ds : List Char} (hn : Text.natChars n = d :: ds)
    (h : Ends rest) :
    (takeWhile Char.isDigit).run (ds ++ rest) = .ok (ds, rest) ∧
      (!d.isDigit || (d == '0' && !ds.isEmpty)) = false := by
  have hdigit : ∀ c ∈ d :: ds, c.isDigit = true := fun c hc =>
    Text.natChars_digit (n := n) (by rw [hn]; exact hc)
  constructor
  · exact run_takeWhile (fun c hc => hdigit c (by simp [hc])) (fun c hc => (h c hc).1)
  · by_cases hd : d = '0'
    · subst hd
      simp [Text.natChars_zero_cons hn]
    · simp [hd, hdigit d (by simp)]

/-- The first character of a number. -/
def StartsNumber (c : Char) : Prop := (c = '-' || c.isDigit) = true

theorem ne_of_isDigit {c d : Char} (hc : c.isDigit = true) (hd : d.isDigit = false) : c ≠ d := by
  rintro rfl
  rw [hc] at hd
  cases hd

theorem startsNumber_ne {c d : Char} (hc : StartsNumber c) (hd : (d = '-' || d.isDigit) = false) :
    c ≠ d := by
  rintro rfl
  rw [StartsNumber, hd] at hc
  cases hc

theorem starts_of_startsNumber {c : Char} (h : StartsNumber c) : Starts c := by
  have hblank : c ≠ ' ' ∧ c ≠ '\n' ∧ c ≠ '\t' ∧ c ≠ '\r' :=
    ⟨startsNumber_ne h (by decide), startsNumber_ne h (by decide), startsNumber_ne h (by decide),
      startsNumber_ne h (by decide)⟩
  constructor
  · simp [isSpace, hblank]
  · exact ⟨startsNumber_ne h (by decide), startsNumber_ne h (by decide)⟩

theorem run_numeral_nonneg {n : Nat} {d : Char} {ds : List Char} (hn : Text.natChars n = d :: ds)
    (h : Ends rest) :
    (numeral d).run (ds ++ rest) = .ok (⟨false, Text.natChars n, none, none⟩, rest) := by
  obtain ⟨hdigits, hform⟩ := run_digits hn h
  have hd : d.isDigit = true := Text.natChars_digit (n := n) (by rw [hn]; simp)
  have hne : d ≠ '-' := ne_of_isDigit hd (by decide)
  rw [numeral, if_neg hne]
  simp only [run_bind, run_pure, hdigits]
  rw [hform]
  simp [run_fraction h, run_exponent h, hn, hne]

theorem run_numeral_neg {n : Nat} (h : Ends rest) :
    (numeral '-').run (Text.natChars n ++ rest) =
      .ok (⟨true, Text.natChars n, none, none⟩, rest) := by
  obtain ⟨d, ds, hn⟩ := natChars_cons n
  obtain ⟨hdigits, hform⟩ := run_digits hn h
  rw [numeral, if_pos rfl, hn, List.cons_append]
  simp only [run_bind, run_char, hdigits]
  rw [hform]
  simp [run_fraction h, run_exponent h]

theorem value_of_wideInt (n : WideInt) :
    (⟨decide (n.val < 0), Text.natChars n.val.natAbs, none, none⟩ : Numeral).value =
      .ok (.int n) := by
  have hfits : n.val.natAbs < 0x1_0000_0000_0000_0000 := by
    have hl := n.lower
    have hu := n.upper
    omega
  have hsign : (decide (n.val < 0) && n.val.natAbs == 0) = false := by
    by_cases hneg : n.val < 0
    · simp only [hneg, decide_true, Bool.true_and, beq_eq_false_iff_ne]
      omega
    · simp [hneg]
  have hval : (if n.val < 0 then -(n.val.natAbs : Int) else n.val.natAbs) = n.val := by
    by_cases hneg : n.val < 0
    · rw [if_pos hneg]
      omega
    · rw [if_neg hneg]
      omega
  simp only [Numeral.value, Numeral.absorb_natChars hfits, Option.isNone_none, List.isEmpty_nil,
    Bool.and_self, if_true, Numeral.integer, hsign, Bool.false_eq_true, if_false,
    decide_eq_true_eq, hval, WideInt.ofInt?_val]

/-- An integer is read back exactly. -/
theorem run_number (n : WideInt) (h : Ends rest) :
    ∃ c cs, Json.intChars n.val = c :: cs ∧ StartsNumber c ∧
      (number c).run (cs ++ rest) = .ok (.int n, rest) := by
  have hvalue := value_of_wideInt n
  rw [Json.intChars]
  by_cases hneg : n.val < 0
  · rw [if_pos hneg]
    refine ⟨'-', Text.natChars n.val.natAbs, rfl, rfl, ?_⟩
    rw [decide_eq_true hneg] at hvalue
    rw [number, run_bind, run_numeral_neg h]
    simp only [hvalue, run_pure]
  · rw [if_neg hneg]
    obtain ⟨d, ds, hn⟩ := natChars_cons n.val.natAbs
    have hd : d.isDigit = true :=
      Text.natChars_digit (n := n.val.natAbs) (by rw [hn]; simp)
    refine ⟨d, ds, hn, by simp [StartsNumber, hd], ?_⟩
    rw [decide_eq_false hneg] at hvalue
    rw [number, run_bind, run_numeral_nonneg hn h]
    simp only [hvalue, run_pure]

end Scan

end JobReport
