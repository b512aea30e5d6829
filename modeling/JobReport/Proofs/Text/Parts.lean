import JobReport.Proofs.Json.Numbers
import JobReport.Text.Blank
import JobReport.Text.Split
import Mathlib.Data.List.DropRight

/-!
# Trimmed texts, parts and numbers

What trimming leaves has no blank at either end, and such a text is left as it is by trimming. Parts
without the separator are found again where they were joined with it, and numbers where they were
written in digits.
-/

set_option autoImplicit false

namespace JobReport.Text

/-! ## Trimming -/

/-- Whether a text neither begins nor ends with a blank. -/
def Trimmed (s : List Char) : Prop := dropBlanks s = s ∧ dropTrailingBlanks s = s

instance (s : List Char) : Decidable (Trimmed s) := inferInstanceAs (Decidable (_ ∧ _))

theorem dropTrailingBlanks_eq (s : List Char) : dropTrailingBlanks s = s.rdropWhile isBlank := rfl

/-- A text without a blank in front does not get one when others are taken off its end. -/
theorem dropBlanks_of_prefix {s t : List Char} (h : dropBlanks s = s) (ht : t <+: s) :
    dropBlanks t = t := by
  rw [dropBlanks, List.dropWhile_eq_self_iff] at h ⊢
  intro hl
  have hfirst := h (Nat.lt_of_lt_of_le hl ht.length_le)
  rwa [← ht.getElem hl] at hfirst

theorem trimmed_dropBoth (s : List Char) : Trimmed (dropTrailingBlanks (dropBlanks s)) := by
  constructor
  · have hfront : dropBlanks (dropBlanks s) = dropBlanks s := List.dropWhile_idempotent ..
    exact dropBlanks_of_prefix hfront (List.rdropWhile_prefix _ _)
  · exact List.rdropWhile_idempotent ..

theorem trimmed_trim (s : String) : Trimmed (trim s).toList := by
  rw [trim, String.toList_ofList]
  exact trimmed_dropBoth s.toList

theorem trim_of_trimmed {s : String} (h : Trimmed s.toList) : trim s = s := by
  rw [trim, h.1, h.2, String.ofList_toList]

theorem isBlank_of_visible {c : Char} (hlower : 0x21 ≤ c.toNat) (hupper : c.toNat ≤ 0x7E) :
    isBlank c = false := by
  simp only [isBlank, Bool.or_eq_false_iff, Bool.and_eq_false_iff, decide_eq_false_iff_not,
    beq_eq_false_iff_ne]
  omega

theorem trimmed_of_no_blank {s : List Char} (h : ∀ c ∈ s, isBlank c = false) : Trimmed s := by
  constructor
  · rw [dropBlanks, List.dropWhile_eq_self_iff]
    intro hl
    simp [h _ (List.getElem_mem hl)]
  · rw [dropTrailingBlanks_eq, List.rdropWhile_eq_self_iff]
    intro hne
    simp [h _ (List.getLast_mem hne)]

/-- Whether a text is another one with blanks at its ends, which the other does not have. -/
structure Trims (s t : List Char) : Prop where
  around : ∃ before after, s = before ++ t ++ after ∧ ∀ c ∈ before ++ after, isBlank c = true
  trimmed : Trimmed t

theorem trims_trim (s : String) : Trims s.toList (trim s).toList where
  around := by
    have hfront := List.takeWhile_append_dropWhile (p := isBlank) (l := s.toList)
    have hback := congrArg List.reverse
      (List.takeWhile_append_dropWhile (p := isBlank) (l := (dropBlanks s.toList).reverse))
    rw [List.reverse_append, List.reverse_reverse] at hback
    refine ⟨s.toList.takeWhile isBlank, ((dropBlanks s.toList).reverse.takeWhile isBlank).reverse,
      ?_, ?_⟩
    · rw [trim, String.toList_ofList, List.append_assoc, dropTrailingBlanks, hback]
      exact hfront.symm
    · intro c hc
      rcases List.mem_append.1 hc with hc | hc
      · exact List.mem_takeWhile_imp hc
      · exact List.mem_takeWhile_imp (List.mem_reverse.1 hc)
  trimmed := trimmed_trim s

theorem dropBlanks_append {s t : List Char} (hs : ∀ c ∈ s, isBlank c = true) :
    dropBlanks (s ++ t) = dropBlanks t := List.dropWhile_append_of_pos hs

theorem dropTrailingBlanks_append {s t : List Char} (ht : ∀ c ∈ t, isBlank c = true) :
    dropTrailingBlanks (s ++ t) = dropTrailingBlanks s := by
  have hback : ∀ c ∈ t.reverse, isBlank c = true := fun c hc => ht c (List.mem_reverse.1 hc)
  rw [dropTrailingBlanks, List.reverse_append, List.dropWhile_append_of_pos hback,
    dropTrailingBlanks]

/-- A text has one trimmed form. -/
theorem trims_iff {s : List Char} {t : String} :
    Trims s t.toList ↔ trim (String.ofList s) = t := by
  constructor
  · rintro ⟨⟨before, after, rfl, hblank⟩, hfront, hback⟩
    rw [List.forall_mem_append] at hblank
    obtain ⟨hbefore, hafter⟩ := hblank
    have hdrop : dropTrailingBlanks (dropBlanks (before ++ t.toList ++ after)) = t.toList := by
      rw [List.append_assoc, dropBlanks_append hbefore]
      by_cases hnil : t.toList = []
      · have hall : dropBlanks after = [] := List.dropWhile_eq_nil_iff.2 hafter
        rw [hnil, List.nil_append, hall]
        rfl
      · have hkept : dropBlanks (t.toList ++ after) = t.toList ++ after := by
          rw [dropBlanks, List.dropWhile_append, ← dropBlanks, hfront]
          simp [hnil]
        rw [hkept, dropTrailingBlanks_append hafter, hback]
    rw [trim, String.toList_ofList, hdrop, String.ofList_toList]
  · rintro rfl
    have htrims := trims_trim (String.ofList s)
    rwa [String.toList_ofList] at htrims

/-- Blanks around a text do not change what trimming leaves. -/
theorem trim_around {before after s : List Char} (h : ∀ c ∈ before ++ after, isBlank c = true) :
    trim (String.ofList (before ++ s ++ after)) = trim (String.ofList s) := by
  obtain ⟨⟨front, back, hs, hblank⟩, htrimmed⟩ := trims_iff.2 (Eq.refl (trim (String.ofList s)))
  rw [← trims_iff]
  refine ⟨⟨before ++ front, back ++ after, ?_, ?_⟩, htrimmed⟩
  · have haround := congrArg (before ++ · ++ after) hs
    simpa only [List.append_assoc] using haround
  · simp only [List.forall_mem_append] at h hblank ⊢
    exact ⟨⟨h.1, hblank.1⟩, hblank.2, h.2⟩

theorem trim_of_blank {s : List Char} (h : ∀ c ∈ s, isBlank c = true) :
    trim (String.ofList s) = "" := by
  have hblank : ∀ c ∈ s ++ [], isBlank c = true := by rwa [List.append_nil]
  have htrim := @trim_around s [] [] hblank
  rwa [List.append_nil, List.append_nil] at htrim

theorem mem_of_mem_trim {s : String} {c : Char} (h : c ∈ (trim s).toList) : c ∈ s.toList := by
  rw [trim, String.toList_ofList] at h
  have hfront := (List.rdropWhile_prefix isBlank (dropBlanks s.toList)).subset h
  exact (List.dropWhile_suffix isBlank).subset hfront

/-! ## Splitting -/

variable {separator : Char} {part rest : List Char} {parts : List (List Char)}

theorem split_of_not_mem (h : separator ∉ part) : split separator part = [part] := by
  induction part with
  | nil => rfl
  | cons c cs ih =>
    obtain ⟨hc, hcs⟩ := not_or.1 (mt List.mem_cons.2 h)
    rw [split, if_neg (Ne.symm hc), ih hcs]

theorem split_append_cons (h : separator ∉ part) :
    split separator (part ++ separator :: rest) = part :: split separator rest := by
  induction part with
  | nil => exact if_pos rfl
  | cons c cs ih =>
    obtain ⟨hc, hcs⟩ := not_or.1 (mt List.mem_cons.2 h)
    rw [List.cons_append, split, if_neg (Ne.symm hc), ih hcs]

theorem joinWith_cons (hne : parts ≠ []) :
    joinWith separator (part :: parts) = part ++ separator :: joinWith separator parts := by
  cases parts with
  | nil => exact absurd rfl hne
  | cons q qs => rfl

theorem split_joinWith (hne : parts ≠ []) (h : ∀ p ∈ parts, separator ∉ p) :
    split separator (joinWith separator parts) = parts := by
  induction parts with
  | nil => exact absurd rfl hne
  | cons p ps ih =>
    obtain ⟨hp, hps⟩ := List.forall_mem_cons.1 h
    cases ps with
    | nil => exact split_of_not_mem hp
    | cons q qs =>
      rw [joinWith_cons (List.cons_ne_nil q qs), split_append_cons hp,
        ih (List.cons_ne_nil q qs) hps]

theorem joinWith_split (separator : Char) (s : List Char) :
    joinWith separator (split separator s) = s := by
  induction s with
  | nil => rfl
  | cons c cs ih =>
    have hne := split_ne_nil separator cs
    by_cases hc : c = separator
    · rw [split, if_pos hc, joinWith_cons hne, ih, List.nil_append, hc]
    · rw [split, if_neg hc]
      cases hsplit : split separator cs with
      | nil => exact absurd hsplit hne
      | cons p ps =>
        rw [hsplit] at ih
        cases ps with
        | nil => rw [← ih]; rfl
        | cons q qs => rw [← ih]; rfl

theorem not_mem_of_mem_split {s : List Char} (h : part ∈ split separator s) :
    separator ∉ part := by
  induction s generalizing part with
  | nil =>
    rw [split, List.mem_singleton] at h
    rw [h]
    exact List.not_mem_nil
  | cons c cs ih =>
    rw [split] at h
    split at h
    · rcases List.mem_cons.1 h with rfl | h
      · exact List.not_mem_nil
      · exact ih h
    · rename_i hc
      cases hsplit : split separator cs with
      | nil => exact absurd hsplit (split_ne_nil separator cs)
      | cons p ps =>
        rw [hsplit] at h ih
        rcases List.mem_cons.1 h with rfl | h
        · exact List.not_mem_cons_of_ne_of_not_mem (Ne.symm hc) (ih List.mem_cons_self)
        · exact ih (List.mem_cons_of_mem p h)

/-- Whether a text is made of these parts, with a separator between each two. -/
structure Parts (separator : Char) (s : List Char) (parts : List (List Char)) : Prop where
  joined : joinWith separator parts = s
  ne : parts ≠ []
  separate : ∀ p ∈ parts, separator ∉ p

theorem parts_iff {s : List Char} : Parts separator s parts ↔ split separator s = parts := by
  constructor
  · rintro ⟨rfl, hne, hseparate⟩
    exact split_joinWith hne hseparate
  · rintro rfl
    exact ⟨joinWith_split separator s, split_ne_nil separator s, fun _ => not_mem_of_mem_split⟩

/-! ## Numbers -/

theorem isBlank_of_isDigit {c : Char} (h : c.isDigit = true) : isBlank c = false := by
  have hn : 48 ≤ c.toNat ∧ c.toNat ≤ 57 := by
    simpa [Char.isDigit, UInt32.le_iff_toNat_le] using h
  apply isBlank_of_visible <;> omega

theorem digitsToNat_eq (digits : List Char) :
    digitsToNat digits = Nat.ofDigitChars 10 digits 0 := by
  simp only [digitsToNat, Nat.ofDigitChars, Nat.mul_comm]

theorem digitsToNat_natChars (n : Nat) : digitsToNat (natChars n) = n := by
  rw [digitsToNat_eq]
  exact Nat.ofDigitChars_ten_toDigits

theorem word64?_natChars (n : UInt64) : word64? (natChars n.toNat) = some n := by
  have hdigits : (natChars n.toNat).all Char.isDigit = true :=
    List.all_eq_true.2 fun _ hc => natChars_digit hc
  rw [word64?, digitsToNat_natChars, if_pos ⟨Nat.toDigits_ne_nil, hdigits, n.toNat_lt⟩,
    UInt64.ofNat_toNat]

end JobReport.Text
