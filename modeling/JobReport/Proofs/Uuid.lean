import JobReport.Proofs.Json.Strings
import JobReport.Proofs.Traversal
import JobReport.Uuid

/-!
# UUIDs are read as they are written

The five groups of digits are found again between their hyphens.
-/

set_option autoImplicit false

namespace JobReport.Uuid

theorem digit?_digitChar (d : Fin 16) : digit? (Nat.digitChar d.val) = some d := by
  rw [digit?, hexValue?_digitChar d.val d.isLt]
  simp

theorem ofDigits?_digits (u : Uuid) :
    ofDigits? (u.digits.map fun d => Nat.digitChar d.val) = some u := by
  have hdigits : (u.digits.map fun d => Nat.digitChar d.val).mapM digit? = some u.digits := by
    rw [List.mapM_map]
    generalize u.digits = ds
    induction ds with
    | nil => rfl
    | cons d ds ih => simp [digit?_digitChar, ih]
  simp [ofDigits?, hdigits, u.length_digits]

theorem unhyphenated?_groups {a b c d e : List Char} (ha : a.length = 8) (hb : b.length = 4)
    (hc : c.length = 4) (hd : d.length = 4) (he : e.length = 12) :
    unhyphenated? (a ++ '-' :: b ++ '-' :: c ++ '-' :: d ++ '-' :: e) =
      some (a ++ b ++ c ++ d ++ e) := by
  have hplaces : ∀ s, s = a ++ '-' :: b ++ '-' :: c ++ '-' :: d ++ '-' :: e →
      s.length = 36 ∧ s[8]? = some '-' ∧ s[13]? = some '-' ∧ s[18]? = some '-' ∧
        s[23]? = some '-' := by
    rintro s rfl
    simp [ha, hb, hc, hd, he]
  rw [unhyphenated?, if_pos (hplaces _ rfl)]
  simp (disch := omega) [List.drop_append, List.drop_of_length_le, ha, hb, hc, hd]

/-- Neither a brace nor the prefix stands before the digits. -/
theorem bare_of_ne {c : Char} {s : List Char} (hbrace : c ≠ '\x7b') (hu : c.toLower ≠ 'u') :
    bare (c :: s) = c :: s := by
  rw [bare]
  · rw [if_neg]
    intro h
    have hfirst := congrArg List.head? h
    simp at hfirst
    exact hu hfirst
  · intro r h
    exact hbrace (List.cons.inj h).1

theorem digitChar_ne : ∀ d : Fin 16,
    Nat.digitChar d.val ≠ '\x7b' ∧ (Nat.digitChar d.val).toLower ≠ 'u' := by
  decide

theorem bare_chars (u : Uuid) : bare u.chars = u.chars := by
  cases hu : u.digits with
  | nil =>
    have hlength := u.length_digits
    rw [hu] at hlength
    cases hlength
  | cons d ds =>
    have hcons : u.chars = Nat.digitChar d.val :: u.chars.tail := by simp [chars, hu]
    rw [hcons]
    exact bare_of_ne (digitChar_ne d).1 (digitChar_ne d).2

/-- A UUID is read back from its text. -/
theorem parse?_text (u : Uuid) : parse? u.text = some u := by
  have hlength : (u.digits.map fun d => Nat.digitChar d.val).length = 32 := by
    rw [List.length_map, u.length_digits]
  have hread := ofDigits?_digits u
  rw [parse?, text, String.toList_ofList, bare_chars, chars]
  generalize (u.digits.map fun d => Nat.digitChar d.val) = s at hlength hread
  have hjoin : s.take 8 ++ (s.drop 8).take 4 ++ (s.drop 12).take 4 ++ (s.drop 16).take 4 ++
      s.drop 20 = s := by
    have h₁ : s.take (8 + 4) = s.take 8 ++ (s.drop 8).take 4 := List.take_add
    have h₂ : s.take (12 + 4) = s.take 12 ++ (s.drop 12).take 4 := List.take_add
    have h₃ : s.take (16 + 4) = s.take 16 ++ (s.drop 16).take 4 := List.take_add
    rw [← h₁, ← h₂, ← h₃, List.take_append_drop]
  rw [unhyphenated?_groups (by simp [hlength]) (by simp [hlength]) (by simp [hlength])
    (by simp [hlength]) (by simp [hlength]), hjoin]
  exact hread

end JobReport.Uuid
