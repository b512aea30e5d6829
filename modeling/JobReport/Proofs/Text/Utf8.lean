import JobReport.Text.Utf8
import Mathlib.Tactic.IntervalCases
import Mathlib.Tactic.SplitIfs

/-!
# Characters and the bytes they are read from

A character is read where the bytes begin with its encoding, and nowhere else. A byte that is a
character of its own, such as a line feed, is never taken for part of another one: whatever stands
before it, reading begins anew there. So a text that was encoded is read as it was, and other bytes
spoil no more than what stands between two such bytes. Texts and their bytes have the same order.
-/

set_option autoImplicit false

namespace JobReport.Text.Utf8

/-! ## One character -/

/-- The first bytes of characters, with what they announce. -/
inductive Leads : UInt8 → Nat × UInt8 × UInt8 × Nat → Prop
  | one (bits : Nat) (h : bits < 0x80) : Leads (.ofNat bits) (0, 0x80, 0xBF, bits)
  | two (bits : Nat) (hlower : 2 ≤ bits) (h : bits < 0x20) :
      Leads (.ofNat (bits + 0xC0)) (1, 0x80, 0xBF, bits)
  | three (bits : Nat) (h : bits < 0x10) :
      Leads (.ofNat (bits + 0xE0))
        (2, if bits = 0 then 0xA0 else 0x80, if bits = 0xD then 0x9F else 0xBF, bits)
  | four (bits : Nat) (h : bits < 5) :
      Leads (.ofNat (bits + 0xF0))
        (3, if bits = 0 then 0x90 else 0x80, if bits = 4 then 0x8F else 0xBF, bits)

theorem lead_of_leads {b : UInt8} {p : Nat × UInt8 × UInt8 × Nat} (h : Leads b p) :
    lead b = some p := by
  cases h with
  | one bits h => decide +revert
  | two bits hlower h => interval_cases bits <;> rfl
  | three bits h => decide +revert
  | four bits h => decide +revert

theorem leads_of_lead {b : UInt8} {p : Nat × UInt8 × UInt8 × Nat} (h : lead b = some p) :
    Leads b p := by
  obtain ⟨n, hn, rfl⟩ : ∃ n < 256, b = .ofNat n := ⟨b.toNat, b.toNat_lt, by simp⟩
  have hsum : ∀ k ≤ n, UInt8.ofNat (n - k + k) = .ofNat n := fun k hk => by
    rw [Nat.sub_add_cancel hk]
  unfold lead at h
  simp only [UInt8.lt_iff_toNat_lt, ← UInt8.toNat_inj, UInt8.toNat_ofNat', UInt8.reduceToNat,
    Nat.reducePow, Nat.mod_eq_of_lt hn] at h
  -- the ranges of first bytes, in the order in which they are told apart
  by_cases h1 : n < 0x80
  · rw [if_pos h1] at h
    cases h
    exact .one n h1
  by_cases h2 : n < 0xC2
  · rw [if_neg h1, if_pos h2] at h
    cases h
  by_cases h3 : n < 0xE0
  · rw [if_neg h1, if_neg h2, if_pos h3] at h
    cases h
    have := Leads.two (n - 0xC0) (by omega) (by omega)
    rwa [hsum _ (by omega)] at this
  rw [if_neg h1, if_neg h2, if_neg h3] at h
  by_cases h4 : n = 0xE0
  · rw [if_pos h4] at h
    cases h
    subst h4
    exact Leads.three 0 (by decide)
  by_cases h5 : n = 0xED
  · rw [if_neg h4, if_pos h5] at h
    cases h
    subst h5
    exact Leads.three 0xD (by decide)
  by_cases h6 : n < 0xF0
  · rw [if_neg h4, if_neg h5, if_pos h6] at h
    cases h
    have := Leads.three (n - 0xE0) (by omega)
    rwa [hsum _ (by omega), if_neg (by omega), if_neg (by omega)] at this
  rw [if_neg h4, if_neg h5, if_neg h6] at h
  by_cases h7 : n = 0xF0
  · rw [if_pos h7] at h
    cases h
    subst h7
    exact Leads.four 0 (by decide)
  by_cases h8 : n < 0xF4
  · rw [if_neg h7, if_pos h8] at h
    cases h
    have := Leads.four (n - 0xF0) (by omega)
    rwa [hsum _ (by omega), if_neg (by omega), if_neg (by omega)] at this
  by_cases h9 : n = 0xF4
  · rw [if_neg h7, if_neg h8, if_pos h9] at h
    cases h
    subst h9
    exact Leads.four 4 (by decide)
  rw [if_neg h7, if_neg h8, if_neg h9] at h
  cases h

theorem follow_succ_iff {n : Nat} {low high : UInt8} {bits : Nat} {s r : Bytes} {c : Char}
    (hlow : 0x80 ≤ low.toNat) (hhigh : high.toNat ≤ 0xBF) :
    follow (n + 1) low high bits s = (some c, r) ↔ ∃ x rest, s = .ofNat (x + 0x80) :: rest ∧
      low.toNat ≤ x + 0x80 ∧ x + 0x80 ≤ high.toNat ∧
      follow n 0x80 0xBF (bits * 0x40 + x) rest = (some c, r) := by
  constructor
  · intro h
    cases s with
    | nil => cases h
    | cons b rest =>
      simp only [follow, Bool.and_eq_true, decide_eq_true_eq, UInt8.le_iff_toNat_le] at h
      split at h
      · rename_i hb
        have hsum : b.toNat - 0x80 + 0x80 = b.toNat := by omega
        refine ⟨b.toNat - 0x80, rest, ?_, by omega, by omega, ?_⟩
        · rw [hsum, UInt8.ofNat_toNat]
        · rwa [show b.toNat - 0x80 = b.toNat % 64 by omega]
      · cases h
  · rintro ⟨x, rest, rfl, hl, hh, h⟩
    have hx : (UInt8.ofNat (x + 0x80)).toNat = x + 0x80 := by
      rw [UInt8.toNat_ofNat']
      omega
    simp only [follow, UInt8.le_iff_toNat_le, hx, hl, hh, decide_true, Bool.and_self, if_true]
    rwa [show (x + 0x80) % 64 = x by omega]

theorem follow_zero_iff {low high : UInt8} {bits : Nat} {s r : Bytes} {c : Char} :
    follow 0 low high bits s = (some c, r) ↔ c = Char.ofNat bits ∧ s = r := by
  rw [follow, Prod.mk.injEq, Option.some.injEq, eq_comm]

theorem toNat_ite {p : Prop} [Decidable p] (a b : UInt8) :
    (if p then a else b).toNat = if p then a.toNat else b.toNat :=
  apply_ite ..

section

variable {bits x y z : Nat}

theorem val_ofNat {v : Nat} (h : v.isValidChar) : (Char.ofNat v).val.toNat = v := by
  rw [Char.ofNat, dif_pos h]
  rfl

theorem encodeChar_one (h : bits < 0x80) : String.utf8EncodeChar (.ofNat bits) = [.ofNat bits] := by
  have hvalid : bits.isValidChar := .inl (by omega)
  rw [String.utf8EncodeChar, val_ofNat hvalid, if_pos (by omega)]

theorem encodeChar_two (hlower : 2 ≤ bits) (h : bits < 0x20) (hx : x < 0x40) :
    String.utf8EncodeChar (.ofNat (bits * 0x40 + x)) =
      [.ofNat (bits + 0xC0), .ofNat (x + 0x80)] := by
  have hvalid : (bits * 0x40 + x).isValidChar := .inl (by omega)
  have h1 : (bits * 0x40 + x) / 64 % 32 = bits := by omega
  have h2 : (bits * 0x40 + x) % 64 = x := by omega
  rw [String.utf8EncodeChar, val_ofNat hvalid, if_neg (by omega), if_pos (by omega), h1, h2]

theorem encodeChar_three (h : bits < 0x10) (hlow : bits = 0 → 0x20 ≤ x)
    (hhigh : bits = 0xD → x < 0x20) (hx : x < 0x40) (hy : y < 0x40) :
    String.utf8EncodeChar (.ofNat ((bits * 0x40 + x) * 0x40 + y)) =
      [.ofNat (bits + 0xE0), .ofNat (x + 0x80), .ofNat (y + 0x80)] := by
  generalize hv : (bits * 0x40 + x) * 0x40 + y = v
  have hvalid : v.isValidChar := by unfold Nat.isValidChar; omega
  have h1 : v / 4096 % 16 = bits := by omega
  have h2 : v / 64 % 64 = x := by omega
  have h3 : v % 64 = y := by omega
  rw [String.utf8EncodeChar, val_ofNat hvalid, if_neg (by omega), if_neg (by omega),
    if_pos (by omega), h1, h2, h3]

theorem encodeChar_four (h : bits < 5) (hlow : bits = 0 → 0x10 ≤ x)
    (hhigh : bits = 4 → x < 0x10) (hx : x < 0x40) (hy : y < 0x40) (hz : z < 0x40) :
    String.utf8EncodeChar (.ofNat (((bits * 0x40 + x) * 0x40 + y) * 0x40 + z)) =
      [.ofNat (bits + 0xF0), .ofNat (x + 0x80), .ofNat (y + 0x80), .ofNat (z + 0x80)] := by
  generalize hv : ((bits * 0x40 + x) * 0x40 + y) * 0x40 + z = v
  have hvalid : v.isValidChar := by unfold Nat.isValidChar; omega
  have h1 : v / 262144 % 8 = bits := by omega
  have h2 : v / 4096 % 64 = x := by omega
  have h3 : v / 64 % 64 = y := by omega
  have h4 : v % 64 = z := by omega
  rw [String.utf8EncodeChar, val_ofNat hvalid, if_neg (by omega), if_neg (by omega),
    if_neg (by omega), h1, h2, h3, h4]

end

theorem follow_tail_iff {n bits : Nat} {s r : Bytes} {c : Char} :
    follow (n + 1) 0x80 0xBF bits s = (some c, r) ↔ ∃ x < 0x40, ∃ rest,
      s = .ofNat (x + 0x80) :: rest ∧ follow n 0x80 0xBF (bits * 0x40 + x) rest = (some c, r) := by
  rw [follow_succ_iff (by decide) (by decide)]
  constructor
  · rintro ⟨x, rest, rfl, _, hx, h⟩
    simp only [UInt8.reduceToNat] at hx
    exact ⟨x, by omega, rest, rfl, h⟩
  · rintro ⟨x, hx, rest, rfl, h⟩
    refine ⟨x, rest, rfl, ?_, ?_, h⟩
    · simp
    · simp only [UInt8.reduceToNat]
      omega

section

variable {bits : Nat} {s r : Bytes} {c : Char}

theorem unit_of_leads {b : UInt8} {n : Nat} {low high : UInt8}
    (h : Leads b (n, low, high, bits)) : unit b s = follow n low high bits s := by
  rw [unit, lead_of_leads h]

theorem unit_one_iff (h : bits < 0x80) :
    unit (.ofNat bits) s = (some c, r) ↔ c = .ofNat bits ∧ s = r := by
  rw [unit_of_leads (.one bits h), follow_zero_iff]

theorem unit_two_iff (hlower : 2 ≤ bits) (h : bits < 0x20) :
    unit (.ofNat (bits + 0xC0)) s = (some c, r) ↔ ∃ x < 0x40,
      c = .ofNat (bits * 0x40 + x) ∧ s = .ofNat (x + 0x80) :: r := by
  rw [unit_of_leads (.two bits hlower h)]
  simp only [follow_tail_iff, follow_zero_iff]
  constructor
  · rintro ⟨x, hx, _, rfl, rfl, rfl⟩
    exact ⟨x, hx, rfl, rfl⟩
  · rintro ⟨x, hx, rfl, rfl⟩
    exact ⟨x, hx, _, rfl, rfl, rfl⟩

theorem unit_three_iff (h : bits < 0x10) :
    unit (.ofNat (bits + 0xE0)) s = (some c, r) ↔ ∃ x < 0x40, ∃ y < 0x40,
      (bits = 0 → 0x20 ≤ x) ∧ (bits = 0xD → x < 0x20) ∧
      c = .ofNat ((bits * 0x40 + x) * 0x40 + y) ∧
      s = .ofNat (x + 0x80) :: .ofNat (y + 0x80) :: r := by
  rw [unit_of_leads (.three bits h),
    follow_succ_iff (by split <;> decide) (by split <;> decide)]
  simp only [follow_tail_iff, follow_zero_iff, toNat_ite, UInt8.reduceToNat]
  constructor
  · rintro ⟨x, _, rfl, hl, hh, y, hy, _, rfl, rfl, rfl⟩
    refine ⟨x, ?_, y, hy, ?_, ?_, rfl, rfl⟩ <;> split_ifs at hl hh <;> omega
  · rintro ⟨x, hx, y, hy, hl, hh, rfl, rfl⟩
    refine ⟨x, _, rfl, ?_, ?_, y, hy, _, rfl, rfl, rfl⟩ <;> split_ifs <;> omega

theorem unit_four_iff (h : bits < 5) :
    unit (.ofNat (bits + 0xF0)) s = (some c, r) ↔ ∃ x < 0x40, ∃ y < 0x40, ∃ z < 0x40,
      (bits = 0 → 0x10 ≤ x) ∧ (bits = 4 → x < 0x10) ∧
      c = .ofNat (((bits * 0x40 + x) * 0x40 + y) * 0x40 + z) ∧
      s = .ofNat (x + 0x80) :: .ofNat (y + 0x80) :: .ofNat (z + 0x80) :: r := by
  rw [unit_of_leads (.four bits h),
    follow_succ_iff (by split <;> decide) (by split <;> decide)]
  simp only [follow_tail_iff, follow_zero_iff, toNat_ite, UInt8.reduceToNat]
  constructor
  · rintro ⟨x, _, rfl, hl, hh, y, hy, _, rfl, z, hz, _, rfl, rfl, rfl⟩
    refine ⟨x, ?_, y, hy, z, hz, ?_, ?_, rfl, rfl⟩ <;> split_ifs at hl hh <;> omega
  · rintro ⟨x, hx, y, hy, z, hz, hl, hh, rfl, rfl⟩
    refine ⟨x, _, rfl, ?_, ?_, y, hy, _, rfl, z, hz, _, rfl, rfl, rfl⟩ <;> split_ifs <;> omega

end

theorem encodeChar_of_unit {b : UInt8} {s r : Bytes} {c : Char} (h : unit b s = (some c, r)) :
    b :: s = String.utf8EncodeChar c ++ r := by
  cases hlead : lead b with
  | none =>
    rw [unit, hlead] at h
    cases h
  | some p =>
    cases leads_of_lead hlead with
    | one bits hbits =>
      obtain ⟨rfl, rfl⟩ := (unit_one_iff hbits).1 h
      rw [encodeChar_one hbits]
      rfl
    | two bits hlower hbits =>
      obtain ⟨x, hx, rfl, rfl⟩ := (unit_two_iff hlower hbits).1 h
      rw [encodeChar_two hlower hbits hx]
      rfl
    | three bits hbits =>
      obtain ⟨x, hx, y, hy, hlow, hhigh, rfl, rfl⟩ := (unit_three_iff hbits).1 h
      rw [encodeChar_three hbits hlow hhigh hx hy]
      rfl
    | four bits hbits =>
      obtain ⟨x, hx, y, hy, z, hz, hlow, hhigh, rfl, rfl⟩ := (unit_four_iff hbits).1 h
      rw [encodeChar_four hbits hlow hhigh hx hy hz]
      rfl

/-- The number of a character with its bytes, each of which but the first holds a digit in base
64. -/
inductive Encodes : Nat → Bytes → Prop
  | one {bits : Nat} (h : bits < 0x80) : Encodes bits [.ofNat bits]
  | two {bits x : Nat} (hlower : 2 ≤ bits) (h : bits < 0x20) (hx : x < 0x40) :
      Encodes (bits * 0x40 + x) [.ofNat (bits + 0xC0), .ofNat (x + 0x80)]
  | three {bits x y : Nat} (h : bits < 0x10) (hlow : bits = 0 → 0x20 ≤ x)
      (hhigh : bits = 0xD → x < 0x20) (hx : x < 0x40) (hy : y < 0x40) :
      Encodes ((bits * 0x40 + x) * 0x40 + y)
        [.ofNat (bits + 0xE0), .ofNat (x + 0x80), .ofNat (y + 0x80)]
  | four {bits x y z : Nat} (h : bits < 5) (hlow : bits = 0 → 0x10 ≤ x)
      (hhigh : bits = 4 → x < 0x10) (hx : x < 0x40) (hy : y < 0x40) (hz : z < 0x40) :
      Encodes (((bits * 0x40 + x) * 0x40 + y) * 0x40 + z)
        [.ofNat (bits + 0xF0), .ofNat (x + 0x80), .ofNat (y + 0x80), .ofNat (z + 0x80)]

theorem encodes {v : Nat} (hvalid : v.isValidChar) :
    Encodes v (String.utf8EncodeChar (.ofNat v)) := by
  unfold Nat.isValidChar at hvalid
  have hsplit : ∀ v : Nat, ∃ u x, v = u * 0x40 + x ∧ x < 0x40 := fun v =>
    ⟨v / 0x40, v % 0x40, by omega⟩
  -- One digit is taken off at a time, until what is left fits into a first byte.
  by_cases h1 : v < 0x80
  · rw [encodeChar_one h1]
    exact .one h1
  obtain ⟨v, z, rfl, hz⟩ := hsplit v
  by_cases h2 : v < 0x20
  · have hlower : 2 ≤ v := by omega
    rw [encodeChar_two hlower h2 hz]
    exact .two hlower h2 hz
  obtain ⟨v, y, rfl, hy⟩ := hsplit v
  by_cases h3 : v < 0x10
  · have hlow : v = 0 → 0x20 ≤ y := by omega
    have hhigh : v = 0xD → y < 0x20 := by omega
    rw [encodeChar_three h3 hlow hhigh hy hz]
    exact .three h3 hlow hhigh hy hz
  obtain ⟨v, x, rfl, hx⟩ := hsplit v
  have h4 : v < 5 := by omega
  have hlow : v = 0 → 0x10 ≤ x := by omega
  have hhigh : v = 4 → x < 0x10 := by omega
  rw [encodeChar_four h4 hlow hhigh hx hy hz]
  exact .four h4 hlow hhigh hx hy hz

theorem encodes_char (c : Char) : Encodes c.toNat (String.utf8EncodeChar c) := by
  have h : Encodes c.toNat (String.utf8EncodeChar (.ofNat c.toNat)) := encodes c.valid
  rwa [Char.ofNat_toNat] at h

theorem unit_of_encodeChar {b : UInt8} {s r : Bytes} {c : Char}
    (h : b :: s = String.utf8EncodeChar c ++ r) : unit b s = (some c, r) := by
  obtain ⟨v, hvalid, rfl⟩ : ∃ v : Nat, v.isValidChar ∧ c = .ofNat v := ⟨c.toNat, c.valid, by simp⟩
  have hbytes := encodes hvalid
  generalize String.utf8EncodeChar (.ofNat v) = bytes at h hbytes
  cases hbytes with
  | one hbits =>
    cases h
    exact (unit_one_iff hbits).2 ⟨rfl, rfl⟩
  | two hlower hbits hx =>
    cases h
    exact (unit_two_iff hlower hbits).2 ⟨_, hx, rfl, rfl⟩
  | three hbits hlow hhigh hx hy =>
    cases h
    exact (unit_three_iff hbits).2 ⟨_, hx, _, hy, hlow, hhigh, rfl, rfl⟩
  | four hbits hlow hhigh hx hy hz =>
    cases h
    exact (unit_four_iff hbits).2 ⟨_, hx, _, hy, _, hz, hlow, hhigh, rfl, rfl⟩

theorem unit_eq_some_iff {b : UInt8} {s r : Bytes} {c : Char} :
    unit b s = (some c, r) ↔ b :: s = String.utf8EncodeChar c ++ r :=
  ⟨encodeChar_of_unit, unit_of_encodeChar⟩

/-! ## Reading begins anew -/

theorem follow_suffix (n : Nat) (low high : UInt8) (bits : Nat) (s : Bytes) :
    (follow n low high bits s).2 <:+ s := by
  induction s generalizing n low high bits with
  | nil => cases n <;> exact List.suffix_rfl
  | cons b s ih =>
    cases n with
    | zero => exact List.suffix_rfl
    | succ n =>
      rw [follow]
      split
      · exact (ih ..).trans (List.suffix_cons b s)
      · exact List.suffix_rfl

theorem unit_suffix (b : UInt8) (s : Bytes) : (unit b s).2 <:+ s := by
  unfold unit
  split
  · exact List.suffix_rfl
  · exact follow_suffix ..

/-- A byte that is a character of its own follows no other. -/
theorem follow_append {b : UInt8} (hb : b < 0x80) {low : UInt8} (hlow : 0x80 ≤ low) (n : Nat)
    (high : UInt8) (bits : Nat) (s t : Bytes) :
    follow n low high bits (s ++ b :: t) =
      ((follow n low high bits s).1, (follow n low high bits s).2 ++ b :: t) := by
  induction s generalizing n low high bits with
  | nil =>
    cases n with
    | zero => rfl
    | succ n =>
      have hout : ¬ low ≤ b := UInt8.not_le.2 (UInt8.lt_of_lt_of_le hb hlow)
      simp [follow, hout]
  | cons a s ih =>
    cases n with
    | zero => rfl
    | succ n =>
      simp only [List.cons_append, follow]
      split
      · exact ih (UInt8.le_refl _) ..
      · rfl

theorem low_of_leads {b : UInt8} {n : Nat} {low high : UInt8} {bits : Nat}
    (h : Leads b (n, low, high, bits)) : 0x80 ≤ low := by
  cases h with
  | one | two => decide
  | three | four => split <;> decide

theorem unit_append {b : UInt8} (hb : b < 0x80) (a : UInt8) (s t : Bytes) :
    unit a (s ++ b :: t) = ((unit a s).1, (unit a s).2 ++ b :: t) := by
  unfold unit
  split
  · rfl
  · rename_i hlead
    exact follow_append hb (low_of_leads (leads_of_lead hlead)) ..

theorem unit_ascii {b : UInt8} (hb : b < 0x80) (s : Bytes) :
    unit b s = (some (.ofNat b.toNat), s) := by
  rw [unit, lead, if_pos hb]
  rfl

/-- Bytes before such a byte are read as if nothing stood after them. -/
theorem units_append {b : UInt8} (hb : b < 0x80) (s t : Bytes) :
    units (s ++ b :: t) = units s ++ some (.ofNat b.toNat) :: units t := by
  induction s using units.induct with
  | case1 =>
    rw [List.nil_append, units.eq_2, unit_ascii hb, units.eq_1]
    rfl
  | case2 a s ih => rw [List.cons_append, units, unit_append hb, ih, units, List.cons_append]

theorem decodeLossy_nil : decodeLossy [] = [] := by
  rw [decodeLossy, units.eq_1, List.map_nil]

theorem decodeLossy_ne_nil {s : Bytes} (h : s ≠ []) : decodeLossy s ≠ [] := by
  cases s with
  | nil => exact absurd rfl h
  | cons b s =>
    rw [decodeLossy, units, List.map_cons]
    exact List.cons_ne_nil _ _

theorem decodeLossy_newline (s t : Bytes) :
    decodeLossy (s ++ 0x0A :: t) = decodeLossy s ++ '\n' :: decodeLossy t := by
  have hb : (0x0A : UInt8) < 0x80 := by decide
  rw [decodeLossy, units_append hb, List.map_append, List.map_cons]
  rfl

theorem decode?_newline {s : Bytes} {t : List Char} (h : decode? s = some t) :
    decode? (s ++ [0x0A]) = some (t ++ ['\n']) := by
  have hb : (0x0A : UInt8) < 0x80 := by decide
  rw [decode?, units_append hb, units.eq_1, List.mapM_append, ← decode?, h]
  rfl

/-- The bytes of every character that is read stand among those read from. -/
theorem mem_of_mem_units {s : Bytes} {c : Char} (h : some c ∈ units s) :
    ∀ b ∈ String.utf8EncodeChar c, b ∈ s := by
  induction s using units.induct with
  | case1 => simp [units] at h
  | case2 a s ih =>
    intro b hb
    rw [units, List.mem_cons] at h
    rcases h with hc | hc
    · have hunit : unit a s = (some c, (unit a s).2) := Prod.ext hc.symm rfl
      rw [unit_eq_some_iff.1 hunit]
      exact List.mem_append_left _ hb
    · exact List.mem_cons_of_mem a ((unit_suffix a s).mem (ih hc b hb))

theorem newline_not_mem_decodeLossy {s : Bytes} (h : 0x0A ∉ s) : '\n' ∉ decodeLossy s := by
  intro hc
  obtain ⟨o, ho, hc⟩ := List.mem_map.1 hc
  cases o with
  | none => cases hc
  | some c =>
    obtain rfl : c = '\n' := hc
    exact h (mem_of_mem_units ho _ (by decide))

theorem units_encode (s : List Char) : units (encode s) = s.map some := by
  induction s with
  | nil => rw [encode, List.flatMap_nil, units, List.map_nil]
  | cons c s ih =>
    rw [encode, List.flatMap_cons, ← encode]
    generalize hbytes : String.utf8EncodeChar c ++ encode s = bytes
    cases bytes with
    | nil => exact absurd (List.append_eq_nil_iff.1 hbytes).1 String.utf8EncodeChar_ne_nil
    | cons b rest => rw [units, unit_of_encodeChar hbytes.symm, ih, List.map_cons]

/-- A text that was encoded is read as it was. -/
theorem decodeLossy_encode (s : List Char) : decodeLossy (encode s) = s := by
  rw [decodeLossy, units_encode, List.map_map]
  exact List.map_id s

theorem decode?_encode (s : List Char) : decode? (encode s) = some s := by
  rw [decode?, units_encode]
  induction s with
  | nil => rfl
  | cons c s ih =>
    rw [List.map_cons, List.mapM_cons, ih]
    rfl

theorem encode_append (s t : List Char) : encode (s ++ t) = encode s ++ encode t :=
  List.flatMap_append ..

theorem encode_ne_nil {s : List Char} (h : s ≠ []) : encode s ≠ [] := by
  cases s with
  | nil => exact absurd rfl h
  | cons c s =>
    rw [encode, List.flatMap_cons]
    exact List.append_ne_nil_of_left_ne_nil String.utf8EncodeChar_ne_nil _

theorem Encodes.newline {n : Nat} {bytes : Bytes} (h : Encodes n bytes) (hmem : 0x0A ∈ bytes) :
    n = 0x0A := by
  cases h <;>
    simp only [List.mem_cons, List.not_mem_nil, or_false, ← UInt8.toNat_inj, UInt8.toNat_ofNat',
      UInt8.reduceToNat] at hmem <;> omega

theorem newline_not_mem_encode {s : List Char} (h : '\n' ∉ s) : 0x0A ∉ encode s := by
  intro hmem
  obtain ⟨c, hc, hbytes⟩ := List.mem_flatMap.1 hmem
  have hnewline : c = '\n' := Char.toNat_inj.1 ((encodes_char c).newline hbytes)
  exact h (hnewline ▸ hc)

/-! ## Sizes -/

theorem size_cons (c : Char) (s : List Char) : size (c :: s) = c.utf8Size + size s := rfl

theorem size_append (s t : List Char) : size (s ++ t) = size s + size t := by
  induction s with
  | nil => exact (Nat.zero_add _).symm
  | cons c s ih => rw [List.cons_append, size_cons, size_cons, ih, Nat.add_assoc]

/-- A text is cut after some bytes where one of its fronts takes just as many, and nowhere else. -/
theorem takeSize?_eq_some_iff {n : Nat} {s front : List Char} (h : n ≤ size s) :
    takeSize? n s = some front ↔ front <+: s ∧ size front = n := by
  induction s generalizing n front with
  | nil =>
    obtain rfl : n = 0 := Nat.le_zero.1 h
    rw [takeSize?, Option.some_inj, List.prefix_nil, eq_comm, and_iff_left_of_imp]
    rintro rfl
    rfl
  | cons c s ih =>
    have hc := c.utf8Size_pos
    rw [size_cons] at h
    rw [takeSize?, List.prefix_cons_iff]
    split_ifs with hzero hfits
    · constructor
      · rintro ⟨⟩
        exact ⟨.inl rfl, hzero.symm⟩
      · rintro ⟨rfl | ⟨t, rfl, _⟩, hsize⟩
        · rfl
        · rw [size_cons] at hsize
          omega
    · rw [Option.map_eq_some_iff]
      constructor
      · rintro ⟨t, ht, rfl⟩
        obtain ⟨hfront, hsize⟩ := (ih (by omega)).1 ht
        exact ⟨.inr ⟨t, rfl, hfront⟩, by rw [size_cons]; omega⟩
      · rintro ⟨rfl | ⟨t, rfl, ht⟩, hsize⟩
        · exact absurd hsize.symm hzero
        · rw [size_cons] at hsize
          exact ⟨t, (ih (by omega)).2 ⟨ht, by omega⟩, rfl⟩
    · refine iff_of_false nofun ?_
      rintro ⟨rfl | ⟨t, rfl, _⟩, hsize⟩
      · exact hzero hsize.symm
      · rw [size_cons] at hsize
        omega

/-- What is taken from the front of a text depends on no more of it than is taken. -/
theorem takeSize?_append {n : Nat} {s : List Char} (h : n < size s) (t : List Char) :
    takeSize? n (s ++ t) = takeSize? n s := by
  induction s generalizing n with
  | nil => exact absurd h (Nat.not_lt_zero n)
  | cons c s ih =>
    rw [size_cons] at h
    rw [List.cons_append, takeSize?, takeSize?]
    split_ifs
    · rfl
    · rw [ih (by omega)]
    · rfl

/-! ## Order -/

theorem cons_ofNat_lt {m n : Nat} (hm : m < 0x100) (hn : n < 0x100) {s t : Bytes} :
    UInt8.ofNat m :: s < .ofNat n :: t ↔ m < n ∨ m = n ∧ s < t := by
  rw [List.cons_lt_cons_iff, UInt8.lt_iff_toNat_lt, ← UInt8.toNat_inj, UInt8.toNat_ofNat',
    UInt8.toNat_ofNat', Nat.mod_eq_of_lt hm, Nat.mod_eq_of_lt hn]

/-- The bytes of characters differ before either ends, and there as their numbers do. -/
theorem Encodes.lt {m n : Nat} {bytes bytes' : Bytes} (hm : Encodes m bytes)
    (hn : Encodes n bytes') (h : m < n) (s t : Bytes) : bytes ++ s < bytes' ++ t := by
  cases hm <;> cases hn <;>
    simp (disch := omega) only [List.cons_append, List.nil_append, cons_ofNat_lt] <;> omega

/-- Texts are in the order of their bytes. -/
theorem encode_lt_encode {s t : List Char} (h : s < t) : encode s < encode t := by
  induction s generalizing t with
  | nil =>
    cases t with
    | nil => exact absurd h (List.lt_irrefl [])
    | cons d t =>
      rw [encode, encode, List.flatMap_cons]
      cases hd : String.utf8EncodeChar d with
      | nil => exact absurd hd String.utf8EncodeChar_ne_nil
      | cons b bytes => exact List.nil_lt_cons ..
  | cons c s ih =>
    cases t with
    | nil => exact absurd h (List.not_lt_nil _)
    | cons d t =>
      rw [encode, encode, List.flatMap_cons, List.flatMap_cons]
      rcases List.cons_lt_cons_iff.1 h with hlt | ⟨rfl, hlt⟩
      · exact (encodes_char c).lt (encodes_char d) hlt _ _
      · exact List.append_left_lt (ih hlt)

end JobReport.Text.Utf8
