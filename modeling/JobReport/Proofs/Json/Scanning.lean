import JobReport.Json.Print
import JobReport.Json.Read

/-!
# How a scan goes along a printed text

Between the tokens of a printed text stand only blanks, and whatever follows a value does not go on
with it. Each operation of a scan is followed here over the text it is meant for.
-/

set_option autoImplicit false

namespace JobReport

/-- A run of a class of characters ends where another one follows, or nothing. -/
theorem Text.takeWhile_run {p : Char → Bool} {run rest : List Char} (h : ∀ c ∈ run, p c = true)
    (hrest : ∀ c ∈ rest.head?, p c = false) :
    (run ++ rest).takeWhile p = run ∧ (run ++ rest).dropWhile p = rest := by
  rw [List.takeWhile_append_of_pos h, List.dropWhile_append_of_pos h]
  cases rest with
  | nil => exact ⟨List.append_nil run, rfl⟩
  | cons c rest => simp [hrest c (by simp)]

namespace Scan

variable {α β σ : Type} {c : Char} {s r t : List Char}

/-- The first character of a value. -/
def Starts (c : Char) : Prop := isSpace c = false ∧ c ≠ ']' ∧ c ≠ '\x7d'

instance (c : Char) : Decidable (Starts c) :=
  inferInstanceAs (Decidable (isSpace c = false ∧ c ≠ ']' ∧ c ≠ '\x7d'))

/-- What may follow a value: it does not go on with a number. -/
def Ends (rest : List Char) : Prop :=
  ∀ c ∈ rest.head?, c.isDigit = false ∧ c ≠ '.' ∧ isExponentMark c = false

/-- A scan for values takes a text off the front of another. -/
def Reads (value : Char → Scan α) (text : List Char) (a : α) (rest : List Char) : Prop :=
  ∃ c cs, text = c :: cs ∧ Starts c ∧ (value c).run (cs ++ rest) = .ok (a, rest)

theorem reads_of_run {value : Char → Scan α} {text cs rest : List Char} {a : α}
    (htext : text = c :: cs) (hc : Starts c) (hrun : (value c).run (cs ++ rest) = .ok (a, rest)) :
    Reads value text a rest :=
  ⟨c, cs, htext, hc, hrun⟩

theorem ends_nil : Ends [] := by
  intro c hc
  cases hc

theorem ends_cons (h : c.isDigit = false) (hp : c ≠ '.') (he : isExponentMark c = false) :
    Ends (c :: s) := by
  intro d hd
  cases hd
  exact ⟨h, hp, he⟩

theorem ends_comma : Ends (',' :: s) := ends_cons (by decide) (by decide) (by decide)

theorem ends_gap (layout : Layout) (depth : Nat) (h : Ends s) :
    Ends (layout.gap depth ++ s) := by
  cases layout with
  | compact => exact h
  | indented => exact ends_cons (by decide) (by decide) (by decide)

theorem skipSpace_cons (h : isSpace c = false) : skipSpace (c :: s) = c :: s := by
  rw [skipSpace, List.dropWhile_cons_of_neg (by simp [h])]

theorem skipSpace_gap (layout : Layout) (depth : Nat) :
    skipSpace (layout.gap depth ++ s) = skipSpace s := by
  cases layout with
  | compact => rfl
  | indented =>
    have hblank : ∀ n, skipSpace (List.replicate n ' ' ++ s) = skipSpace s := by
      intro n
      induction n with
      | zero => rfl
      | succ n ih => exact ih
    exact hblank (2 * depth)

theorem run_next {atEnd : Unfinished} (h : skipSpace s = c :: r) :
    (next atEnd).run s = .ok (c, r) := by
  simp only [next, h]

theorem run_char (atEnd : Unfinished) : (char atEnd).run (c :: s) = .ok (c, s) := rfl

theorem run_peek : peek.run s = .ok ((skipSpace s).head?, skipSpace s) := rfl

theorem run_word (cs rest : List Char) : (word cs).run (cs ++ rest) = .ok ((), rest) := by
  induction cs with
  | nil => rfl
  | cons c cs ih => simpa [word, run_char] using ih

theorem run_colon (layout : Layout) :
    ∃ r, colon.run (layout.colon ++ s) = .ok ((), r) ∧ skipSpace r = skipSpace s := by
  cases layout with
  | compact => exact ⟨s, rfl, rfl⟩
  | indented => exact ⟨' ' :: s, rfl, rfl⟩

theorem run_takeWhile {p : Char → Bool} {ds : List Char} (h : ∀ d ∈ ds, p d = true)
    (hs : ∀ c ∈ s.head?, p c = false) : (takeWhile p).run (ds ++ s) = .ok (ds, s) := by
  obtain ⟨htake, hdrop⟩ := Text.takeWhile_run h hs
  simp only [takeWhile, htake, hdrop]

theorem run_takeIf_none {p : Char → Bool} (hs : ∀ c ∈ s.head?, p c = false) :
    (takeIf p).run s = .ok (none, s) := by
  cases s with
  | nil => rfl
  | cons c s => simp [takeIf, hs c (by simp)]

section

variable {step : σ → Char → Scan (σ ⊕ β)} {atEnd : σ → Unfinished} {state state' : σ}

theorem loop_next (hs : skipSpace s = c :: r) (hr : (step state c).run r = .ok (.inl state', t)) :
    (loop step atEnd state).run s = (loop step atEnd state').run t := by
  change loopRun step atEnd state s = loopRun step atEnd state' t
  rw [loopRun]
  split
  · rename_i h
    rw [hs] at h
    cases h
  · rename_i h
    rw [hs] at h
    cases h
    split
    · rename_i h
      rw [hr] at h
      cases h
    · rename_i h
      rw [hr] at h
      cases h
    · rename_i h
      rw [hr] at h
      cases h
      rfl

theorem loop_last {b : β} (hs : skipSpace s = c :: r)
    (hr : (step state c).run r = .ok (.inr b, t)) :
    (loop step atEnd state).run s = .ok (b, t) := by
  change loopRun step atEnd state s = .ok (b, t)
  rw [loopRun]
  split
  · rename_i h
    rw [hs] at h
    cases h
  · rename_i h
    rw [hs] at h
    cases h
    split
    · rename_i h
      rw [hr] at h
      cases h
    · rename_i h
      rw [hr] at h
      cases h
      rfl
    · rename_i h
      rw [hr] at h
      cases h

end

end Scan

end JobReport
