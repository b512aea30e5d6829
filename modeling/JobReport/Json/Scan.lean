import JobReport.Json.Fault

/-!
# Reading a JSON text from its front

A scan reads a value off the front of a text and never makes the text longer, which is why every
loop that takes a character each time round comes to an end. Blanks between tokens are passed
over by the operations that look for a token.
-/

set_option autoImplicit false

namespace JobReport

structure Scan (α : Type) where
  run : List Char → Except Fault (α × List Char)
  shrinks : ∀ {s a r}, run s = .ok (a, r) → r.length ≤ s.length

namespace Scan

variable {α β σ : Type}

def isSpace (c : Char) : Bool := c == ' ' || c == '\n' || c == '\t' || c == '\r'

def skipSpace (s : List Char) : List Char := s.dropWhile isSpace

theorem length_dropWhile_le (p : Char → Bool) (s : List Char) :
    (s.dropWhile p).length ≤ s.length := by
  induction s with
  | nil => simp
  | cons c s ih =>
    rw [List.dropWhile_cons]
    split
    · exact Nat.le_succ_of_le ih
    · exact Nat.le_refl _

protected def pure (a : α) : Scan α where
  run s := .ok (a, s)
  shrinks h := by cases h; exact Nat.le_refl _

protected def bind (x : Scan α) (f : α → Scan β) : Scan β where
  run s :=
    match x.run s with
    | .error e => .error e
    | .ok (a, r) => (f a).run r
  shrinks {s b r} h := by
    split at h
    · cases h
    · rename_i a r' hx
      exact Nat.le_trans ((f a).shrinks h) (x.shrinks hx)

instance : Monad Scan where
  pure := Scan.pure
  bind := Scan.bind

@[simp] theorem run_pure (a : α) (s : List Char) : (pure a : Scan α).run s = .ok (a, s) := rfl

@[simp] theorem run_bind (x : Scan α) (f : α → Scan β) (s : List Char) :
    (x >>= f).run s = match x.run s with
      | .error e => .error e
      | .ok (a, r) => (f a).run r := rfl

def fail (fault : Fault) : Scan α where
  run _ := .error fault
  shrinks h := by cases h

def malformed (what : Malformed) : Scan α := fail (.malformed what)

def mismatch (what : Mismatch) : Scan α := fail (.mismatch what)

/-- The outcome of a decoding step that reads nothing. -/
def settle : Except Mismatch α → Scan α
  | .ok a => pure a
  | .error what => mismatch what

/-- Takes the next character, blank or not. -/
def char (atEnd : Unfinished) : Scan Char where
  run
    | [] => .error (.unfinished atEnd)
    | c :: r => .ok (c, r)
  shrinks {s a r} h := by
    cases s with
    | nil => cases h
    | cons c s => cases h; exact Nat.le_succ _

/-- Takes the next character that is not a blank. -/
def next (atEnd : Unfinished) : Scan Char where
  run s :=
    match skipSpace s with
    | [] => .error (.unfinished atEnd)
    | c :: r => .ok (c, r)
  shrinks {s a r} h := by
    have := length_dropWhile_le isSpace s
    unfold skipSpace at h
    split at h
    · cases h
    · rename_i c r' hs
      cases h
      rw [hs] at this
      simp only [List.length_cons] at this
      omega

/-- Looks at the next character that is not a blank and leaves it there. -/
def peek : Scan (Option Char) where
  run s := .ok ((skipSpace s).head?, skipSpace s)
  shrinks h := by cases h; exact length_dropWhile_le ..

/-- Takes the longest run of characters of a class. -/
def takeWhile (p : Char → Bool) : Scan (List Char) where
  run s := .ok (s.takeWhile p, s.dropWhile p)
  shrinks h := by cases h; exact length_dropWhile_le ..

/-- The text that is left, which stays there. -/
def rest : Scan (List Char) where
  run s := .ok (s, s)
  shrinks h := by cases h; exact Nat.le_refl _

/-- Takes the next character if it satisfies a test. -/
def takeIf (p : Char → Bool) : Scan (Option Char) where
  run
    | [] => .ok (none, [])
    | c :: r => if p c then .ok (some c, r) else .ok (none, c :: r)
  shrinks {s a r} h := by
    cases s with
    | nil => cases h; exact Nat.le_refl _
    | cons c s =>
      simp only at h
      split at h <;> cases h
      · exact Nat.le_succ _
      · exact Nat.le_refl _

/-- Takes these characters, which finish a word. -/
def word : List Char → Scan Unit
  | [] => pure ()
  | c :: cs => do
    let d ← char .value
    if d = c then word cs else malformed .expectedIdentifier

/-- Takes the colon after the name of a member. -/
def colon : Scan Unit := do
  let c ← next .object
  if c = ':' then pure () else malformed .expectedColon

def loopRun (step : σ → Char → Scan (σ ⊕ β)) (atEnd : σ → Unfinished) (state : σ)
    (s : List Char) : Except Fault (β × List Char) :=
  match _hs : skipSpace s with
  | [] => .error (.unfinished (atEnd state))
  | c :: r =>
    match _hr : (step state c).run r with
    | .error e => .error e
    | .ok (.inr b, t) => .ok (b, t)
    | .ok (.inl state', t) => loopRun step atEnd state' t
termination_by s.length
decreasing_by
  have h₁ := length_dropWhile_le isSpace s
  have h₂ := (step state c).shrinks _hr
  unfold skipSpace at _hs
  rw [_hs] at h₁
  simp only [List.length_cons] at h₁
  omega

theorem length_loopRun_le (step : σ → Char → Scan (σ ⊕ β)) (atEnd : σ → Unfinished) (state : σ)
    (s : List Char) {b : β} {t : List Char} (h : loopRun step atEnd state s = .ok (b, t)) :
    t.length ≤ s.length := by
  induction hn : s.length using Nat.strongRecOn generalizing state s with
  | ind n ih =>
    subst hn
    have hd := length_dropWhile_le isSpace s
    rw [loopRun] at h
    split at h
    · cases h
    · rename_i c r hs
      unfold skipSpace at hs
      rw [hs, List.length_cons] at hd
      split at h
      · cases h
      · rename_i hr
        cases h
        have := (step state c).shrinks hr
        omega
      · rename_i state' t' hr
        have h₂ := (step state c).shrinks hr
        have := ih t'.length (by omega) state' t' h rfl
        omega

/-- Takes a character and hands it to `step`, again and again, until that has a result. -/
def loop (step : σ → Char → Scan (σ ⊕ β)) (atEnd : σ → Unfinished) (state : σ) : Scan β where
  run := loopRun step atEnd state
  shrinks h := length_loopRun_le step atEnd state _ h

end Scan

end JobReport
