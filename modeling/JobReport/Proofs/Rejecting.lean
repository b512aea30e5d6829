import JobReport.Proofs.Layers
import JobReport.Proofs.Text.Utf8

/-!
# Files that are rejected

A file is rejected for the first of its lines that sets nothing well. Where the fault lies in a line
that cannot be cut at its comment, reading does not come to an answer, and the program breaks off.
-/

set_option autoImplicit false

namespace JobReport.EnvFile

variable {env : Environment} {start : List Item} {bytes : Text.Bytes} {cause : EnvFault}

/-- Whether a file is rejected for one of its lines: those before it set items, and after these it
cannot be read. -/
def Rejects (env : Environment) (bytes : Text.Bytes) (cause : EnvFault) : Prop :=
  ∃ before line after items, lines bytes = before ++ line :: after ∧
    itemsFrom env [] before = .ok items ∧ (line >>= item? env items) = .error cause

/-- Whether reading a file breaks off: the lines before one set items, and no front of that one
takes as many bytes as are to be left of it. -/
def BreaksOff (env : Environment) (bytes : Text.Bytes) : Prop :=
  ∃ text index, Rejects env bytes (.line text (.uncut index)) ∧
    ∀ front, front <+: text.toList → Text.Utf8.size front ≠ index

theorem itemsFrom_error_iff {ls : List (Except EnvFault (List Char))} :
    itemsFrom env start ls = .error cause ↔ ∃ before line after items,
      ls = before ++ line :: after ∧ itemsFrom env start before = .ok items ∧
        (line >>= item? env items) = .error cause := by
  induction ls generalizing start with
  | nil => simp [itemsFrom]
  | cons line rest ih =>
    rw [itemsFrom_cons, except_bind_error_iff]
    constructor
    · rintro (h | ⟨item, hitem, h⟩)
      · exact ⟨[], line, rest, start, rfl, rfl, h⟩
      · obtain ⟨before, l, after, items, rfl, hbefore, hl⟩ := ih.1 h
        refine ⟨line :: before, l, after, items, rfl, ?_, hl⟩
        rw [itemsFrom_cons, hitem]
        exact hbefore
    · rintro ⟨before, l, after, items, h, hbefore, hl⟩
      cases before with
      | nil =>
        cases h
        cases hbefore
        exact .inl hl
      | cons b before =>
        cases h
        rw [itemsFrom_cons, except_bind_ok_iff] at hbefore
        obtain ⟨item, hitem, hbefore⟩ := hbefore
        exact .inr ⟨item, hitem, ih.2 ⟨before, l, after, items, rfl, hbefore, hl⟩⟩

theorem items_error_iff : items env bytes = .error cause ↔ Rejects env bytes cause :=
  itemsFrom_error_iff

/-! ## Lines that cannot be cut -/

/-- A comment takes up something of its line. -/
theorem size_of_scan_error {inside : Inside} {s before : List Char}
    (hs : inside.scan s = .error before) : Text.Utf8.size before < Text.Utf8.size s := by
  induction s generalizing inside before with
  | nil => cases hs
  | cons c s ih =>
    rw [Inside.scan] at hs
    cases hstep : inside.step c with
    | none =>
      rw [hstep] at hs
      cases hs
      rw [Text.Utf8.size_cons]
      exact Nat.add_pos_left c.utf8Size_pos _
    | some next =>
      rw [hstep] at hs
      obtain ⟨before, hbefore, rfl⟩ := except_mapError_error_iff.1 hs
      rw [Text.Utf8.size_cons, Text.Utf8.size_cons]
      exact Nat.add_lt_add_left (ih hbefore) _

/-- A line that cannot be cut is not whole in characters up to where it would have to be cut. -/
theorem size_ne_of_uncut {pending front : List Char} {inside : Inside} {raws : List Text.Bytes}
    {text : String} {index : Nat}
    (h : .error (.line text (.uncut index)) ∈ linesFrom pending inside raws)
    (hfront : front <+: text.toList) : Text.Utf8.size front ≠ index := by
  induction raws generalizing pending inside with
  | nil =>
    rw [linesFrom] at h
    split at h <;> simp at h
  | cons raw rest ih =>
    rw [linesFrom] at h
    cases hdecode : Text.Utf8.decode? raw with
    | none => simp [hdecode] at h
    | some line =>
      simp only [hdecode] at h
      split_ifs at h
      · exact ih (by simpa using h)
      · cases hscan : inside.scan line with
        | error before =>
          have hsize : Text.Utf8.size before ≤ Text.Utf8.size (pending ++ line) := by
            rw [Text.Utf8.size_append]
            exact Nat.le_add_left_of_le (size_of_scan_error hscan).le
          cases htake : Text.Utf8.takeSize? (Text.Utf8.size before) (pending ++ line) with
          | some front => exact ih (by simpa [hscan, htake] using h)
          | none =>
            obtain ⟨rfl, rfl⟩ : text = String.ofList (pending ++ line) ∧
                index = Text.Utf8.size before := by simpa [hscan, htake] using h
            rw [String.toList_ofList] at hfront
            intro heq
            simp [(Text.Utf8.takeSize?_eq_some_iff hsize).2 ⟨hfront, heq⟩] at htake
        | ok next => cases next <;> exact ih (by simpa [hscan] using h)

/-- A line that has been cut is rejected with an answer, if it is. -/
theorem breaksOff_of_item? {items : List Item} {line : List Char}
    (h : item? env items line = .error cause) :
    cause.breaksOff = false := by
  have hvalue : ∀ (lookup : List Char → List Char) (text : List Char),
      value lookup text = .error cause → cause.breaksOff = false := by
    intro lookup text h
    obtain ⟨fault, _, rfl⟩ := except_mapError_error_iff.1 h
    cases fault <;> rfl
  simp only [item?] at h
  split_ifs at h
  · cases h
  · rcases except_bind_error_iff.1 h with h | ⟨⟨name, text⟩, _, h⟩
    · obtain ⟨rest, _, rfl⟩ := except_mapError_error_iff.1 h
      rfl
    · dsimp only at h
      split_ifs at h
      · cases h
      · rcases except_bind_error_iff.1 h with h | ⟨_, _, h⟩
        · exact hvalue _ _ h
        · cases h

theorem breaksOff_iff : BreaksOff env bytes ↔
    ∃ cause, Rejects env bytes cause ∧ cause.breaksOff = true := by
  constructor
  · rintro ⟨text, index, h, _⟩
    exact ⟨_, h, rfl⟩
  · rintro ⟨cause, h, hbreaks⟩
    obtain ⟨before, line, after, items, hlines, _, hline⟩ := id h
    cases line with
    | ok line =>
      rw [breaksOff_of_item? hline] at hbreaks
      cases hbreaks
    | error fault =>
      obtain rfl := Except.error.inj hline
      cases fault with
      | file fault => cases hbreaks
      | line text fault =>
        cases fault with
        | unparsed index => cases hbreaks
        | uncut index =>
          have hmem : .error (.line text (.uncut index)) ∈ lines bytes := by simp [hlines]
          exact ⟨text, index, h, fun front => size_ne_of_uncut hmem⟩

end JobReport.EnvFile
