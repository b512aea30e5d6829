import JobReport.Proofs.Json.Trees

/-!
# Indented trees line by line

Brackets, elements of lists and members of objects have lines of their own, and what is inside of
brackets is set in by two blanks more than they are. A tree without elements stands on one line.
-/

set_option autoImplicit false

namespace JobReport.Json

structure Line where
  depth : Nat
  text : List Char

def Line.chars (l : Line) : List Char := List.replicate (2 * l.depth) ' ' ++ l.text ++ ['\n']

/-- What follows an element before some others. -/
def comma {α : Type} : List α → List Char
  | [] => []
  | _ :: _ => [',']

mutual

/-- The lines of a tree, with what stands before it on its first line and after it on its last. -/
def lines (depth : Nat) (before after : List Char) : Json → List Line
  | .arr (x :: xs) =>
    ⟨depth, before ++ ['[']⟩ :: lines (depth + 1) [] (comma xs) x ++ itemLines (depth + 1) xs ++
      [⟨depth, ']' :: after⟩]
  | .obj ((name, x) :: ms) =>
    ⟨depth, before ++ ['\x7b']⟩ ::
      lines (depth + 1) (stringChars name ++ [':', ' ']) (comma ms) x ++
      memberLines (depth + 1) ms ++ [⟨depth, '\x7d' :: after⟩]
  | .null => [⟨depth, before ++ ['n', 'u', 'l', 'l'] ++ after⟩]
  | .bool true => [⟨depth, before ++ ['t', 'r', 'u', 'e'] ++ after⟩]
  | .bool false => [⟨depth, before ++ ['f', 'a', 'l', 's', 'e'] ++ after⟩]
  | .int n => [⟨depth, before ++ intChars n.val ++ after⟩]
  | .float bits => [⟨depth, before ++ floatChars bits ++ after⟩]
  | .str s => [⟨depth, before ++ stringChars s ++ after⟩]
  | .arr [] => [⟨depth, before ++ ['[', ']'] ++ after⟩]
  | .obj [] => [⟨depth, before ++ ['\x7b', '\x7d'] ++ after⟩]

def itemLines (depth : Nat) : List Json → List Line
  | [] => []
  | x :: xs => lines depth [] (comma xs) x ++ itemLines depth xs

def memberLines (depth : Nat) : List (String × Json) → List Line
  | [] => []
  | (name, x) :: ms =>
    lines depth (stringChars name ++ [':', ' ']) (comma ms) x ++ memberLines depth ms

end

/-- Whether a text is that of a tree line by line, with a line feed after each line and nowhere
else. -/
structure LaidOut (j : Json) (text : String) : Prop where
  chars : text.toList = (j.lines 0 [] []).flatMap Line.chars
  whole : ∀ l ∈ j.lines 0 [] [], '\n' ∉ l.text

/-! ## The text of the lines -/

theorem comma_cons {α : Type} (x : α) (xs : List α) : comma (x :: xs) = [','] := rfl

mutual

theorem flatMap_lines (depth : Nat) (before after : List Char) : ∀ j : Json,
    (j.lines depth before after).flatMap Line.chars =
      List.replicate (2 * depth) ' ' ++ before ++ j.chars .indented depth ++ after ++ ['\n']
  | .arr (x :: xs) => by
    simp [lines, chars, flatMap_lines, flatMap_itemLines, Line.chars, Layout.gap]
  | .obj ((name, x) :: ms) => by
    simp [lines, chars, flatMap_lines, flatMap_memberLines, Line.chars, Layout.gap, Layout.colon]
  | .null | .bool true | .bool false | .int _ | .float _ | .str _ | .arr [] | .obj [] => by
    simp [lines, chars, Line.chars]

theorem flatMap_itemLines (depth : Nat) (rest : List Char) : ∀ xs : List Json,
    comma xs ++ '\n' :: ((itemLines depth xs).flatMap Line.chars ++ rest) =
      itemChars .indented depth xs ++ '\n' :: rest
  | [] => rfl
  | x :: xs => by
    simp [itemLines, itemChars, comma_cons, flatMap_lines, flatMap_itemLines, Layout.gap]

theorem flatMap_memberLines (depth : Nat) (rest : List Char) : ∀ ms : List (String × Json),
    comma ms ++ '\n' :: ((memberLines depth ms).flatMap Line.chars ++ rest) =
      memberChars .indented depth ms ++ '\n' :: rest
  | [] => rfl
  | (name, x) :: ms => by
    simp [memberLines, memberChars, comma_cons, flatMap_lines, flatMap_memberLines, Layout.gap,
      Layout.colon]

end

/-! ## Line feeds -/

theorem newline_not_mem_comma {α : Type} (xs : List α) : '\n' ∉ comma xs := by
  cases xs <;> simp [comma]

theorem newline_not_mem_toDigits (n : Nat) : '\n' ∉ Nat.toDigits 10 n := by
  intro h
  have hdigit := Text.natChars_digit h
  cases hdigit

theorem newline_not_mem_intChars (n : Int) : '\n' ∉ intChars n := by
  rw [intChars]
  split <;> simp [Text.natChars, newline_not_mem_toDigits]

theorem newline_not_mem_layout (form : FloatForm) {digits : List Char} (h : '\n' ∉ digits)
    (place : Int) : '\n' ∉ form.layout digits place := by
  have htake : ∀ n, '\n' ∉ digits.take n := fun n => mt List.mem_of_mem_take h
  have htail : '\n' ∉ digits.tail := mt List.mem_of_mem_tail h
  have hfraction : ∀ n, '\n' ∉ if digits.length ≤ n then ['0'] else digits.drop n := by
    intro n
    split
    · decide
    · exact mt List.mem_of_mem_drop h
  unfold FloatForm.layout
  split_ifs <;> simp [h, htake, htail, hfraction, List.mem_replicate, newline_not_mem_toDigits]

theorem newline_not_mem_floatChars (bits : UInt64) : '\n' ∉ floatChars bits := by
  have hdigits : ∀ n, '\n' ∉ significantDigits n := fun n h => by
    rw [significantDigits, List.mem_reverse] at h
    exact newline_not_mem_toDigits n (List.mem_reverse.1 ((List.dropWhile_suffix _).subset h))
  unfold floatChars
  simp only [List.mem_append, not_or]
  constructor
  · split_ifs <;> simp
  · split_ifs
    · simp
    · exact newline_not_mem_layout floatForm (hdigits _) _

theorem newline_not_mem_escapeChar (c : Char) : '\n' ∉ escapeChar c := by
  have hdigit : ∀ n < 16, '\n' ≠ Nat.digitChar n := by decide +kernel
  unfold escapeChar
  split_ifs with _ _ _ _ hnewline _ _ hcontrol
  -- After the short escapes, which are fixed texts.
  rotate_left 7
  · have hhigh := hdigit (c.toNat / 16) (by omega)
    have hlow := hdigit (c.toNat % 16) (by omega)
    simp [controlEscape, hhigh, hlow]
  · simpa using Ne.symm hnewline
  all_goals decide

theorem newline_not_mem_stringChars (s : String) : '\n' ∉ stringChars s := by
  simp [stringChars, newline_not_mem_escapeChar]

mutual

theorem newline_not_mem_lines (depth : Nat) {before after : List Char} (hbefore : '\n' ∉ before)
    (hafter : '\n' ∉ after) : ∀ j : Json, ∀ l ∈ j.lines depth before after, '\n' ∉ l.text
  | .arr (x :: xs) => by
    have hx := newline_not_mem_lines (depth + 1) List.not_mem_nil (newline_not_mem_comma xs) x
    have hxs := newline_not_mem_itemLines (depth + 1) xs
    rw [lines, List.forall_mem_append, List.cons_append, List.forall_mem_cons,
      List.forall_mem_append]
    exact ⟨⟨by simp [hbefore], hx, hxs⟩, by simp [hafter]⟩
  | .obj ((name, x) :: ms) => by
    have hname : '\n' ∉ stringChars name ++ [':', ' '] := by simp [newline_not_mem_stringChars]
    have hx := newline_not_mem_lines (depth + 1) hname (newline_not_mem_comma ms) x
    have hms := newline_not_mem_memberLines (depth + 1) ms
    rw [lines, List.forall_mem_append, List.cons_append, List.forall_mem_cons,
      List.forall_mem_append]
    exact ⟨⟨by simp [hbefore], hx, hms⟩, by simp [hafter]⟩
  | .null | .bool true | .bool false | .int _ | .float _ | .str _ | .arr [] | .obj [] => by
    simp [lines, hbefore, hafter, newline_not_mem_intChars, newline_not_mem_floatChars,
      newline_not_mem_stringChars]

theorem newline_not_mem_itemLines (depth : Nat) :
    ∀ xs : List Json, ∀ l ∈ itemLines depth xs, '\n' ∉ l.text
  | [] => nofun
  | x :: xs => List.forall_mem_append.2
    ⟨newline_not_mem_lines depth List.not_mem_nil (newline_not_mem_comma xs) x,
      newline_not_mem_itemLines depth xs⟩

theorem newline_not_mem_memberLines (depth : Nat) :
    ∀ ms : List (String × Json), ∀ l ∈ memberLines depth ms, '\n' ∉ l.text
  | [] => nofun
  | (name, x) :: ms => List.forall_mem_append.2
    ⟨newline_not_mem_lines depth (by simp [newline_not_mem_stringChars])
      (newline_not_mem_comma ms) x,
      newline_not_mem_memberLines depth ms⟩

end

/-- An indented tree with a line feed at its end is laid out line by line. -/
theorem laidOut_indented (j : Json) : LaidOut j (j.indented ++ "\n") where
  chars := by simp [flatMap_lines, indented]
  whole := newline_not_mem_lines 0 List.not_mem_nil List.not_mem_nil j

end JobReport.Json
