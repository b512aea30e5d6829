import JobReport.Proofs.References
import JobReport.Proofs.Rejecting
import JobReport.Proofs.Text.Parts
import JobReport.Proofs.Text.Utf8
import Mathlib

/-!
# A line with a literal value

A text between single quotes is taken as it stands, over line feeds too, if it has no single quote
and no backslash. Such a line can be put at the end of any file that is read without a fault: the
items before it stay what they were, and its own item comes after them.
-/

set_option autoImplicit false

namespace JobReport.EnvFile

open Text (Bytes)

def quotedLine (name value : String) : List Char :=
  name.toList ++ ['=', '\''] ++ value.toList ++ ['\'']

/-- A text that can stand between single quotes. -/
structure Quotable (value : String) : Prop where
  noQuote : '\'' ∉ value.toList
  noBackslash : '\\' ∉ value.toList

/-- A text that a line can set as a name, wherever it stands in the line. -/
def IsName (name : String) : Prop :=
  ∃ c cs, name.toList = c :: cs ∧ isNameStart c = true ∧ ∀ d ∈ cs, isNameChar d = true

/-- What a line that may have no end is ended with. -/
def closing (ending : Option Text.Ending) : List Char := (ending.map Text.Ending.chars).getD []

def ended (bytes : Bytes) : Bytes :=
  if bytes = [] ∨ bytes.getLast? = some 0x0A then bytes else bytes ++ [0x0A]

def addLine (line : List Char) (ending : Option Text.Ending) (bytes : Bytes) : Bytes :=
  ended bytes ++ Text.Utf8.encode (line ++ closing ending)

/-! ## What the reader of lines is inside of -/

section

variable {inside mid last : Inside} {s t before : List Char}

theorem scan_append_ok (hs : inside.scan s = .ok mid) (ht : mid.scan t = .ok last) :
    inside.scan (s ++ t) = .ok last := by
  induction s generalizing inside with
  | nil =>
    cases hs
    exact ht
  | cons c s ih =>
    rw [Inside.scan] at hs
    rw [List.cons_append, Inside.scan]
    cases hstep : inside.step c with
    | none =>
      rw [hstep] at hs
      cases hs
    | some next =>
      rw [hstep] at hs
      exact except_mapError_ok_iff.2 (ih (except_mapError_ok_iff.1 hs))

theorem scan_append_error (hs : inside.scan s = .error before) (t : List Char) :
    inside.scan (s ++ t) = .error before := by
  induction s generalizing inside before with
  | nil => cases hs
  | cons c s ih =>
    rw [Inside.scan] at hs
    rw [List.cons_append, Inside.scan]
    cases hstep : inside.step c with
    | none =>
      rw [hstep] at hs
      exact hs
    | some next =>
      rw [hstep] at hs
      obtain ⟨before, hbefore, rfl⟩ := except_mapError_error_iff.1 hs
      exact except_mapError_error_iff.2 ⟨before, ih hbefore, rfl⟩

theorem scan_word (h : ∀ c ∈ s, Text.isBlank c = false ∧ Inside.opened? c = none) :
    Inside.word.scan s = .ok .word := by
  induction s with
  | nil => rfl
  | cons c s ih =>
    obtain ⟨⟨hblank, hopened⟩, hs⟩ := List.forall_mem_cons.1 h
    simp [Inside.scan, Inside.step, hblank, hopened, ih hs, Except.mapError]

theorem scan_strong (hquote : '\'' ∉ s) (hbackslash : '\\' ∉ s) :
    Inside.strong.scan s = .ok .strong := by
  induction s with
  | nil => rfl
  | cons c s ih =>
    obtain ⟨hc, hquote⟩ := List.ne_and_not_mem_of_not_mem_cons hquote
    obtain ⟨hc', hbackslash⟩ := List.ne_and_not_mem_of_not_mem_cons hbackslash
    simp [Inside.scan, Inside.step, hc.symm, hc'.symm, ih hquote hbackslash, Except.mapError]

theorem scan_closing (ending : Option Text.Ending) :
    Inside.word.scan (closing ending) = .ok .word := by
  rcases ending with _ | _ | _ <;> rfl

theorem scan_closed (ending : Option Text.Ending) :
    Inside.strong.scan ('\'' :: closing ending) = .ok .word := by
  have hquote : Inside.strong.scan ['\''] = .ok .word := rfl
  exact scan_append_ok hquote (scan_closing ending)

theorem isComment_cons {c : Char} (hblank : Text.isBlank c = false) (hc : c ≠ '#') (s : List Char) :
    isComment (c :: s) = false := by
  simp [isComment, Text.dropBlanks, hblank, hc]

theorem dropLineEnd_closing (s : List Char) (ending : Option Text.Ending) :
    dropLineEnd (s ++ '\'' :: closing ending) = s ++ ['\''] := by
  rcases ending with _ | _ | _ <;> simp [closing, Text.Ending.chars, dropLineEnd]

end

/-! ## Raw lines of a literal text -/

section

variable {pending front s t : List Char} {inside : Inside}

theorem cutAfter_line (hs : '\n' ∉ s) (t : List Char) :
    Text.cutAfter 0x0A (Text.Utf8.encode (s ++ '\n' :: t)) =
      Text.Utf8.encode (s ++ ['\n']) :: Text.cutAfter 0x0A (Text.Utf8.encode t) := by
  have hnewline : ∀ u, Text.Utf8.encode ('\n' :: u) = 0x0A :: Text.Utf8.encode u := fun _ => rfl
  rw [Text.Utf8.encode_append, Text.Utf8.encode_append, hnewline, hnewline,
    Text.cutAfter_append (Text.Utf8.newline_not_mem_encode hs)]
  rfl

theorem cutAfter_closing (hs : '\n' ∉ s) (hne : s ≠ []) (ending : Option Text.Ending) :
    Text.cutAfter 0x0A (Text.Utf8.encode (s ++ closing ending)) =
      [Text.Utf8.encode (s ++ closing ending)] := by
  cases ending with
  | none =>
    change Text.cutAfter 0x0A (Text.Utf8.encode (s ++ [])) = [Text.Utf8.encode (s ++ [])]
    rw [List.append_nil, Text.cutAfter_of_not_mem (Text.Utf8.newline_not_mem_encode hs),
      if_neg (Text.Utf8.encode_ne_nil hne)]
  | some ending =>
    cases ending with
    | lineFeed => exact cutAfter_line hs []
    | returnAndLineFeed =>
      have hreturn : '\n' ∉ s ++ ['\r'] := by simpa using hs
      have hline := cutAfter_line hreturn []
      rwa [List.append_assoc] at hline

theorem linesFrom_cons_encode (hcomment : isComment (pending ++ s) = false) (rest : List Bytes) :
    linesFrom pending inside (Text.Utf8.encode s :: rest) =
      match inside.scan s with
      | .error before =>
        match Text.Utf8.takeSize? (Text.Utf8.size before) (pending ++ s) with
        | some front => .ok front :: linesFrom [] .word rest
        | none => [.error (.line (String.ofList (pending ++ s)) (.uncut (Text.Utf8.size before)))]
      | .ok .word => .ok (dropLineEnd (pending ++ s)) :: linesFrom [] .word rest
      | .ok next => linesFrom (pending ++ s) next rest := by
  rw [linesFrom, Text.Utf8.decode?_encode]
  simp only [hcomment]
  rfl

/-- A line that has come to a literal text goes on to the quote at its end. -/
theorem linesFrom_literal {value : List Char} (hquote : '\'' ∉ value) (hbackslash : '\\' ∉ value)
    (hfront : '\n' ∉ front) (hscan : inside.scan front = .ok .strong)
    (hstart : ∀ t, isComment (pending ++ front ++ t) = false) (ending : Option Text.Ending) :
    linesFrom pending inside
      (Text.cutAfter 0x0A (Text.Utf8.encode (front ++ value ++ '\'' :: closing ending))) =
      [.ok (pending ++ front ++ value ++ ['\''])] := by
  -- Each raw line but the first begins inside of the text, with nothing in front.
  induction value using Text.rawLine_induction '\n' generalizing pending front inside with
  | last s hs =>
    have hline : '\n' ∉ front ++ s ++ ['\''] := by simp [hfront, hs]
    have hsplit : front ++ s ++ '\'' :: closing ending =
        front ++ s ++ ['\''] ++ closing ending := by simp
    have hword : inside.scan (front ++ s ++ '\'' :: closing ending) = .ok .word :=
      scan_append_ok (scan_append_ok hscan (scan_strong hquote hbackslash)) (scan_closed ending)
    have hcomment : isComment (pending ++ (front ++ s ++ '\'' :: closing ending)) = false := by
      simpa only [List.append_assoc] using hstart (s ++ '\'' :: closing ending)
    rw [hsplit, cutAfter_closing hline (by simp), ← hsplit, linesFrom_cons_encode hcomment, hword]
    simp only [← List.append_assoc, dropLineEnd_closing]
    rfl
  | line s t hs ih =>
    simp only [List.mem_append, List.mem_cons, not_or] at hquote hbackslash
    have hline : '\n' ∉ front ++ s := by simp [hfront, hs]
    have hsplit : front ++ (s ++ '\n' :: t) ++ '\'' :: closing ending =
        front ++ s ++ '\n' :: (t ++ '\'' :: closing ending) := by simp
    have hstrong : inside.scan (front ++ s ++ ['\n']) = .ok .strong :=
      scan_append_ok (scan_append_ok hscan (scan_strong hquote.1 hbackslash.1)) rfl
    have hcomment : ∀ u, isComment (pending ++ (front ++ s ++ ['\n']) ++ u) = false := fun u => by
      simpa only [List.append_assoc] using hstart (s ++ (['\n'] ++ u))
    have hfirst := hcomment []
    rw [List.append_nil] at hfirst
    rw [hsplit, cutAfter_line hline, linesFrom_cons_encode hfirst, hstrong]
    have hrest : linesFrom (pending ++ (front ++ s ++ ['\n'])) .strong
        (Text.cutAfter 0x0A (Text.Utf8.encode ([] ++ t ++ '\'' :: closing ending))) =
        [.ok (pending ++ (front ++ s ++ ['\n']) ++ [] ++ t ++ ['\''])] := by
      refine ih hquote.2.2 hbackslash.2.2 List.not_mem_nil rfl fun u => ?_
      rw [List.append_nil]
      exact hcomment u
    simp only [List.nil_append, List.append_nil] at hrest
    simp only [hrest]
    simp

end

/-! ## A file with an end -/

section

variable {env : Environment} {start items : List Item} {bytes raw : Bytes} {raws : List Bytes}
  {pending s t line line' : List Char} {inside : Inside}

theorem isComment_newline (s : List Char) : isComment (s ++ ['\n']) = isComment s := by
  have hblank : Text.isBlank '\n' = true := rfl
  rw [isComment, isComment, Text.dropBlanks, Text.dropBlanks, List.dropWhile_append]
  cases List.dropWhile Text.isBlank s with
  | nil => simp [hblank]
  | cons c s => rfl

theorem dropTrailingBlanks_dropLineEnd (s : List Char) :
    Text.dropTrailingBlanks (dropLineEnd s) = Text.dropTrailingBlanks s := by
  have hnewline : Text.isBlank '\n' = true := rfl
  have hreturn : Text.isBlank '\r' = true := rfl
  rw [dropLineEnd, Text.dropTrailingBlanks, Text.dropTrailingBlanks]
  split
  · rename_i front hs
    rw [hs, List.reverse_reverse, List.dropWhile_cons_of_pos hnewline,
      List.dropWhile_cons_of_pos hreturn]
  · rename_i front _ hs
    rw [hs, List.reverse_reverse, List.dropWhile_cons_of_pos hnewline]
  · rfl

/-- Blanks at the end of a line have no part in its item. -/
theorem item?_of_trailing {item : Option Item}
    (h : Text.dropTrailingBlanks line' = Text.dropTrailingBlanks line)
    (hitem : item? env items line = .ok item) : item? env items line' = .ok item := by
  simp only [item?, h] at hitem ⊢
  split_ifs at hitem ⊢ with hbare
  · exact hitem
  · rw [except_bind_ok_iff] at hitem ⊢
    obtain ⟨target, htarget, hitem⟩ := hitem
    exact ⟨target, except_mapError_ok_iff.2 (except_mapError_ok_iff.1 htarget), hitem⟩

theorem ended_append (s t : Bytes) : ended (s ++ 0x0A :: t) = s ++ 0x0A :: ended t := by
  cases t with
  | nil => simp [ended]
  | cons b t =>
    have hlast : (s ++ 0x0A :: b :: t).getLast? = (b :: t).getLast? := by
      rw [List.getLast?_append_cons, List.getLast?_cons_cons]
    rw [ended, ended, hlast]
    simp only [List.append_eq_nil_iff, List.cons_ne_nil, and_false, false_or]
    split <;> simp

/-- A line that is read without an end sets what it sets with one. -/
theorem itemsFrom_newline (h : itemsFrom env start (linesFrom pending inside [raw]) = .ok items) :
    itemsFrom env start (linesFrom pending inside [raw ++ [0x0A]]) = .ok items := by
  cases hdecode : Text.Utf8.decode? raw with
  | none =>
    rw [linesFrom, hdecode] at h
    cases h
  | some line =>
    have hcomment : isComment (pending ++ (line ++ ['\n'])) = isComment (pending ++ line) := by
      rw [← List.append_assoc, isComment_newline]
    simp only [linesFrom, hdecode] at h
    simp only [linesFrom, Text.Utf8.decode?_newline hdecode, hcomment]
    split_ifs at h ⊢
    · exact h
    · cases hscan : inside.scan line with
      | error before =>
        have hsize : Text.Utf8.size before < Text.Utf8.size (pending ++ line) := by
          rw [Text.Utf8.size_append]
          exact Nat.lt_add_left _ (size_of_scan_error hscan)
        simp only [hscan] at h
        simp only [scan_append_error hscan, ← List.append_assoc,
            Text.Utf8.takeSize?_append hsize]
        cases htake : Text.Utf8.takeSize? (Text.Utf8.size before) (pending ++ line) with
        | none =>
          rw [htake] at h
          cases h
        | some front =>
          rw [htake] at h
          exact h
      | ok next =>
        by_cases hnext : next = .word
        · subst hnext
          have hscan' : inside.scan (line ++ ['\n']) = .ok .word := scan_append_ok hscan rfl
          simp only [hscan, itemsFrom_cons, except_bind_ok_iff] at h
          simp only [hscan', itemsFrom_cons, except_bind_ok_iff]
          obtain ⟨item, ⟨_, ⟨⟩, hitem⟩, h⟩ := h
          refine ⟨item, ⟨_, rfl, item?_of_trailing ?_ hitem⟩, h⟩
          rw [dropTrailingBlanks_dropLineEnd, dropTrailingBlanks_dropLineEnd, ← List.append_assoc]
          exact Text.dropTrailingBlanks_append (List.forall_mem_singleton.2 rfl)
        · simp only [hscan] at h
          cases next <;> first | exact absurd rfl hnext | cases h

theorem itemsFrom_ended
    (h : itemsFrom env start (linesFrom pending inside (Text.cutAfter 0x0A bytes)) = .ok items) :
    itemsFrom env start (linesFrom pending inside (Text.cutAfter 0x0A (ended bytes))) =
      .ok items := by
  induction bytes using Text.rawLine_induction (0x0A : UInt8) generalizing pending inside start with
  | last s hs =>
    by_cases hnil : s = []
    · rw [hnil] at h ⊢
      exact h
    · have hlast : s.getLast? ≠ some 0x0A := fun hlast => hs (List.mem_of_getLast? hlast)
      have hended : ended s = s ++ [0x0A] := if_neg (not_or.2 ⟨hnil, hlast⟩)
      rw [Text.cutAfter_of_not_mem hs, if_neg hnil] at h
      rw [hended, Text.cutAfter_append hs]
      exact itemsFrom_newline h
  | line s t hs ih =>
    rw [Text.cutAfter_append hs] at h
    rw [ended_append, Text.cutAfter_append hs]
    obtain ⟨fault, hstep⟩ | ⟨line, hstep⟩ | ⟨pending', inside', _, hstep⟩ :=
      linesFrom_step pending inside (s ++ [0x0A])
    · rw [hstep] at h
      cases h
    · rw [hstep, itemsFrom_cons, except_bind_ok_iff] at h ⊢
      obtain ⟨item, hitem, h⟩ := h
      exact ⟨item, hitem, ih h⟩
    · rw [hstep] at h ⊢
      exact ih h

theorem ended_ended (bytes : Bytes) : ended bytes = [] ∨ (ended bytes).getLast? = some 0x0A := by
  rw [ended]
  split
  · assumption
  · exact .inr (List.getLast?_concat ..)

/-- Raw lines that are read without a fault set the same items before any others. -/
theorem itemsFrom_append (hpending : inside = .word → pending = [])
    (h : itemsFrom env start (linesFrom pending inside raws) = .ok items) (rest : List Bytes) :
    itemsFrom env start (linesFrom pending inside (raws ++ rest)) =
      itemsFrom env items (linesFrom [] .word rest) := by
  induction raws generalizing start pending inside with
  | nil =>
    rw [linesFrom] at h
    split at h
    · rename_i hword
      cases h
      rw [hword, hpending hword, List.nil_append]
    · cases h
  | cons raw raws ih =>
    rw [List.cons_append]
    obtain ⟨fault, hstep⟩ | ⟨line, hstep⟩ | ⟨pending', inside', hinside, hstep⟩ :=
      linesFrom_step pending inside raw
    · rw [hstep] at h
      cases h
    · rw [hstep, itemsFrom_cons, except_bind_ok_iff] at h
      obtain ⟨item, hitem, h⟩ := h
      rw [hstep, itemsFrom_cons, hitem]
      exact ih (fun _ => rfl) h
    · rw [hstep] at h ⊢
      exact ih (fun hword => absurd hword hinside) h

end

/-! ## The line and its item -/

section

variable {env : Environment} {items : List Item} {bytes : Bytes} {name value : String}

theorem takeTarget_name (hname : IsName name) (s : List Char) :
    takeTarget (name.toList ++ '=' :: '\'' :: s) = .ok (name.toList, '\'' :: s) := by
  obtain ⟨c, cs, hchars, hc, hcs⟩ := hname
  have hstop : ∀ d ∈ ('=' :: '\'' :: s).head?, isNameChar d = false := by
    intro d hd
    obtain rfl := Option.some.inj hd
    decide
  obtain ⟨htake, hdrop⟩ := Text.takeWhile_run hcs hstop
  have htaken : takeName (name.toList ++ '=' :: '\'' :: s) =
      .ok (name.toList, '=' :: '\'' :: s) := by
    rw [hchars, List.cons_append, takeName, if_pos hc, htake, hdrop]
    rfl
  have hnext : ¬(name.toList = "export".toList ∧ ('=' :: '\'' :: s).head? ≠ some '=') :=
    fun h => h.2 rfl
  rw [takeTarget, htaken]
  change (if name.toList = "export".toList ∧ ('=' :: '\'' :: s).head? ≠ some '=' then _ else _) = _
  rw [if_neg hnext]
  rfl

theorem valueFrom_literal (lookup : List Char → List Char) {s : List Char} (h : '\'' ∉ s) :
    valueFrom lookup .literal (s ++ ['\'']) = .ok s := by
  induction s with
  | nil => rfl
  | cons c s ih =>
    obtain ⟨hc, hs⟩ := List.ne_and_not_mem_of_not_mem_cons h
    rw [List.cons_append, valueFrom, if_neg hc.symm, ih hs]
    rfl

theorem value_literal (lookup : List Char → List Char) {s : List Char} (h : '\'' ∉ s) :
    EnvFile.value lookup ('\'' :: (s ++ ['\''])) = .ok s := by
  have hliteral : valueFrom lookup (.plain false) ('\'' :: (s ++ ['\''])) =
      valueFrom lookup .literal (s ++ ['\'']) := by
    simp [valueFrom]
  rw [EnvFile.value, hliteral, valueFrom_literal _ h]
  rfl

theorem visible_of_isNameChar {c : Char} (h : isNameChar c = true) :
    0x2E ≤ c.toNat ∧ c.toNat ≤ 0x7A := by
  simp only [isNameChar, Char.isAlphanum, Char.isAlpha, Char.isUpper, Char.isLower, Char.isDigit,
    Bool.or_eq_true, Bool.and_eq_true, decide_eq_true_eq, beq_iff_eq, UInt32.le_iff_toNat_le] at h
  rcases h with (((⟨hlower, hupper⟩ | ⟨hlower, hupper⟩) | ⟨hlower, hupper⟩) | rfl) | rfl
  · exact ⟨Nat.le_trans (by decide) hlower, Nat.le_trans hupper (by decide)⟩
  · exact ⟨Nat.le_trans (by decide) hlower, Nat.le_trans hupper (by decide)⟩
  · exact ⟨Nat.le_trans (by decide) hlower, Nat.le_trans hupper (by decide)⟩
  · decide
  · decide

theorem isNameChar_of_start {c : Char} (h : isNameStart c = true) : isNameChar c = true := by
  simp only [isNameStart, isNameChar, Char.isAlphanum, Bool.or_eq_true] at h ⊢
  exact .inl (h.imp_left .inl)

theorem plain_of_isNameChar {c : Char} (h : isNameChar c = true) :
    Text.isBlank c = false ∧ Inside.opened? c = none := by
  obtain ⟨hlower, hupper⟩ := visible_of_isNameChar h
  refine ⟨Text.isBlank_of_visible (by omega) (by omega), ?_⟩
  have hne : ∀ d, isNameChar d = false → c ≠ d := fun d hd heq => by simp [← heq, h] at hd
  rw [Inside.opened?, if_neg (hne _ rfl), if_neg (hne _ rfl), if_neg (hne _ rfl)]

theorem IsName.chars (hname : IsName name) : ∀ c ∈ name.toList, isNameChar c = true := by
  obtain ⟨c, cs, hchars, hc, hcs⟩ := hname
  rw [hchars, List.forall_mem_cons]
  exact ⟨isNameChar_of_start hc, hcs⟩

/-- A line that starts with a name is no comment and has no blanks in front. -/
theorem IsName.start (hname : IsName name) :
    ∃ c cs, name.toList = c :: cs ∧ Text.isBlank c = false ∧ c ≠ '#' := by
  obtain ⟨c, cs, hchars, hc, _⟩ := hname
  refine ⟨c, cs, hchars, (plain_of_isNameChar (isNameChar_of_start hc)).1, ?_⟩
  rintro rfl
  exact absurd hc (by decide)

theorem quotedLine_eq (name value : String) :
    quotedLine name value = name.toList ++ '=' :: '\'' :: (value.toList ++ ['\'']) := by
  simp [quotedLine]

theorem item?_quotedLine (hname : IsName name) (hvalue : Quotable value) :
    item? env items (quotedLine name value) = .ok (some (name, value)) := by
  obtain ⟨c, cs, hchars, hblank, hcomment⟩ := hname.start
  have hstart : quotedLine name value = c :: (cs ++ '=' :: '\'' :: (value.toList ++ ['\''])) := by
    rw [quotedLine_eq, hchars, List.cons_append]
  have htrailing : Text.dropTrailingBlanks (quotedLine name value) = quotedLine name value := by
    have hquote : Text.isBlank '\'' = false := rfl
    simp [quotedLine, Text.dropTrailingBlanks, hquote]
  have hleading : Text.dropBlanks (quotedLine name value) = quotedLine name value := by
    rw [hstart, Text.dropBlanks, List.dropWhile_cons_of_neg (by simp [hblank])]
  have hbare : isBare (quotedLine name value) = false := by
    simp [hstart, isBare, hcomment]
  have htarget := takeTarget_name hname (value.toList ++ ['\''])
  rw [← quotedLine_eq] at htarget
  have hnotBare : isBare ('\'' :: (value.toList ++ ['\''])) = false := rfl
  simp only [item?, htrailing, hleading, hbare, htarget]
  simp [Except.mapError, hnotBare, value_literal _ hvalue.noQuote, except_bind_ok_iff, pure,
    Except.pure]

theorem linesFrom_quotedLine (hname : IsName name) (hvalue : Quotable value)
    (ending : Option Text.Ending) : linesFrom [] .word
      (Text.cutAfter 0x0A (Text.Utf8.encode (quotedLine name value ++ closing ending))) =
      [.ok (quotedLine name value)] := by
  have hplain : ∀ d ∈ name.toList ++ ['='], Text.isBlank d = false ∧ Inside.opened? d = none := by
    intro d hd
    rcases List.mem_append.1 hd with hd | hd
    · exact plain_of_isNameChar (hname.chars d hd)
    · rw [List.mem_singleton.1 hd]
      exact ⟨rfl, rfl⟩
  have hscan : Inside.word.scan (name.toList ++ ['='] ++ ['\'']) = .ok .strong :=
    scan_append_ok (scan_word hplain) rfl
  have hfront : '\n' ∉ name.toList ++ ['='] ++ ['\''] := by
    intro h
    rcases List.mem_append.1 h with h | h
    · exact absurd (hplain _ h).1 (by decide)
    · exact absurd h (by decide)
  have hstart : ∀ t, isComment ([] ++ (name.toList ++ ['='] ++ ['\'']) ++ t) = false := by
    obtain ⟨c, cs, hchars, hblank, hcomment⟩ := hname.start
    intro t
    rw [hchars]
    exact isComment_cons hblank hcomment _
  have hline := linesFrom_literal hvalue.noQuote hvalue.noBackslash hfront hscan hstart ending
  simpa [quotedLine] using hline

/-- A file that is read with one more line sets one more item. -/
theorem items_addLine (hname : IsName name) (hvalue : Quotable value)
    (h : EnvFile.items env bytes = .ok items) (ending : Option Text.Ending) :
    EnvFile.items env (addLine (quotedLine name value) ending bytes) =
      .ok (items ++ [(name, value)]) := by
  rw [EnvFile.items, lines, addLine, Text.cutAfter_append_of_ended (ended_ended bytes),
    itemsFrom_append (fun _ => rfl) (itemsFrom_ended h), linesFrom_quotedLine hname hvalue,
    itemsFrom_cons]
  change (item? env items (quotedLine name value) >>= _) = _
  rw [item?_quotedLine hname hvalue]
  rfl

end

example : addLine (quotedLine "A" "x #y") (some .lineFeed) "B=1".toUTF8.data.toList =
    "B=1\nA='x #y'\n".toUTF8.data.toList := by decide +kernel

end JobReport.EnvFile
