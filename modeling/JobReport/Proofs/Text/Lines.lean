import JobReport.Text.Lines
import Mathlib.Data.List.Basic
import Mathlib.Data.List.Count

/-!
# Lines one after the other

A text is worked through raw line by raw line: up to the first line feed, and then on from there.
The lines of a text are those of its raw lines, and lines that were written, each with an end of its
own, are found again.
-/

set_option autoImplicit false

namespace JobReport.Text

/-! ## Raw lines -/

section

variable {α : Type} [DecidableEq α] (stop : α) {s t : List α}

/-- What holds of a list without a stop, and of a list whose first stop is followed by one of which
it holds, holds of every list. -/
theorem rawLine_induction {p : List α → Prop} (last : ∀ s, stop ∉ s → p s)
    (line : ∀ s t, stop ∉ s → p t → p (s ++ stop :: t)) (s : List α) : p s := by
  induction hn : s.length using Nat.strongRecOn generalizing s with
  | ind n ih =>
    by_cases hs : stop ∈ s
    · obtain ⟨before, after, rfl, hbefore⟩ := List.eq_append_cons_of_mem hs
      apply line before after hbefore
      apply ih after.length ?_ after rfl
      simp only [List.length_append, List.length_cons] at hn
      omega
    · exact last s hs

variable {stop}

theorem cutAfter_of_not_mem (h : stop ∉ s) : cutAfter stop s = if s = [] then [] else [s] := by
  induction s with
  | nil => rfl
  | cons c s ih =>
    obtain ⟨hc, hs⟩ := List.ne_and_not_mem_of_not_mem_cons h
    rw [cutAfter, if_neg hc.symm, ih hs]
    by_cases hnil : s = []
    · simp [hnil]
    · simp [hnil]

theorem cutAfter_append (h : stop ∉ s) :
    cutAfter stop (s ++ stop :: t) = (s ++ [stop]) :: cutAfter stop t := by
  induction s with
  | nil => simp [cutAfter]
  | cons c s ih =>
    obtain ⟨hc, hs⟩ := List.ne_and_not_mem_of_not_mem_cons h
    rw [List.cons_append, cutAfter, if_neg hc.symm, ih hs]
    rfl

/-- After a stop the raw lines begin anew. -/
theorem cutAfter_append_of_ended (hs : s = [] ∨ s.getLast? = some stop) (t : List α) :
    cutAfter stop (s ++ t) = cutAfter stop s ++ cutAfter stop t := by
  induction s using rawLine_induction stop with
  | last s hs' =>
    rcases hs with rfl | hlast
    · rfl
    · exact absurd (List.mem_of_getLast? hlast) hs'
  | line s u hs' ih =>
    have hu : u = [] ∨ u.getLast? = some stop := by
      cases u with
      | nil => exact .inl rfl
      | cons c u => simpa [List.getLast?_append] using hs
    rw [List.append_assoc, List.cons_append, cutAfter_append hs', cutAfter_append hs', ih hu,
      List.cons_append]

/-- There are as many raw lines as stops, and one more if something stands after the last. -/
theorem length_cutAfter (s : List α) : (cutAfter stop s).length =
    s.count stop + if s = [] ∨ s.getLast? = some stop then 0 else 1 := by
  induction s using rawLine_induction stop with
  | last s hs =>
    have hlast : s.getLast? ≠ some stop := fun h => hs (List.mem_of_getLast? h)
    rw [cutAfter_of_not_mem hs, List.count_eq_zero_of_not_mem hs]
    by_cases hnil : s = []
    · simp [hnil]
    · simp [hnil, hlast]
  | line s t hs ih =>
    rw [cutAfter_append hs, List.length_cons, ih, List.count_append,
      List.count_eq_zero_of_not_mem hs, List.count_cons_self]
    cases t with
    | nil => simp
    | cons c t =>
      simp only [List.getLast?_append, List.getLast?_cons_cons]
      simp
      omega

/-- Some of the raw lines of a text are the raw lines of what they make together. -/
theorem cutAfter_flatten {raws : List (List α)} (h : raws.Sublist (cutAfter stop s)) :
    cutAfter stop raws.flatten = raws := by
  induction s using rawLine_induction stop generalizing raws with
  | last s hs =>
    rw [cutAfter_of_not_mem hs] at h
    split at h
    · rw [List.sublist_nil.1 h]
      rfl
    · rename_i hne
      rcases List.sublist_singleton.1 h with rfl | rfl
      · rfl
      · rw [List.flatten_singleton, cutAfter_of_not_mem hs, if_neg hne]
  | line s t hs ih =>
    rw [cutAfter_append hs] at h
    cases h with
    | cons _ h => exact ih h
    | cons_cons _ h =>
      rw [List.flatten_cons, List.append_assoc, List.singleton_append, cutAfter_append hs, ih h]

end

/-! ## Lines of a text -/

variable {s t line : List Char}

theorem linesFrom_append (h : '\n' ∉ s) (line t : List Char) :
    linesFrom line (s ++ t) = linesFrom (s.reverse ++ line) t := by
  induction s generalizing line with
  | nil => rfl
  | cons c s ih =>
    obtain ⟨hc, hs⟩ := List.ne_and_not_mem_of_not_mem_cons h
    rw [List.cons_append, linesFrom, if_neg hc.symm, ih hs, List.reverse_cons,
      List.append_assoc, List.singleton_append]

/-- The line that ends first, and those after it. -/
theorem lines_append_newline (h : '\n' ∉ s) (t : List Char) :
    lines (s ++ '\n' :: t) = closeLine s.reverse :: lines t := by
  rw [lines, linesFrom_append h, List.append_nil, linesFrom, if_pos rfl, lines]

theorem lines_of_not_mem (h : '\n' ∉ s) : lines s = if s = [] then [] else [s] := by
  have hfrom := linesFrom_append h [] []
  rw [List.append_nil, List.append_nil, linesFrom, List.reverse_reverse] at hfrom
  rw [lines, hfrom]
  simp

/-- A line feed parts the lines before it from those after it. -/
theorem lines_append (s t : List Char) :
    lines (s ++ '\n' :: t) = lines (s ++ ['\n']) ++ lines t := by
  induction s using rawLine_induction '\n' with
  | last s hs => rw [lines_append_newline hs, lines_append_newline hs]; rfl
  | line s u hs ih =>
    rw [List.append_assoc, List.append_assoc, List.cons_append, List.cons_append,
      lines_append_newline hs, lines_append_newline hs, ih]
    rfl

theorem mem_of_mem_closeLine {c : Char} (h : c ∈ closeLine line) : c ∈ line := by
  unfold closeLine at h
  split at h
  · exact List.mem_cons_of_mem _ (List.mem_reverse.1 h)
  · exact List.mem_reverse.1 h

theorem newline_not_mem_lines (s : List Char) : ∀ line ∈ lines s, '\n' ∉ line := by
  induction s using rawLine_induction '\n' with
  | last s hs =>
    rw [lines_of_not_mem hs]
    split
    · simp
    · simpa using hs
  | line s t hs ih =>
    rw [lines_append_newline hs]
    intro line hline hn
    rcases List.mem_cons.1 hline with rfl | hline
    · exact hs (List.mem_reverse.1 (mem_of_mem_closeLine hn))
    · exact ih line hline hn

theorem closeLine_return (s : List Char) : closeLine (s ++ ['\r']).reverse = s := by
  rw [List.reverse_append, List.reverse_singleton, List.singleton_append, closeLine,
    List.reverse_reverse]

theorem closeLine_of_getLast?_ne (h : s.getLast? ≠ some '\r') : closeLine s.reverse = s := by
  unfold closeLine
  split
  · rename_i hs
    rw [List.reverse_eq_cons_iff] at hs
    simp [hs] at h
  · exact List.reverse_reverse s

/-! ## Lines that were written -/

/-- A line that can be written: nothing in it is taken for its end. -/
structure Line where
  text : String
  no_newline : '\n' ∉ text.toList
  no_return : text.toList.getLast? ≠ some '\r'

/-- What a line may be written with at its end. -/
inductive Ending where
  | lineFeed
  | returnAndLineFeed
  deriving DecidableEq, Repr

def Ending.chars : Ending → List Char
  | .lineFeed => ['\n']
  | .returnAndLineFeed => ['\r', '\n']

/-- A text by the lines that it was written from. The last line may go without an end if it is not
empty. -/
structure Written where
  ended : List (Line × Ending)
  unended : Option {line : Line // line.text ≠ ""}

namespace Written

def chars (w : Written) : List Char :=
  w.ended.flatMap (fun l => l.1.text.toList ++ l.2.chars) ++
    match w.unended with
    | some line => line.val.text.toList
    | none => []

def lines (w : Written) : List String :=
  w.ended.map (·.1.text) ++ w.unended.toList.map (·.val.text)

end Written

theorem lines_append_ending (line : Line) (ending : Ending) (t : List Char) :
    lines (line.text.toList ++ ending.chars ++ t) = line.text.toList :: lines t := by
  cases ending with
  | lineFeed =>
    rw [Ending.chars, List.append_assoc, List.singleton_append,
      lines_append_newline line.no_newline, closeLine_of_getLast?_ne line.no_return]
  | returnAndLineFeed =>
    have hline : '\n' ∉ line.text.toList ++ ['\r'] := by
      simp [line.no_newline]
    have hsplit : line.text.toList ++ ['\r', '\n'] ++ t =
        (line.text.toList ++ ['\r']) ++ '\n' :: t := by simp
    rw [Ending.chars, hsplit, lines_append_newline hline, closeLine_return]

/-- The lines of a text are those that it was written from. -/
theorem lines_written (w : Written) : (lines w.chars).map String.ofList = w.lines := by
  obtain ⟨ended, unended⟩ := w
  simp only [Written.chars, Written.lines]
  induction ended with
  | nil =>
    cases unended with
    | none => rfl
    | some line =>
      have hne : line.val.text.toList ≠ [] := by simpa using line.property
      simp [lines_of_not_mem line.val.no_newline, hne]
  | cons l ended ih =>
    rw [List.flatMap_cons, List.append_assoc, lines_append_ending, List.map_cons, ih,
      String.ofList_toList]
    rfl

end JobReport.Text
