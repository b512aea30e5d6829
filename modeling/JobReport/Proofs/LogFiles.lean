import JobReport.Proofs.Text.Lines
import JobReport.Proofs.Text.Utf8
import JobReport.Proofs.Tails

/-!
# The lines of log files

The bytes of a log file are replaced where they are no text, and only then cut into lines. That
comes to the same as reading each raw line by itself: what is wrong with one line does not reach
beyond it, and what is added after a line feed changes no line before. Lines that were written are
given as they were.
-/

set_option autoImplicit false

namespace JobReport.LogStore

open Text

def allLines (bytes : Bytes) : List String := (lines (Utf8.decodeLossy bytes)).map String.ofList

variable {a b s t : Bytes}

/-- Whether a reader finds a file of these bytes at a path seen from the root of the logs. -/
def Finds (read : FileReader Id) (context : LogContext) (path : Path) (bytes : Bytes) : Prop :=
  (read (context.logs.root.join path)).run = .ok bytes

theorem files_of_finds {read : FileReader Id} {context : LogContext} {path : Path}
    (h : Finds read context path s) :
    (files read context path).run = .ok (lastOf context.logs.tailLines.toNat (allLines s)) := by
  rw [files, Id.run_bind, h]
  rfl

/-- All lines are given where the limit lets them. -/
theorem files_all {read : FileReader Id} {context : LogContext} {path : Path}
    (h : Finds read context path s) (hlimit : (allLines s).length ≤ context.logs.tailLines.toNat) :
    (files read context path).run = .ok (allLines s) := by
  rw [files_of_finds h, lastOf, Nat.sub_eq_zero_of_le hlimit, List.drop_zero]

theorem allLines_nil : allLines [] = [] := by
  rw [allLines, Utf8.decodeLossy_nil]
  rfl

theorem allLines_append_newline (s t : Bytes) :
    allLines (s ++ 0x0A :: t) = allLines (s ++ [0x0A]) ++ allLines t := by
  simp only [allLines, Utf8.decodeLossy_newline, Utf8.decodeLossy_nil]
  rw [lines_append, List.map_append]

/-- What follows a line feed has its lines after all others. -/
theorem allLines_append (ha : a = [] ∨ a.getLast? = some 0x0A) (b : Bytes) :
    allLines (a ++ b) = allLines a ++ allLines b := by
  rcases ha with rfl | ha
  · rw [allLines_nil, List.nil_append, List.nil_append]
  · obtain ⟨s, rfl⟩ := List.getLast?_eq_some_iff.1 ha
    rw [List.append_assoc, List.singleton_append, allLines_append_newline]

/-- Each line is that of its raw line alone. -/
theorem allLines_rawLines (bytes : Bytes) :
    List.Forall₂ (fun raw line => allLines raw = [line]) (cutAfter 0x0A bytes)
      (allLines bytes) := by
  induction bytes using rawLine_induction (0x0A : UInt8) with
  | last s hs =>
    have hlines := lines_of_not_mem (Utf8.newline_not_mem_decodeLossy hs)
    by_cases hnil : s = []
    · rw [hnil, allLines_nil]
      exact .nil
    · rw [if_neg (Utf8.decodeLossy_ne_nil hnil)] at hlines
      rw [cutAfter_of_not_mem hs, if_neg hnil, allLines, hlines]
      exact .cons (by rw [allLines, hlines]; rfl) .nil
  | line s t hs ih =>
    have hline := lines_append_newline (Utf8.newline_not_mem_decodeLossy hs) []
    rw [cutAfter_append hs, allLines_append_newline, allLines, Utf8.decodeLossy_newline,
      Utf8.decodeLossy_nil, hline]
    refine .cons ?_ ih
    rw [allLines, Utf8.decodeLossy_newline, Utf8.decodeLossy_nil, hline]
    rfl

theorem length_allLines (bytes : Bytes) : (allLines bytes).length =
    bytes.count 0x0A + if bytes = [] ∨ bytes.getLast? = some 0x0A then 0 else 1 := by
  rw [← (allLines_rawLines bytes).length_eq, length_cutAfter]

theorem newline_not_mem_allLines (bytes : Bytes) : ∀ line ∈ allLines bytes, '\n' ∉ line.toList := by
  intro line hline
  obtain ⟨chars, hchars, rfl⟩ := List.mem_map.1 hline
  rw [String.toList_ofList]
  exact newline_not_mem_lines _ chars hchars

/-- A log file is read raw line by raw line, whatever its bytes. What stands after a line feed has
its lines after those before it, and each raw line has its one line, with or without the others.
Of all these lines the last are given. -/
theorem files_line_by_line (read : FileReader Id) (context : LogContext) (path : Path)
    (ha : a = [] ∨ a.getLast? = some 0x0A)
    (hfile : Finds read context path (a ++ b)) :
    (files read context path).run =
      .ok (lastOf context.logs.tailLines.toNat (allLines a ++ allLines b)) ∧
    (∀ limit, lastOf limit (allLines a ++ allLines b) <:+ allLines a ++ allLines b ∧
      (lastOf limit (allLines a ++ allLines b)).length =
        min limit ((allLines a).length + (allLines b).length)) ∧
    allLines (a ++ b) = allLines a ++ allLines b ∧
    ∀ bytes,
      (∀ read context path, Finds read context path bytes →
        (allLines bytes).length ≤ context.logs.tailLines.toNat →
        (files read context path).run = .ok (allLines bytes)) ∧
      List.Forall₂ (fun raw line => allLines raw = [line]) (cutAfter 0x0A bytes) (allLines bytes) ∧
      (allLines bytes).length =
        bytes.count 0x0A + (if bytes = [] ∨ bytes.getLast? = some 0x0A then 0 else 1) ∧
      ∀ line ∈ allLines bytes, '\n' ∉ line.toList := by
  have happend := allLines_append ha b
  refine ⟨?_, fun limit => ⟨lastOf_suffix .., ?_⟩, happend, fun bytes => ⟨fun _ _ _ => files_all,
    allLines_rawLines bytes, length_allLines bytes, newline_not_mem_allLines bytes⟩⟩
  · rw [files_of_finds hfile, happend]
  · rw [length_lastOf, List.length_append]

def oneFile (path : Path) (bytes : Bytes) : FileReader Id := fun p =>
  if p = path then .ok bytes else .error .notFound

def showing (limit : UInt64) : LogContext := ⟨.docker, ⟨⟨"/logs"⟩, limit⟩, .ofList []⟩

/-- Two lines whose last characters are cut off, and a third whose first one is. -/
theorem files_line_by_line_broken :
    let a : Bytes := [0x6F, 0xE2, 0x82, 0x0A, 0xF0, 0x0A]
    let b : Bytes := [0x82, 0x6B]
    a.getLast? = some 0x0A ∧
    (files (oneFile ⟨"/logs/a.log"⟩ (a ++ b)) (showing 2) ⟨"a.log"⟩).run =
      .ok (lastOf 2 (allLines a ++ allLines b)) ∧
    lastOf 2 (allLines a ++ allLines b) = ["\uFFFD", "\uFFFDk"] := by
  intro a b
  have ha : a.getLast? = some 0x0A := rfl
  obtain ⟨hfiles, _⟩ :=
    files_line_by_line (oneFile ⟨"/logs/a.log"⟩ (a ++ b)) (showing 2) ⟨"a.log"⟩ (.inr ha) rfl
  exact ⟨ha, hfiles, by decide +kernel⟩

/-- Lines that were written to a log file, with whatever ends, are given as they were: the last of
them in their order, as many as the limit lets. -/
theorem files_written (read : FileReader Id) (context : LogContext) (path : Path) (w : Written)
    (hfile : Finds read context path (Utf8.encode w.chars)) :
    (files read context path).run = .ok (lastOf context.logs.tailLines.toNat w.lines) ∧
    lastOf context.logs.tailLines.toNat w.lines <:+ w.lines ∧
    (lastOf context.logs.tailLines.toNat w.lines).length =
      min context.logs.tailLines.toNat w.lines.length := by
  refine ⟨?_, lastOf_suffix .., length_lastOf ..⟩
  rw [files_of_finds hfile, allLines, Utf8.decodeLossy_encode, lines_written]

/-- An empty line, a line with a carriage return inside and a line without an end. -/
def threeWritten : Written where
  ended := [(⟨"", by decide, by decide⟩, .returnAndLineFeed),
    (⟨"a\rb", by decide, by decide⟩, .lineFeed)]
  unended := some ⟨⟨"é", by decide, by decide⟩, by decide⟩

theorem files_written_three :
    (oneFile ⟨"/logs/a.log"⟩ (Utf8.encode threeWritten.chars) ⟨"/logs/a.log"⟩).run =
      .ok [0x0D, 0x0A, 0x61, 0x0D, 0x62, 0x0A, 0xC3, 0xA9] ∧
    threeWritten.lines = ["", "a\rb", "é"] ∧
    (files (oneFile ⟨"/logs/a.log"⟩ (Utf8.encode threeWritten.chars)) (showing 2) ⟨"a.log"⟩).run =
      .ok ["a\rb", "é"] := by
  obtain ⟨hfiles, _⟩ := files_written (oneFile ⟨"/logs/a.log"⟩ (Utf8.encode threeWritten.chars))
    (showing 2) ⟨"a.log"⟩ threeWritten rfl
  exact ⟨by decide +kernel, rfl, hfiles⟩

end JobReport.LogStore
