import JobReport.Files.Tree
import JobReport.Proofs.LogFiles

/-!
# Logs in a tree of files

A path leads to the place that it spells or to none. What is written there is read there, what is
removed there is not, and what is read at other places stays the same. So a log in a tree grows by
the lines that are appended to it, and no other log changes.
-/

set_option autoImplicit false

namespace JobReport

namespace FileTree

variable {t : FileTree} {working place : Place} {path : Path} {bytes : Text.Bytes}

/-! ## Following paths -/

theorem walk_ok {names : List String} {p : Place} (h : t.walk place names = .ok p) :
    p = names.foldl step place := by
  induction names generalizing place with
  | nil => exact (Except.ok.inj h).symm
  | cons name names ih =>
    rw [walk] at h
    split_ifs at h
    exact ih h

theorem follow_ok (h : t.follow working path = .ok place) : place = spelled working path := by
  rw [follow] at h
  split_ifs at h
  exact walk_ok h

theorem read_ok_iff : t.read working path = .ok bytes ↔
    t.follow working path = .ok (spelled working path) ∧
      t.file? (spelled working path) = some bytes := by
  rw [read, except_bind_ok_iff]
  constructor
  · rintro ⟨p, hfollow, h⟩
    obtain rfl := follow_ok hfollow
    cases hfile : t.file? (spelled working path) with
    | none =>
      simp only [hfile] at h
      split_ifs at h
    | some found =>
      simp only [hfile] at h
      exact ⟨hfollow, congrArg some (Except.ok.inj h)⟩
  · rintro ⟨hfollow, hfile⟩
    exact ⟨_, hfollow, by simp only [hfile]⟩

/-- A tree with more directories leads on wherever the other one does. -/
theorem follow_mono {t' : FileTree}
    (hmore : ∀ p, t.isDirectory p = true → t'.isDirectory p = true)
    (h : t.follow working path = .ok place) : t'.follow working path = .ok place := by
  have hwalk : ∀ names origin, t.walk origin names = .ok place →
      t'.walk origin names = .ok place := by
    intro names
    induction names with
    | nil => exact fun _ h => h
    | cons name names ih =>
      intro origin h
      rw [walk] at h ⊢
      split_ifs at h with hdirectory hname
      rw [if_pos (hmore _ hdirectory), if_neg hname]
      exact ih _ h
  rw [follow] at h ⊢
  split_ifs at h ⊢
  exact hwalk _ _ h

/-! ## Writing and removing -/

theorem isDirectory_write {p : Place} (h : t.isDirectory p = true) :
    (t.write place bytes).isDirectory p = true := by
  simp only [isDirectory, Bool.or_eq_true, List.contains_iff_mem] at h ⊢
  exact h.imp_right (List.mem_append_right _)

theorem isDirectory_write_above {p : Place} (h : p <+: above place) :
    (t.write place bytes).isDirectory p = true := by
  simp only [isDirectory, Bool.or_eq_true, List.contains_iff_mem]
  refine .inr (List.mem_append_left _ (List.mem_map.2 ⟨p.length, ?_, ?_⟩))
  · exact List.mem_range.2 (Nat.lt_succ_of_le h.length_le)
  · exact (List.prefix_iff_eq_take.1 h).symm

theorem file?_write : (t.write place bytes).file? place = some bytes := by
  simp [write, file?]

theorem file?_remove : (t.remove place).file? place = none := by
  rw [file?, remove, List.lookup_eq_none_iff]
  intro file hfile
  have hne : file.1 ≠ place := of_decide_eq_true (List.mem_filter.1 hfile).2
  exact bne_iff_ne.2 hne.symm

theorem file?_remove_of_ne {p : Place} (h : p ≠ place) :
    (t.remove place).file? p = t.file? p := by
  rw [file?, file?, remove]
  induction t.files with
  | nil => rfl
  | cons file files ih =>
    by_cases hfile : file.1 = place
    · rw [List.filter_cons_of_neg (by simp [hfile]), List.lookup_cons, ih,
        beq_false_of_ne (hfile ▸ h)]
    · rw [List.filter_cons_of_pos (by simp [hfile]), List.lookup_cons, List.lookup_cons, ih]

theorem file?_write_of_ne {p : Place} (h : p ≠ place) :
    (t.write place bytes).file? p = t.file? p := by
  rw [file?, write, List.lookup_cons, beq_false_of_ne h]
  exact file?_remove_of_ne h

theorem read_append (h : t.read working path = .ok bytes) (more : Text.Bytes) :
    (t.append (spelled working path) more).read working path = .ok (bytes ++ more) := by
  obtain ⟨hfollow, hfile⟩ := read_ok_iff.1 h
  rw [append, hfile]
  exact read_ok_iff.2 ⟨follow_mono (fun _ => isDirectory_write) hfollow, file?_write⟩

theorem read_write_of_ne (h : t.read working path = .ok bytes) (hne : spelled working path ≠ place)
    (written : Text.Bytes) : (t.write place written).read working path = .ok bytes := by
  obtain ⟨hfollow, hfile⟩ := read_ok_iff.1 h
  exact read_ok_iff.2 ⟨follow_mono (fun _ => isDirectory_write) hfollow,
    (file?_write_of_ne hne).trans hfile⟩

theorem read_remove : (t.remove (spelled working path)).read working path ≠ .ok bytes := by
  intro h
  have hfile := (read_ok_iff.1 h).2
  rw [file?_remove] at hfile
  cases hfile

theorem read_remove_of_ne (h : t.read working path = .ok bytes)
    (hne : spelled working path ≠ place) : (t.remove place).read working path = .ok bytes := by
  obtain ⟨hfollow, hfile⟩ := read_ok_iff.1 h
  have hmore : ∀ p, t.isDirectory p = true → (t.remove place).isDirectory p = true := fun _ => id
  exact read_ok_iff.2 ⟨follow_mono hmore hfollow, (file?_remove_of_ne hne).trans hfile⟩

/-! ## Paths to new files -/

/-- Whether a path can be followed where directories stand on its way. -/
structure Plain (path : Path) : Prop where
  noNul : '\x00' ∉ path.text.toList
  short : path.text.utf8ByteSize ≤ pathLimit
  names : ∀ name ∈ path.parts, name.utf8ByteSize ≤ nameLimit ∧ name ≠ ".."
  last : ∀ name ∈ path.parts.getLast?, name ≠ "" ∧ name ≠ "."

theorem prefix_foldl_step {names : List String} (h : ∀ name ∈ names, name ≠ "..") :
    place <+: names.foldl step place := by
  induction names generalizing place with
  | nil => exact List.prefix_rfl
  | cons name names ih =>
    obtain ⟨hname, hnames⟩ := List.forall_mem_cons.1 h
    refine List.IsPrefix.trans ?_ (ih hnames)
    rw [step, if_neg hname]
    split
    · exact List.prefix_rfl
    · exact List.prefix_append ..

theorem walk_of_directories {names : List String}
    (h : ∀ front name back, names = front ++ name :: back →
      t.isDirectory (front.foldl step place) = true ∧ name.utf8ByteSize ≤ nameLimit) :
    t.walk place names = .ok (names.foldl step place) := by
  induction names generalizing place with
  | nil => rfl
  | cons name names ih =>
    obtain ⟨hdirectory, hname⟩ := h [] name names rfl
    rw [List.foldl_nil] at hdirectory
    rw [walk, if_pos hdirectory, if_neg (Nat.not_lt.2 hname)]
    exact ih fun front name' back hnames => h (name :: front) name' back (by rw [hnames]; rfl)

/-- All directories on the way of a path are made when a file is written there. -/
theorem follow_write_spelled (h : Plain path) :
    (t.write (spelled working path) bytes).follow working path = .ok (spelled working path) := by
  have hne : path.parts ≠ [] := by simp [Path.parts, Text.split_ne_nil]
  obtain ⟨front, last, hparts⟩ : ∃ front last, path.parts = front ++ [last] :=
    ⟨_, _, (List.dropLast_append_getLast hne).symm⟩
  obtain ⟨hempty, hdot⟩ := h.last last (by simp [hparts])
  have hup : ∀ name ∈ front ++ [last], name ≠ ".." := fun name hname =>
    (h.names name (hparts ▸ hname)).2
  obtain ⟨hfrontUp, hlastUp⟩ := List.forall_mem_append.1 hup
  have habove : above (spelled working path) = front.foldl step (start working path) := by
    simp [spelled, hparts, step, above, hempty, hdot, hlastUp last]
  have htext : path.text ≠ "" := fun htext => by
    have hlast : path.parts = [""] := by rw [Path.parts, htext]; rfl
    exact (h.last "" (by rw [hlast]; rfl)).1 rfl
  rw [follow, if_neg h.noNul, if_neg htext, if_neg (Nat.not_lt.2 h.short)]
  refine walk_of_directories fun before name back hsplit => ⟨?_, (h.names name ?_).1⟩
  · -- What stands before some name stands before the last one, so it leads to a place above.
    have hlength : before.length ≤ front.length := by
      have hlength := congrArg List.length (hparts.symm.trans hsplit)
      simp only [List.length_append, List.length_cons, List.length_nil] at hlength
      omega
    obtain ⟨between, rfl⟩ := List.prefix_of_prefix_length_le ⟨name :: back, hsplit.symm⟩
      ⟨[last], hparts.symm⟩ hlength
    apply isDirectory_write_above
    rw [habove, List.foldl_append]
    exact prefix_foldl_step (List.forall_mem_append.1 hfrontUp).2
  · simp [hsplit]

theorem read_write (h : Plain path) :
    (t.write (spelled working path) bytes).read working path = .ok bytes :=
  read_ok_iff.2 ⟨follow_write_spelled h, file?_write⟩

end FileTree

namespace LogStore

open FileTree

variable {t : FileTree} {working : Place} {context : LogContext} {path other : Path}
  {a b : Text.Bytes}

theorem finds_reader : Finds (t.reader working) context path a ↔
    t.read working (context.logs.root.join path) = .ok a := Iff.rfl

/-- A log whose last line has an end grows by the lines that are appended to it, and logs at other
places stay the same. -/
theorem files_append (hlog : Finds (t.reader working) context path a)
    (ha : a = [] ∨ a.getLast? = some 0x0A) :
    let place := spelled working (context.logs.root.join path)
    (files ((t.append place b).reader working) context path).run =
      .ok (Text.lastOf context.logs.tailLines.toNat (allLines a ++ allLines b)) ∧
    ∀ bytes, Finds (t.reader working) context other bytes →
      spelled working (context.logs.root.join other) ≠ place →
      (files ((t.append place b).reader working) context other).run =
        (files (t.reader working) context other).run := by
  refine ⟨?_, fun _ hother hne => ?_⟩
  · rw [files_of_finds (finds_reader.2 (read_append hlog b)), allLines_append ha]
  · rw [files_of_finds hother]
    exact files_of_finds (finds_reader.2 (read_write_of_ne hother hne _))

/-- A log that is written under a new path is there, with all directories on its way. -/
theorem files_write (h : Plain (context.logs.root.join path)) :
    (files ((t.write (spelled working (context.logs.root.join path)) a).reader working) context
      path).run = .ok (Text.lastOf context.logs.tailLines.toNat (allLines a)) :=
  files_of_finds (finds_reader.2 (read_write h))

/-- A log that is removed is not there any more, and logs at other places stay the same. -/
theorem files_remove :
    let place := spelled working (context.logs.root.join path)
    (∃ cause, (files ((t.remove place).reader working) context path).run =
      .error ⟨context.logs.root.join path, cause⟩) ∧
    ∀ bytes, Finds (t.reader working) context other bytes →
      spelled working (context.logs.root.join other) ≠ place →
      (files ((t.remove place).reader working) context other).run =
        (files (t.reader working) context other).run := by
  refine ⟨?_, fun _ hother hne => ?_⟩
  · cases hread : (t.remove (spelled working (context.logs.root.join path))).read working
      (context.logs.root.join path) with
    | ok bytes => exact absurd hread read_remove
    | error cause =>
      refine ⟨cause, ?_⟩
      rw [files, Id.run_bind, reader, hread]
      rfl
  · rw [files_of_finds hother]
    exact files_of_finds (finds_reader.2 (read_remove_of_ne hother hne))

end LogStore

end JobReport
