import JobReport.Proofs.Layers
import JobReport.Proofs.Text.Lines

/-!
# Definitions taken out of environment files

A line that sets a name can be taken out of a file, with all raw lines that it was made of. The
other lines stay what they were, and so does what they set, as long as the process decides what the
name stands for where it is substituted.
-/

set_option autoImplicit false

namespace JobReport.EnvFile

/-- The name that a line sets. A line that cannot be read sets none. -/
def nameSet? (line : List Char) : Option String :=
  (item? (fun _ => none) [] line).toOption.join.map Prod.fst

/-- Whether a line is left when the definitions of a name are taken out; faults are. -/
def keeps (name : String) : Except EnvFault (List Char) → Bool
  | .ok line => nameSet? line ≠ some name
  | .error _ => true

/-- The raw lines that are left when those of lines that set a name are taken out. A line is whole
with the raw line that ends it; those before are held back as begun. -/
def keepFrom (name : String) (begun : List Text.Bytes) : List Text.Bytes → List Text.Bytes
  | [] => begun
  | raw :: rest =>
    match linesFrom [] .word (begun ++ [raw]) with
    | [.ok line] =>
      (if nameSet? line = some name then [] else begun ++ [raw]) ++ keepFrom name [] rest
    | _ => keepFrom name (begun ++ [raw]) rest

def without (name : String) (bytes : Text.Bytes) : Text.Bytes :=
  (keepFrom name [] (Text.cutAfter 0x0A bytes)).flatten

def others (name : String) (items : List Item) : List Item := items.filter (·.1 ≠ name)

/-- Whether one process has a name, with the text that the name stands for in another process, and
is like that one in all other names. -/
structure Fixes (name : String) (env env' : Environment) : Prop where
  off : ∀ n ≠ name, env' n = env n
  own : env name = some ((env' name).getD "")

/-! ## Lines of raw lines -/

section

variable {pending line : List Char} {inside : Inside} {raw : Text.Bytes}
  {raws rest begun : List Text.Bytes} {name : String}

/-- A raw line ends the reading, or it ends a line, or the line goes on after it. -/
theorem linesFrom_step (pending : List Char) (inside : Inside) (raw : Text.Bytes) :
    (∃ fault, ∀ rest, linesFrom pending inside (raw :: rest) = [.error fault]) ∨
    (∃ line, ∀ rest,
      linesFrom pending inside (raw :: rest) = .ok line :: linesFrom [] .word rest) ∨
    ∃ pending' inside', inside' ≠ .word ∧ ∀ rest,
      linesFrom pending inside (raw :: rest) = linesFrom pending' inside' rest := by
  simp only [linesFrom]
  cases Text.Utf8.decode? raw with
  | none => exact .inl ⟨_, fun _ => rfl⟩
  | some text =>
    by_cases hcomment : isComment (pending ++ text) = true
    · exact .inr (.inl ⟨[], fun _ => if_pos hcomment⟩)
    · simp only [hcomment]
      cases inside.scan text with
      | error before =>
        cases htake : Text.Utf8.takeSize? (Text.Utf8.size before) (pending ++ text) with
        | none =>
          left
          refine ⟨.line (String.ofList (pending ++ text)) (.uncut (Text.Utf8.size before)),
            fun _ => ?_⟩
          simp only [htake]
          rfl
        | some front =>
          refine .inr (.inl ⟨front, fun _ => ?_⟩)
          simp only [htake]
          rfl
      | ok next =>
        by_cases hnext : next = .word
        · subst hnext
          exact .inr (.inl ⟨_, fun _ => rfl⟩)
        · refine .inr (.inr ⟨pending ++ text, next, hnext, fun rest => ?_⟩)
          cases next <;> first | rfl | exact absurd rfl hnext

theorem linesFrom_eq_nil_iff :
    linesFrom pending inside raws = [] ↔ raws = [] ∧ inside = .word := by
  induction raws generalizing pending inside with
  | nil =>
    rw [linesFrom]
    split <;> simp_all
  | cons raw rest ih =>
    refine iff_of_false ?_ nofun
    obtain ⟨fault, h⟩ | ⟨line, h⟩ | ⟨pending', inside', hinside, h⟩ :=
      linesFrom_step pending inside raw
    · simp [h]
    · simp [h]
    · rw [h, ih]
      exact fun hnil => hinside hnil.2

/-- Raw lines that make one line make it before any others. -/
theorem linesFrom_append_of_line (h : linesFrom pending inside raws = [.ok line])
    (rest : List Text.Bytes) :
    linesFrom pending inside (raws ++ rest) = .ok line :: linesFrom [] .word rest := by
  induction raws generalizing pending inside with
  | nil =>
    rw [linesFrom] at h
    split at h <;> cases h
  | cons raw raws ih =>
    rw [List.cons_append]
    obtain ⟨fault, hstep⟩ | ⟨line', hstep⟩ | ⟨pending', inside', _, hstep⟩ :=
      linesFrom_step pending inside raw
    · rw [hstep] at h
      cases h
    · rw [hstep, List.cons.injEq, linesFrom_eq_nil_iff] at h
      obtain ⟨hline, rfl, _⟩ := h
      rw [← hline]
      exact hstep rest
    · rw [hstep] at h ⊢
      exact ih h

def Begun (pending : List Char) (inside : Inside) (raws : List Text.Bytes) : Prop :=
  ∀ line, .ok line ∉ linesFrom pending inside raws

theorem begun_nil : Begun [] .word [] := by simp [Begun, linesFrom]

theorem begun_append (h : Begun pending inside raws) (raw : Text.Bytes) :
    (∃ line, linesFrom pending inside (raws ++ [raw]) = [.ok line]) ∨
      Begun pending inside (raws ++ [raw]) := by
  induction raws generalizing pending inside with
  | nil =>
    obtain ⟨fault, hstep⟩ | ⟨line, hstep⟩ | ⟨pending', inside', hinside, hstep⟩ :=
      linesFrom_step pending inside raw
    · right
      simp [Begun, hstep]
    · left
      exact ⟨line, hstep []⟩
    · right
      simp [Begun, hstep, linesFrom, hinside]
  | cons first raws ih =>
    simp only [Begun, List.cons_append] at h ⊢
    obtain ⟨fault, hstep⟩ | ⟨line, hstep⟩ | ⟨pending', inside', _, hstep⟩ :=
      linesFrom_step pending inside first
    · right
      simp [hstep]
    · have hline := h line
      simp [hstep] at hline
    · simp only [hstep] at h ⊢
      exact ih h

theorem keepFrom_sublist (name : String) (begun raws : List Text.Bytes) :
    (keepFrom name begun raws).Sublist (begun ++ raws) := by
  induction raws generalizing begun with
  | nil => simp [keepFrom]
  | cons raw rest ih =>
    have hsplit : begun ++ raw :: rest = (begun ++ [raw]) ++ rest := by simp
    rw [keepFrom, hsplit]
    split
    · apply List.Sublist.append
      · split
        · exact List.nil_sublist _
        · exact List.Sublist.refl _
      · exact ih []
    · exact ih (begun ++ [raw])

/-- Taking out the raw lines that set a name takes out the lines, and no others. -/
theorem linesFrom_keepFrom (h : Begun [] .word begun) :
    linesFrom [] .word (keepFrom name begun raws) =
      (linesFrom [] .word (begun ++ raws)).filter (keeps name) := by
  -- The raw lines that are held back make no line, so none of them is taken out at the end.
  induction raws generalizing begun with
  | nil =>
    rw [keepFrom, List.append_nil, eq_comm, List.filter_eq_self]
    intro l hl
    cases l with
    | error e => rfl
    | ok line => exact absurd hl (h line)
  | cons raw rest ih =>
    have hsplit : begun ++ raw :: rest = (begun ++ [raw]) ++ rest := by simp
    rw [keepFrom, hsplit]
    split
    · rename_i line hline
      rw [linesFrom_append_of_line hline, List.filter_cons]
      by_cases hname : nameSet? line = some name
      · simpa [keeps, hname] using ih begun_nil
      · have hkeeps : keeps name (.ok line) = true := decide_eq_true hname
        rw [if_neg hname, if_pos hkeeps, linesFrom_append_of_line hline, ih begun_nil,
          List.nil_append]
    · rename_i hother
      rcases begun_append h raw with ⟨line, hline⟩ | hbegun
      · exact absurd hline (hother line)
      · exact ih hbegun

end

/-- The lines of a file without the definitions of a name are its other lines. -/
theorem lines_without (name : String) (bytes : Text.Bytes) :
    lines (without name bytes) = (lines bytes).filter (keeps name) := by
  have hsublist := keepFrom_sublist name [] (Text.cutAfter 0x0A bytes)
  rw [List.nil_append] at hsublist
  rw [lines, without, Text.cutAfter_flatten hsublist, linesFrom_keepFrom begun_nil]
  rfl

example : without "A" "A='x\ny'\nB='\nA=1'\n A = 2 # A\nC=3".toUTF8.data.toList =
    "B='\nA=1'\nC=3".toUTF8.data.toList := by decide +kernel

/-! ## Items of lines -/

section

variable (lookup lookup' : List Char → List Char) (env env' : Environment)
  (items items' : List Item)

/-- Whether a value can be read has nothing to do with what is substituted in it. -/
theorem valueFrom_map (mode : Mode) (text : List Char) :
    (valueFrom lookup mode text).map (fun _ => ()) =
      (valueFrom lookup' mode text).map fun _ => () := by
  induction text generalizing mode with
  | nil => rcases mode with ⟨_ | _⟩ | ⟨_ | _⟩ | _ | ⟨_ | _, _⟩ | _ | _ <;> rfl
  | cons c cs ih =>
    cases mode with
    | plain quoted =>
      simp only [valueFrom]
      split_ifs <;> simp only [except_map_map, ih]
    | escape quoted =>
      simp only [valueFrom]
      cases unescape? c with
      | none => rfl
      | some d => simp only [except_map_map, ih]
    | literal =>
      simp only [valueFrom]
      split_ifs <;> simp only [except_map_map, ih]
    | name quoted name =>
      simp only [valueFrom]
      split_ifs <;> simp only [except_map_map, ih]
    | braced quoted name =>
      simp only [valueFrom]
      split_ifs <;> simp only [except_map_map, ih]
    | ended =>
      simp only [valueFrom]
      split_ifs
      · exact ih .ended
      · rfl
      · rfl

theorem value_map (text : List Char) :
    (value lookup text).map (fun _ => ()) = (value lookup' text).map fun _ => () := by
  rw [value, value, except_mapError_map, except_mapError_map, valueFrom_map lookup lookup']

theorem item?_map (line : List Char) : (item? env items line).map (Option.map Prod.fst) =
    (item? env' items' line).map (Option.map Prod.fst) := by
  have hname : ∀ (name : String) (x : Except EnvFault (List Char)),
      (x >>= fun value => pure (some (name, String.ofList value))).map (Option.map Prod.fst) =
        (x.map fun _ => ()).map fun _ => some name := by
    intro name x
    cases x <;> rfl
  simp only [item?]
  split_ifs
  · rfl
  · generalize (takeTarget _).mapError _ = target
    cases target with
    | error e => rfl
    | ok target =>
      change Except.map _ (if _ then _ else _) = Except.map _ (if _ then _ else _)
      split_ifs
      · rfl
      · rw [hname, hname, value_map]

theorem nameSet?_eq (line : List Char) :
    (item? env items line).toOption.join.map Prod.fst = nameSet? line := by
  have hmap : ∀ x : Except EnvFault (Option Item),
      x.toOption.join.map Prod.fst = (x.map (Option.map Prod.fst)).toOption.join := by
    intro x
    cases x <;> rfl
  rw [nameSet?, hmap, hmap, item?_map]

end

section

variable {env env' : Environment} {items : List Item} {name other : String}

theorem item?_of_nameSet? {line : List Char} (h : nameSet? line = some name) :
    ∃ value, item? env items line = .ok (some (name, value)) := by
  rw [← nameSet?_eq env items] at h
  cases hitem : item? env items line with
  | error e => simp [hitem, Except.toOption] at h
  | ok item =>
    cases item with
    | none => simp [hitem, Except.toOption] at h
    | some item =>
      obtain ⟨_, value⟩ := item
      simp only [hitem, Except.toOption, Option.join_some, Option.map_some, Option.some.injEq] at h
      exact ⟨value, by rw [h]⟩

theorem last?_others (h : other ≠ name) : last? other (others name items) = last? other items := by
  rw [last?, last?, others, ← List.filter_reverse]
  induction items.reverse with
  | nil => rfl
  | cons item items ih =>
    obtain ⟨key, value⟩ := item
    by_cases hkey : key = name
    · have hother : (other == key) = false := beq_false_of_ne (hkey ▸ h)
      rw [List.filter_cons_of_neg (by simp [hkey]), List.lookup_cons, hother, ih]
    · rw [List.filter_cons_of_pos (by simp [hkey]), List.lookup_cons, List.lookup_cons, ih]

theorem last?_others_self : last? name (others name items) = none := by
  rw [last?_eq_none_iff]
  intro item hitem
  exact of_decide_eq_true (List.mem_filter.1 hitem).2

/-- Where a process has a name, the items of that name play no part in what is substituted. -/
theorem lookup_others (h : Fixes name env env') :
    lookup env' (others name items) = lookup env items := by
  funext n
  rw [lookup, lookup]
  by_cases hn : String.ofList n = name
  · rw [hn, last?_others_self, h.own, Option.or_none]
    rfl
  · rw [last?_others hn, h.off _ hn]

theorem others_append (before after : List Item) :
    others name (before ++ after) = others name before ++ others name after :=
  List.filter_append ..

theorem others_append_item {item : Option Item} (h : item.map Prod.fst ≠ some name) :
    others name (items ++ item.toList) = others name items ++ item.toList := by
  rw [others_append]
  cases item with
  | none => simp [others]
  | some item =>
    have hne : item.1 ≠ name := by simpa using h
    simp [others, hne]

theorem itemsFrom_others (h : Fixes name env env') (ls : List (Except EnvFault (List Char))) :
    itemsFrom env' (others name items) (ls.filter (keeps name)) =
      (itemsFrom env items ls).map (others name) := by
  induction ls generalizing items with
  | nil => rfl
  | cons l ls ih =>
    cases l with
    | error e => rfl
    | ok line =>
      rw [itemsFrom_cons]
      change _ = (item? env items line >>= _).map _
      by_cases hname : nameSet? line = some name
      · have hdrops : ¬ keeps name (.ok line) = true := fun h => of_decide_eq_true h hname
        obtain ⟨value, hitem⟩ := item?_of_nameSet? hname
        rw [List.filter_cons_of_neg hdrops, hitem]
        have hsame : others name items = others name (items ++ [(name, value)]) := by
          simp [others]
        rw [hsame]
        exact ih
      · have hkeeps : keeps name (.ok line) = true := decide_eq_true hname
        have hsame : item? env' (others name items) line = item? env items line := by
          simp only [item?, lookup_others h]
        rw [List.filter_cons_of_pos hkeeps, itemsFrom_cons]
        change item? env' (others name items) line >>= _ = _
        rw [hsame]
        cases hitem : item? env items line with
        | error e => rfl
        | ok item =>
          have hother : item.map Prod.fst ≠ some name := by
            rw [← nameSet?_eq env items, hitem] at hname
            exact hname
          change itemsFrom env' (others name items ++ item.toList) _ = _
          rw [← others_append_item hother]
          exact ih

/-- A file without the definitions of a name sets the items of other names, as they are set where
the process has the name. -/
theorem items_without (h : Fixes name env env') (bytes : Text.Bytes) :
    EnvFile.items env' (without name bytes) = (EnvFile.items env bytes).map (others name) := by
  rw [EnvFile.items, lines_without]
  change itemsFrom env' (others name []) _ = _
  rw [itemsFrom_others h]
  rfl

end

end JobReport.EnvFile
