import JobReport.Proofs.Definitions

/-!
# What values refer to

A value that is not literal may name variables, and what these stand for is put into it. Nothing
else of the process or of the file has a part in what a line sets, so a line that does not refer to
a name is read in the same way whatever the name stands for.
-/

set_option autoImplicit false

namespace JobReport.EnvFile

/-- The names that the rest of a value refers to. -/
def namesFrom : Mode → List Char → List (List Char)
  | .name false name, [] => [name]
  | _, [] => []
  | .ended, c :: cs => if c = ' ' ∨ c = '\t' then namesFrom .ended cs else []
  | .escape quoted, c :: cs => if (unescape? c).isSome then namesFrom (.plain quoted) cs else []
  | .literal, c :: cs => if c = '\'' then namesFrom (.plain false) cs else namesFrom .literal cs
  | .name quoted name, c :: cs =>
    if Text.isAlphanumeric c then namesFrom (.name quoted (name ++ [c])) cs
    else if c = '\x7b' ∧ name = [] then namesFrom (.braced quoted []) cs
    else if c = '$' then name :: namesFrom (.name quoted []) cs
    else name :: namesFrom (.plain quoted) cs
  | .braced quoted name, c :: cs =>
    if c = '\x7d' then name :: namesFrom (.plain quoted) cs
    else namesFrom (.braced quoted (name ++ [c])) cs
  | .plain quoted, c :: cs =>
    if c = '$' then namesFrom (.name quoted []) cs
    else if c = '\\' then namesFrom (.escape quoted) cs
    else if c = '"' then namesFrom (.plain !quoted) cs
    else if !quoted ∧ c = '\'' then namesFrom .literal cs
    else if !quoted ∧ (c = ' ' ∨ c = '\t') then namesFrom .ended cs
    else namesFrom (.plain quoted) cs

/-- The names that the value of a line refers to. -/
def references (line : List Char) : List String :=
  match takeTarget (Text.dropBlanks (Text.dropTrailingBlanks line)) with
  | .ok (_, text) => (namesFrom (.plain false) text).map String.ofList
  | .error _ => []

example : references "A = \"$B-${C_D}\"'$E' # $F".toList = ["B", "C_D"] := by decide +kernel

/-- Whether a file has nothing to do with a name: none of its lines sets it or refers to it. -/
structure Ignores (name : String) (bytes : Text.Bytes) : Prop where
  unset : ∀ line, .ok line ∈ lines bytes → nameSet? line ≠ some name
  unnamed : ∀ line, .ok line ∈ lines bytes → name ∉ references line

theorem ignores_iff {name : String} {bytes : Text.Bytes} : Ignores name bytes ↔
    ∀ line ∈ (lines bytes).filterMap Except.toOption,
      nameSet? line ≠ some name ∧ name ∉ references line := by
  have hmem : ∀ line,
      line ∈ (lines bytes).filterMap Except.toOption ↔ .ok line ∈ lines bytes := by
    intro line
    rw [List.mem_filterMap]
    constructor
    · rintro ⟨read, hread, hline⟩
      rwa [except_ok_of_toOption hline] at hread
    · exact fun hline => ⟨_, hline, rfl⟩
  simp only [hmem]
  exact ⟨fun h line hline => ⟨h.unset line hline, h.unnamed line hline⟩,
    fun h => ⟨fun line hline => (h line hline).1, fun line hline => (h line hline).2⟩⟩

instance (name : String) (bytes : Text.Bytes) : Decidable (Ignores name bytes) :=
  decidable_of_iff _ ignores_iff.symm

section

variable {lookup lookup' : List Char → List Char} {mode : Mode} {text line : List Char}
  {env env' : Environment} {items items' : List Item} {name : String} {bytes : Text.Bytes}

/-- A value is decided by what the names stand for that it refers to. -/
theorem valueFrom_congr (h : ∀ n ∈ namesFrom mode text, lookup n = lookup' n) :
    valueFrom lookup mode text = valueFrom lookup' mode text := by
  induction text generalizing mode with
  | nil =>
    cases mode with
    | name quoted name =>
      cases quoted with
      | false => exact congrArg Except.ok (h name (List.mem_singleton.2 rfl))
      | true => rfl
    | plain quoted => cases quoted <;> rfl
    | escape quoted => cases quoted <;> rfl
    | literal | braced | ended => rfl
  | cons c cs ih =>
    cases mode with
    | plain quoted =>
      simp only [valueFrom, namesFrom] at h ⊢
      split_ifs at h ⊢ <;> rw [ih h]
    | escape quoted =>
      simp only [valueFrom, namesFrom] at h ⊢
      cases hc : unescape? c with
      | none => rfl
      | some d =>
        rw [hc, Option.isSome_some, if_pos rfl] at h
        simp only [ih h]
    | literal =>
      simp only [valueFrom, namesFrom] at h ⊢
      split_ifs at h ⊢ <;> rw [ih h]
    | name quoted name =>
      simp only [valueFrom, namesFrom] at h ⊢
      split_ifs at h ⊢
      · exact ih h
      · exact ih h
      · obtain ⟨hname, hrest⟩ := List.forall_mem_cons.1 h
        rw [ih hrest, hname]
      · obtain ⟨hname, hrest⟩ := List.forall_mem_cons.1 h
        rw [ih hrest, hname]
    | braced quoted name =>
      simp only [valueFrom, namesFrom] at h ⊢
      split_ifs at h ⊢
      · obtain ⟨hname, hrest⟩ := List.forall_mem_cons.1 h
        rw [ih hrest, hname]
      · exact ih h
    | ended =>
      simp only [valueFrom, namesFrom] at h ⊢
      split_ifs at h ⊢
      · exact ih h
      · rfl
      · rfl

theorem item?_congr (h : ∀ n, String.ofList n ∈ references line →
    EnvFile.lookup env items n = EnvFile.lookup env' items' n) :
    item? env items line = item? env' items' line := by
  simp only [item?, references] at h ⊢
  cases htarget : takeTarget (Text.dropBlanks (Text.dropTrailingBlanks line)) with
  | error rest => rfl
  | ok target =>
    obtain ⟨_, text⟩ := target
    rw [htarget] at h
    have hvalue : value (EnvFile.lookup env items) text =
        value (EnvFile.lookup env' items') text := by
      rw [value, value, valueFrom_congr fun n hn => h n (List.mem_map_of_mem hn)]
    simp only [Except.mapError]
    split
    · rfl
    · change (if isBare text then _ else value (EnvFile.lookup env items) text >>= _) = _
      rw [hvalue]
      rfl

theorem lookup_congr (h : ∀ n ≠ name, env' n = env n) {n : List Char}
    (hn : String.ofList n ≠ name) :
    EnvFile.lookup env' items n = EnvFile.lookup env items n := by
  rw [EnvFile.lookup, EnvFile.lookup, h _ hn]

/-- A file that has nothing to do with a name sets the same items whatever the process has for the
name. -/
theorem items_of_ignores (hbytes : Ignores name bytes) (h : ∀ n ≠ name, env' n = env n) :
    EnvFile.items env' bytes = EnvFile.items env bytes := by
  have hfrom : ∀ (ls : List (Except EnvFault (List Char))) (start : List Item),
      (∀ line, .ok line ∈ ls → name ∉ references line) →
      itemsFrom env' start ls = itemsFrom env start ls := by
    intro ls
    induction ls with
    | nil => exact fun _ _ => rfl
    | cons l ls ih =>
      intro start hls
      rw [itemsFrom_cons, itemsFrom_cons]
      cases l with
      | error e => rfl
      | ok line =>
        have hline : item? env' start line = item? env start line :=
          item?_congr fun n hn => lookup_congr h fun heq =>
            hls line List.mem_cons_self (heq ▸ hn)
        change (item? env' start line >>= _) = (item? env start line >>= _)
        rw [hline]
        exact bind_congr fun item => ih _ fun l hl => hls l (List.mem_cons_of_mem _ hl)
  exact hfrom _ _ hbytes.unnamed

theorem itemsFrom_unset {ls : List (Except EnvFault (List Char))} {start : List Item}
    (hls : ∀ line, .ok line ∈ ls → nameSet? line ≠ some name) (hstart : ∀ i ∈ start, i.1 ≠ name)
    (h : itemsFrom env start ls = .ok items) : ∀ i ∈ items, i.1 ≠ name := by
  induction ls generalizing start with
  | nil =>
    cases h
    exact hstart
  | cons l ls ih =>
    rw [itemsFrom_cons, except_bind_ok_iff] at h
    obtain ⟨item, hitem, h⟩ := h
    obtain ⟨line, rfl, hline⟩ := except_bind_ok_iff.1 hitem
    refine ih (fun l hl => hls l (List.mem_cons_of_mem _ hl)) ?_ h
    have hname := hls line List.mem_cons_self
    rw [← nameSet?_eq env start, hline] at hname
    intro i hi
    rcases List.mem_append.1 hi with hi | hi
    · exact hstart i hi
    · rw [Option.mem_toList] at hi
      intro heq
      apply hname
      rw [Option.mem_def.1 hi, ← heq]
      rfl

theorem ne_of_ignores (hbytes : Ignores name bytes) (h : EnvFile.items env bytes = .ok items) :
    ∀ i ∈ items, i.1 ≠ name :=
  itemsFrom_unset hbytes.unset (by simp) h

end

end JobReport.EnvFile
