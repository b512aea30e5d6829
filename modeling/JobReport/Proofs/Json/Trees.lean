import Mathlib.Data.List.Forall2
import JobReport.Proofs.Json.Depth
import JobReport.Proofs.Json.Numbers
import JobReport.Proofs.Json.Strings

/-!
# Trees are read as they are printed

In both layouts the elements of a list and the members of an object are read one after the other,
whatever reads them. A tree without floating-point numbers is read back by every reader that
allows its nesting.
-/

set_option autoImplicit false

namespace JobReport

namespace Json

def afterElement (layout : Layout) (depth : Nat) (xs : List Json) : List Char :=
  itemChars layout (depth + 1) xs ++ (layout.gap depth ++ [']'])

def listBody (layout : Layout) (depth : Nat) : List Json → List Char
  | [] => [']']
  | x :: xs =>
    layout.gap (depth + 1) ++ (x.chars layout (depth + 1) ++ afterElement layout depth xs)

theorem chars_arr (layout : Layout) (depth : Nat) (xs : List Json) :
    (arr xs).chars layout depth = '[' :: listBody layout depth xs := by
  cases xs with
  | nil => rfl
  | cons x xs => simp [chars, listBody, afterElement]

def memberBody (layout : Layout) (depth : Nat) (m : String × Json) : List Char :=
  stringTail m.1 ++ (layout.colon ++ m.2.chars layout depth)

def afterMember (layout : Layout) (depth : Nat) (ms : List (String × Json)) : List Char :=
  memberChars layout (depth + 1) ms ++ (layout.gap depth ++ ['\x7d'])

/-- What is left behind by members that are taken one after the other. -/
def Follows {α : Type} (step : α → String × Json → α → Prop) :
    α → List (String × Json) → α → Prop
  | before, [], last => before = last
  | before, m :: ms, last => ∃ after, step before m after ∧ Follows step after ms last

def objectBody (layout : Layout) (depth : Nat) : List (String × Json) → List Char
  | [] => ['\x7d']
  | m :: ms =>
    layout.gap (depth + 1) ++
      '"' :: (memberBody layout (depth + 1) m ++ afterMember layout depth ms)

theorem chars_obj (layout : Layout) (depth : Nat) (ms : List (String × Json)) :
    (obj ms).chars layout depth = '\x7b' :: objectBody layout depth ms := by
  cases ms with
  | nil => rfl
  | cons m ms => simp [chars, objectBody, memberBody, afterMember, stringChars_eq]

theorem afterElement_cons (layout : Layout) (depth : Nat) (x : Json) (xs : List Json) :
    afterElement layout depth (x :: xs) = ',' :: (layout.gap (depth + 1) ++
      (x.chars layout (depth + 1) ++ afterElement layout depth xs)) := by
  simp [afterElement, itemChars]

theorem afterMember_cons (layout : Layout) (depth : Nat) (m : String × Json)
    (ms : List (String × Json)) :
    afterMember layout depth (m :: ms) = ',' :: (layout.gap (depth + 1) ++
      '"' :: (memberBody layout (depth + 1) m ++ afterMember layout depth ms)) := by
  simp [afterMember, memberChars, memberBody, stringChars_eq]

end Json

namespace Scan

open Json

variable {α β : Type} {layout : Layout} {depth : Nat} {rest : List Char}

theorem ends_afterElement (layout : Layout) (depth : Nat) (xs : List Json) (rest : List Char) :
    Ends (afterElement layout depth xs ++ rest) := by
  cases xs with
  | nil =>
    rw [afterElement, itemChars, List.nil_append, List.append_assoc]
    exact ends_gap _ _ (ends_cons (by decide) (by decide) (by decide))
  | cons x xs =>
    rw [afterElement_cons]
    exact ends_comma

theorem ends_afterMember (layout : Layout) (depth : Nat) (ms : List (String × Json))
    (rest : List Char) : Ends (afterMember layout depth ms ++ rest) := by
  cases ms with
  | nil =>
    rw [afterMember, memberChars, List.nil_append, List.append_assoc]
    exact ends_gap _ _ (ends_cons (by decide) (by decide) (by decide))
  | cons m ms =>
    rw [afterMember_cons]
    exact ends_comma

/-- A value is read from the printed text of a tree, wherever the text stands. -/
def ReadsTree (value : Char → Scan α) (layout : Layout) (depth : Nat) (j : Json) (a : α) : Prop :=
  ∀ rest, Ends rest → Reads value (j.chars layout depth) a rest

section

variable {element : Char → Scan α}

theorem run_listFrom {js : List Json} {as : List α}
    (h : List.Forall₂ (ReadsTree element layout (depth + 1)) js as) (before : List α) :
    (listFrom element false before).run (afterElement layout depth js ++ rest) =
      .ok (before.reverse ++ as, rest) := by
  induction h generalizing before with
  | nil =>
    have hclose : skipSpace (afterElement layout depth [] ++ rest) = ']' :: rest := by
      rw [afterElement, itemChars, List.nil_append, List.append_assoc, skipSpace_gap]
      rfl
    apply loop_last hclose
    simp [listFrom.step]
  | cons hj _ ih =>
    rename_i j a js as _
    obtain ⟨c, cs, hchars, hstarts, hrun⟩ := hj _ (ends_afterElement layout depth js rest)
    have hnext : (next .value).run (layout.gap (depth + 1) ++
        c :: (cs ++ (afterElement layout depth js ++ rest))) =
          .ok (c, cs ++ (afterElement layout depth js ++ rest)) :=
      run_next (by rw [skipSpace_gap]; exact skipSpace_cons hstarts.1)
    have hstep : (listFrom.step element (false, before) ',').run (layout.gap (depth + 1) ++
        c :: (cs ++ (afterElement layout depth js ++ rest))) =
          .ok (.inl (false, a :: before), afterElement layout depth js ++ rest) := by
      simp [listFrom.step, hnext, hstarts.2.1, hrun]
    have hrest := ih (a :: before)
    rw [listFrom] at hrest
    rw [listFrom, afterElement_cons, hchars]
    simp only [List.cons_append, List.append_assoc]
    rw [loop_next (skipSpace_cons (by decide)) hstep, hrest]
    simp

theorem run_list {js : List Json} {as : List α}
    (h : List.Forall₂ (ReadsTree element layout (depth + 1)) js as) :
    (list element).run (listBody layout depth js ++ rest) = .ok (as, rest) := by
  cases h with
  | nil => exact loop_last (skipSpace_cons (by decide)) (by simp [listFrom.step])
  | cons hj hjs =>
    rename_i j a js as
    obtain ⟨c, cs, hchars, hstarts, hrun⟩ := hj _ (ends_afterElement layout depth js rest)
    have hfirst : skipSpace (listBody layout depth (j :: js) ++ rest) =
        c :: (cs ++ (afterElement layout depth js ++ rest)) := by
      rw [listBody, hchars, List.append_assoc, skipSpace_gap, List.append_assoc]
      exact skipSpace_cons hstarts.1
    have hstep : (listFrom.step element (true, []) c).run
        (cs ++ (afterElement layout depth js ++ rest)) =
          .ok (.inl (false, [a]), afterElement layout depth js ++ rest) := by
      simp [listFrom.step, hstarts.2.1, hrun]
    rw [list, listFrom, loop_next hfirst hstep]
    exact run_listFrom hjs [a]

end

section

variable {member : α → Scan α} {finish : α → Except Mismatch β}

/-- A member is read from its printed text, and leaves something behind. -/
def ReadsMember (member : α → Scan α) (layout : Layout) (depth : Nat) (before : α)
    (m : String × Json) (after : α) : Prop :=
  ∀ rest, Ends rest → (member before).run (memberBody layout depth m ++ rest) = .ok (after, rest)

theorem run_objectFrom {ms : List (String × Json)} {before last : α} {b : β}
    (h : Follows (ReadsMember member layout (depth + 1)) before ms last)
    (hb : finish last = .ok b) :
    (loop (object.step member finish) (fun _ => .object) (false, before)).run
      (afterMember layout depth ms ++ rest) = .ok (b, rest) := by
  induction ms generalizing before with
  | nil =>
    have hclose : skipSpace (afterMember layout depth [] ++ rest) = '\x7d' :: rest := by
      rw [afterMember, memberChars, List.nil_append, List.append_assoc, skipSpace_gap]
      rfl
    rw [Follows] at h
    apply loop_last hclose
    simp [object.step, h, hb, settle]
  | cons m ms ih =>
    obtain ⟨after, hrun, hms⟩ := h
    have hquote : (next .value).run (layout.gap (depth + 1) ++ '"' ::
        (memberBody layout (depth + 1) m ++ (afterMember layout depth ms ++ rest))) =
          .ok ('"', memberBody layout (depth + 1) m ++ (afterMember layout depth ms ++ rest)) :=
      run_next (by rw [skipSpace_gap]; exact skipSpace_cons (by decide))
    have hstep : (object.step member finish (false, before) ',').run
        (layout.gap (depth + 1) ++ '"' ::
          (memberBody layout (depth + 1) m ++ (afterMember layout depth ms ++ rest))) =
            .ok (.inl (false, after), afterMember layout depth ms ++ rest) := by
      simp [object.step, object.named, hquote, hrun _ (ends_afterMember layout depth ms rest)]
    rw [afterMember_cons]
    simp only [List.cons_append, List.append_assoc]
    rw [loop_next (skipSpace_cons (by decide)) hstep]
    exact ih hms

theorem run_object {ms : List (String × Json)} {start last : α} {b : β}
    (h : Follows (ReadsMember member layout (depth + 1)) start ms last) (hb : finish last = .ok b) :
    (object member finish start).run (objectBody layout depth ms ++ rest) = .ok (b, rest) := by
  cases ms with
  | nil =>
    rw [Follows] at h
    exact loop_last (skipSpace_cons (by decide)) (by simp [object.step, h, hb, settle])
  | cons m ms =>
    obtain ⟨after, hrun, hms⟩ := h
    have hquote : skipSpace (objectBody layout depth (m :: ms) ++ rest) =
        '"' :: (memberBody layout (depth + 1) m ++ (afterMember layout depth ms ++ rest)) := by
      rw [objectBody, List.append_assoc, skipSpace_gap, List.cons_append, List.append_assoc]
      exact skipSpace_cons (by decide)
    have hstep : (object.step member finish (true, start) '"').run
        (memberBody layout (depth + 1) m ++ (afterMember layout depth ms ++ rest)) =
          .ok (.inl (false, after), afterMember layout depth ms ++ rest) := by
      simp [object.step, object.named, hrun _ (ends_afterMember layout depth ms rest)]
    rw [object, loop_next hquote hstep]
    exact run_objectFrom hms hb

end

theorem run_colon_next {f : Char → Scan β} {c : Char} {s : List Char} (hc : Starts c) :
    (do colon; let d ← next .value; f d).run (layout.colon ++ c :: s) = (f c).run s := by
  obtain ⟨r, hcolon, hskip⟩ := run_colon (s := c :: s) layout
  have hnext : (next .value).run r = .ok (c, s) :=
    run_next (by rw [hskip]; exact skipSpace_cons hc.1)
  rw [run_bind, hcolon]
  simp only [run_bind, hnext]

theorem json_eq_scalar {c : Char} (hl : c ≠ '[') (ho : c ≠ '\x7b') (levels : Nat) :
    json levels c = scalar c := by
  cases levels with
  | zero => simp [json, hl, ho]
  | succ levels => simp [json, hl, ho]

theorem readsTree_int (levels : Nat) (n : WideInt) :
    ReadsTree (json levels) layout depth (.int n) (.int n) := by
  intro rest hrest
  obtain ⟨c, cs, hchars, hc, hrun⟩ := run_number n hrest
  have hquote : c ≠ '"' := startsNumber_ne hc (by decide)
  apply reads_of_run hchars (starts_of_startsNumber hc)
  rw [json_eq_scalar (startsNumber_ne hc (by decide)) (startsNumber_ne hc (by decide)), scalar,
    if_neg hquote]
  unfold StartsNumber at hc
  rw [if_pos hc]
  exact hrun

theorem readsTree_str (levels : Nat) (s : String) :
    ReadsTree (json levels) layout depth (.str s) (.str s) := by
  intro rest _
  apply reads_of_run (stringChars_eq s) (by decide)
  rw [json_eq_scalar (by decide) (by decide), scalar, if_pos rfl, run_bind, run_string]
  rfl

/-- A literal is read by its first character and the word after that. -/
theorem readsTree_word {c : Char} {cs : List Char} {j : Json} (levels : Nat)
    (hchars : j.chars layout depth = c :: cs) (hc : Starts c) (hl : c ≠ '[') (ho : c ≠ '\x7b')
    (hword : scalar c = (do word cs; pure j)) : ReadsTree (json levels) layout depth j j := by
  intro rest _
  apply reads_of_run hchars hc
  rw [json_eq_scalar hl ho, hword, run_bind, run_word]
  rfl

mutual

/-- A tree is read back by every reader that allows its nesting. -/
theorem readsTree_json (layout : Layout) : (j : Json) → j.FloatFree → (levels depth : Nat) →
    j.depth ≤ levels → ReadsTree (json levels) layout depth j j
  | .null, _, levels, _, _ =>
    readsTree_word levels rfl (by decide) (by decide) (by decide) rfl
  | .bool true, _, levels, _, _ =>
    readsTree_word levels rfl (by decide) (by decide) (by decide) rfl
  | .bool false, _, levels, _, _ =>
    readsTree_word levels rfl (by decide) (by decide) (by decide) rfl
  | .int n, _, levels, _, _ => readsTree_int levels n
  | .float _, h, _, _, _ => h.elim
  | .str s, _, levels, _, _ => readsTree_str levels s
  | .arr xs, h, 0, _, hlevels => absurd hlevels (Nat.not_succ_le_zero _)
  | .arr xs, h, levels + 1, depth, hlevels => by
    intro rest _
    have hlevels := Nat.le_of_succ_le_succ hlevels
    have hitems := readsTree_items layout xs h levels (depth + 1) hlevels
    apply reads_of_run (chars_arr layout depth xs) (by decide)
    rw [json, if_pos rfl, run_bind, run_list hitems]
    rfl
  | .obj ms, h, 0, _, hlevels => absurd hlevels (Nat.not_succ_le_zero _)
  | .obj ms, h, levels + 1, depth, hlevels => by
    intro rest _
    have hlevels := Nat.le_of_succ_le_succ hlevels
    have hmembers := follows_members layout ms h levels (depth + 1) hlevels []
    apply reads_of_run (chars_obj layout depth ms) (by decide)
    rw [json, if_neg (by decide), if_pos rfl]
    exact run_object hmembers (by simp)

theorem readsTree_items (layout : Layout) : (xs : List Json) → ItemsFloatFree xs →
    (levels depth : Nat) → itemsDepth xs ≤ levels →
    List.Forall₂ (ReadsTree (json levels) layout depth) xs xs
  | [], _, _, _, _ => .nil
  | x :: xs, h, levels, depth, hlevels => by
    obtain ⟨hlevel, hlevels⟩ := Nat.max_le.1 hlevels
    constructor
    · exact readsTree_json layout x h.1 levels depth hlevel
    · exact readsTree_items layout xs h.2 levels depth hlevels

theorem follows_members (layout : Layout) : (ms : List (String × Json)) → MembersFloatFree ms →
    (levels depth : Nat) → membersDepth ms ≤ levels → (before : List (String × Json)) →
    Follows (ReadsMember (member (json levels)) layout depth) before ms (ms.reverse ++ before)
  | [], _, _, _, _, _ => rfl
  | (name, x) :: ms, h, levels, depth, hlevels, before => by
    obtain ⟨hlevel, hlevels⟩ := Nat.max_le.1 hlevels
    have hx := readsTree_json layout x h.1 levels depth hlevel
    have hms := follows_members layout ms h.2 levels depth hlevels ((name, x) :: before)
    refine ⟨(name, x) :: before, ?_, by simpa using hms⟩
    intro rest hrest
    obtain ⟨c, cs, hchars, hc, hrun⟩ := hx rest hrest
    rw [memberBody, List.append_assoc, List.append_assoc, hchars, member, run_bind, run_string]
    simp only [List.cons_append]
    rw [run_colon_next hc, run_bind, hrun]
    rfl

end

/-- A reader without nesting reads a scalar. -/
theorem scalar_of_readsTree {j : Json} {a : Json} (h : ReadsTree (json 0) layout depth j a)
    (hrest : Ends rest) : ∃ c cs, j.chars layout depth = c :: cs ∧ Starts c ∧ c ≠ '[' ∧ c ≠ '\x7b' ∧
      (scalar c).run (cs ++ rest) = .ok (a, rest) := by
  obtain ⟨c, cs, hchars, hc, hrun⟩ := h rest hrest
  have hl : c ≠ '[' := by
    rintro rfl
    cases hrun
  have ho : c ≠ '\x7b' := by
    rintro rfl
    cases hrun
  rw [json_eq_scalar hl ho] at hrun
  exact ⟨c, cs, hchars, hc, hl, ho, hrun⟩

/-- Only null begins like null. -/
theorem ne_of_chars_eq_cons {j : Json} {c : Char} {cs : List Char} (hj : j.FloatFree)
    (hnull : j ≠ .null) (hchars : j.chars layout depth = c :: cs) : c ≠ 'n' := by
  rintro rfl
  have hyields : Yields (json j.depth 'n') (· = .null) := by
    rw [json_eq_scalar (by decide) (by decide)]
    exact yields_after fun _ => yields_pure rfl
  obtain ⟨d, ds, hchars', _, hrun⟩ :=
    readsTree_json layout j hj j.depth depth (Nat.le_refl _) [] ends_nil
  obtain ⟨rfl, rfl⟩ := List.cons.inj (hchars.symm.trans hchars')
  exact hnull (hyields.of_run hrun)

/-- A printed tree with blanks after it is a whole text. -/
theorem whole_of_readsTree {value : Char → Scan α} {j : Json} {a : α}
    (h : ReadsTree value layout 0 j a) (hends : Ends rest) (hblank : skipSpace rest = []) :
    whole value (String.ofList (j.chars layout 0 ++ rest)) = .ok a := by
  obtain ⟨c, cs, hchars, hc, hrun⟩ := h rest hends
  have hnext : (next .value).run (c :: (cs ++ rest)) = .ok (c, cs ++ rest) :=
    run_next (skipSpace_cons hc.1)
  rw [whole, String.toList_ofList, hchars]
  simp [whole.scan, hnext, hrun, run_peek, hblank]

end Scan

end JobReport
