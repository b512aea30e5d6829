import JobReport.Proofs.Record.Depths
import JobReport.Proofs.Record.Shapes

/-!
# Sorted records

A record may be shown with the members of its objects by increasing name. The names of its fields
being distinct, sorting only puts the members in another order, and their order does not matter to
who reads them.
-/

set_option autoImplicit false

namespace JobReport

namespace Json

variable {β : Type}

theorem putMember_perm {name : String} {value : β} {ms : List (String × β)}
    (h : name ∉ ms.map (·.1)) : (putMember name value ms).Perm ((name, value) :: ms) := by
  induction ms with
  | nil => exact .refl _
  | cons m ms ih =>
    obtain ⟨k, v⟩ := m
    obtain ⟨hne, h⟩ := not_or.1 (mt List.mem_cons.2 h)
    rw [putMember]
    rw [if_neg hne]
    split
    · exact .refl _
    · exact ((ih h).cons (k, v)).trans (.swap ..)

/-- Members of distinct names are all kept. -/
theorem orderedMembers_perm {ms before : List (String × Json)}
    (h : (ms.map (·.1) ++ before.map (·.1)).Nodup) :
    (orderedMembers ms before).Perm (ms.map (fun m => (m.1, m.2.ordered)) ++ before) := by
  induction ms generalizing before with
  | nil => exact .refl _
  | cons m ms ih =>
    obtain ⟨name, x⟩ := m
    have hname : name ∉ before.map (·.1) := fun hmem =>
      (List.nodup_cons.1 h).1 (List.mem_append_right _ hmem)
    have hput : (putMember name x.ordered before).Perm ((name, x.ordered) :: before) :=
      putMember_perm hname
    have hnames : (ms.map (·.1) ++ (putMember name x.ordered before).map (·.1)).Nodup := by
      rw [((hput.map (·.1)).append_left _).nodup_iff]
      exact List.perm_middle.nodup_iff.2 h
    rw [orderedMembers]
    exact (ih hnames).trans ((hput.append_left _).trans List.perm_middle)

theorem ordered_eq_null_iff {j : Json} : j.ordered = .null ↔ j = .null := by
  cases j <;> simp [ordered]

theorem ordered_of_depth_zero {j : Json} (h : j.depth = 0) : j.ordered = j := by
  cases j with
  | arr _ | obj _ => cases h
  | null | bool _ | int _ | float _ | str _ => rfl

theorem orderedItems_eq_map (xs : List Json) : orderedItems xs = xs.map ordered := by
  induction xs with
  | nil => rfl
  | cons x xs ih => rw [orderedItems, ih, List.map_cons]

end Json

namespace Fields

variable {ts : List Type} {fs : Fields ts} {row : Row ts} {ms ms' : List (String × Json)}

/-- In whichever order they are, members stand for the same row. -/
theorem Stands.perm (h : fs.Stands row ms) (hperm : ms.Perm ms') : fs.Stands row ms' := by
  induction fs generalizing ms ms' with
  | nil =>
    rw [Stands] at h ⊢
    rw [h] at hperm
    exact hperm.symm.eq_nil
  | cons f fs ih =>
    obtain ⟨a, row⟩ := row
    rcases h with ⟨before, j, after, rfl, hj, hrest⟩ | ⟨habsent, hrest⟩
    · -- The member of the first field is found where it was put, the others around it.
      have hmem : (f.name, j) ∈ ms' := hperm.mem_iff.1 (by simp)
      obtain ⟨before', after', rfl⟩ := List.append_of_mem hmem
      have hothers : (before ++ after).Perm (before' ++ after') :=
        ((List.perm_middle.symm.trans hperm).trans List.perm_middle).cons_inv
      exact .inl ⟨before', j, after', rfl, hj, ih hrest hothers⟩
    · exact .inr ⟨habsent, ih hrest hperm⟩

end Fields

namespace Codec

variable {α : Type} {c : Codec α} {b n : Nat}

/-- Whether a value is found again when its tree is sorted, which is nested no deeper than a
bound. -/
structure Sorts (c : Codec α) (b : Nat) (a : α) : Prop where
  stands : c.Stands (c.encode a).ordered a
  depth : (c.encode a).depth ≤ b

/-- Whether every value is found again when its tree is sorted, and none is written as null. -/
structure Sortable (c : Codec α) (b : Nat) : Prop where
  sorts : ∀ a, c.Sorts b a
  encode_ne : ∀ a, c.encode a ≠ .null

theorem Sortable.mono (h : c.Sortable b) (hb : b ≤ n) : c.Sortable n :=
  ⟨fun a => ⟨(h.sorts a).stands, Nat.le_trans (h.sorts a).depth hb⟩, h.encode_ne⟩

/-- Nothing is sorted in a scalar. -/
theorem Faithful.sortable (h : c.Faithful) (hdepth : ∀ a, (c.encode a).depth = 0) :
    c.Sortable b where
  sorts a :=
    { stands := by
        rw [Json.ordered_of_depth_zero (hdepth a)]
        exact (h.returns a).stands
      depth := by
        rw [hdepth a]
        exact Nat.zero_le b }
  encode_ne := h.encode_ne

theorem Sortable.bool : Codec.bool.Sortable b := Faithful.bool.sortable fun _ => rfl

theorem Sortable.string : Codec.string.Sortable b := Faithful.string.sortable fun _ => rfl

theorem Sortable.uuid : Codec.uuid.Sortable b := Faithful.uuid.sortable fun _ => rfl

theorem Sortable.int64 : Codec.int64.Sortable b := Faithful.int64.sortable fun _ => rfl

theorem Sortable.uint64 : Codec.uint64.Sortable b := Faithful.uint64.sortable fun _ => rfl

theorem Sortable.named [Named α] : (Codec.named α).Sortable b :=
  (Faithful.named α).sortable fun _ => rfl

theorem Sortable.option (h : c.Sortable b) (o : Option α) : c.option.Sorts b o := by
  cases o with
  | none => exact ⟨Returns.absent.stands, Nat.zero_le b⟩
  | some a =>
    have hnull : (c.encode a).ordered ≠ .null := fun heq =>
      h.encode_ne a (Json.ordered_eq_null_iff.1 heq)
    exact ⟨(h.sorts a).stands.present hnull, (h.sorts a).depth⟩

theorem Sortable.list (h : c.Sortable b) : c.list.Sortable (b + 1) where
  sorts as :=
    { stands := by
        change c.list.Stands (Json.arr (as.map c.encode)).ordered as
        rw [Json.ordered, Json.orderedItems_eq_map, List.map_map]
        apply Stands.list
        rw [List.forall₂_map_left_iff, List.forall₂_same]
        exact fun a _ => (h.sorts a).stands
      depth := by
        apply Json.depth_arr_le
        rw [Json.itemsDepth_le_iff, List.forall_mem_map]
        exact fun a _ => (h.sorts a).depth }
  encode_ne _ := nofun

end Codec

namespace Fields

variable {ts : List Type} {fs : Fields ts} {row : Row ts} {b : Nat}

/-- Whether the value of every field is found again when its tree is sorted. -/
def Sorts (b : Nat) : {ts : List Type} → Fields ts → Row ts → Prop
  | _, .nil, _ => True
  | _, .cons f fs, (a, row) => f.codec.Sorts b a ∧ fs.Sorts b row

theorem names_encode_sublist (fs : Fields ts) (row : Row ts) :
    ((fs.encode row).map (·.1)).Sublist fs.names := by
  induction fs with
  | nil => exact .slnil
  | cons f fs ih =>
    obtain ⟨a, row⟩ := row
    rw [encode, names]
    split
    · exact (ih row).cons f.name
    · exact (ih row).cons_cons f.name

theorem Sorts.rowWithin (h : fs.Sorts b row) : fs.RowWithin b row := by
  induction fs with
  | nil => trivial
  | cons f fs ih => exact ⟨h.1.depth, ih h.2⟩

theorem Sorts.stands (h : fs.Sorts b row) :
    fs.Stands row ((fs.encode row).map fun m => (m.1, m.2.ordered)) := by
  induction fs with
  | nil => rfl
  | cons f fs ih =>
    obtain ⟨a, row⟩ := row
    rw [encode]
    by_cases homits : f.omits a = true
    · rw [if_pos homits]
      exact .inr ⟨f.value?_of_omits a homits, ih h.2⟩
    · rw [if_neg homits]
      exact .inl ⟨[], _, _, rfl, h.1.stands, ih h.2⟩

theorem Sorts.stands_ordered (hnames : fs.names.Nodup) (h : fs.Sorts b row) :
    fs.Stands row (Json.orderedMembers (fs.encode row) []) := by
  have hdistinct : ((fs.encode row).map (·.1)).Nodup :=
    hnames.sublist (fs.names_encode_sublist row)
  have hperm : (Json.orderedMembers (fs.encode row) []).Perm
      ((fs.encode row).map (fun m => (m.1, m.2.ordered)) ++ []) :=
    Json.orderedMembers_perm (by simpa using hdistinct)
  rw [List.append_nil] at hperm
  exact h.stands.perm hperm.symm

end Fields

namespace Codec

variable {α : Type} {b : Nat}

theorem Sortable.record {shape : Shape α} (hnames : shape.fields.names.Nodup)
    (h : ∀ a, shape.fields.Sorts b (shape.unmake a)) : (Codec.record shape).Sortable (b + 1) where
  sorts a :=
    { stands := .record hnames ((h a).stands_ordered hnames)
      depth := Json.depth_obj_le (Fields.membersDepth_encode (h a).rowWithin) }
  encode_ne _ := nofun

/-- A value is read back from its sorted and indented text, which a line break ends. -/
theorem Sortable.parse_indented {c : Codec α} (h : c.Sortable b) (hb : b ≤ nestingLimit) (a : α) :
    c.parse ((c.encode a).ordered.indented ++ "\n") = .ok a := by
  have hdepth : (c.encode a).ordered.depth ≤ nestingLimit :=
    Nat.le_trans (Json.depth_ordered_le _) (Nat.le_trans (h.sorts a).depth hb)
  have hreads := (h.sorts a).stands.read nestingLimit .indented 0 hdepth
  have hends : Scan.Ends ['\n'] := Scan.ends_cons (by decide) (by decide) (by decide)
  rw [Json.indented, ← String.ofList_append]
  exact Scan.whole_of_readsTree hreads hends (by decide)

end Codec

end JobReport
