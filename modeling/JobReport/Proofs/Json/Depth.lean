import JobReport.Proofs.Json.Yields

/-!
# How deep trees are nested

A tree that was read is nested no deeper than its reader allowed, and making it a document nests
it no deeper. A tree without floating-point numbers is one that its text determines.
-/

set_option autoImplicit false

namespace JobReport

namespace Json

mutual

/-- How deep the lists and objects of a tree are nested. -/
def depth : Json → Nat
  | .arr xs => itemsDepth xs + 1
  | .obj ms => membersDepth ms + 1
  | _ => 0

def itemsDepth : List Json → Nat
  | [] => 0
  | x :: xs => max x.depth (itemsDepth xs)

def membersDepth : List (String × Json) → Nat
  | [] => 0
  | (_, x) :: ms => max x.depth (membersDepth ms)

end

mutual

/-- Whether a tree has no floating-point number. -/
def FloatFree : Json → Prop
  | .float _ => False
  | .arr xs => ItemsFloatFree xs
  | .obj ms => MembersFloatFree ms
  | _ => True

def ItemsFloatFree : List Json → Prop
  | [] => True
  | x :: xs => x.FloatFree ∧ ItemsFloatFree xs

def MembersFloatFree : List (String × Json) → Prop
  | [] => True
  | (_, x) :: ms => x.FloatFree ∧ MembersFloatFree ms

end

theorem itemsFloatFree_iff (xs : List Json) : ItemsFloatFree xs ↔ ∀ x ∈ xs, x.FloatFree := by
  induction xs with
  | nil => simp [ItemsFloatFree]
  | cons x xs ih => simp [ItemsFloatFree, ih]

theorem membersFloatFree_iff (ms : List (String × Json)) :
    MembersFloatFree ms ↔ ∀ m ∈ ms, m.2.FloatFree := by
  induction ms with
  | nil => simp [MembersFloatFree]
  | cons m ms ih => simp only [MembersFloatFree, ih, List.forall_mem_cons]

theorem itemsDepth_le_iff {xs : List Json} {n : Nat} :
    itemsDepth xs ≤ n ↔ ∀ x ∈ xs, x.depth ≤ n := by
  induction xs with
  | nil => simp [itemsDepth]
  | cons x xs ih => simp only [itemsDepth, Nat.max_le, ih, List.forall_mem_cons]

theorem membersDepth_le_iff {ms : List (String × Json)} {n : Nat} :
    membersDepth ms ≤ n ↔ ∀ m ∈ ms, m.2.depth ≤ n := by
  induction ms with
  | nil => simp [membersDepth]
  | cons m ms ih => simp only [membersDepth, Nat.max_le, ih, List.forall_mem_cons]

theorem depth_arr_le {xs : List Json} {n : Nat} (h : itemsDepth xs ≤ n) : (arr xs).depth ≤ n + 1 :=
  Nat.succ_le_succ h

theorem depth_obj_le {ms : List (String × Json)} {n : Nat} (h : membersDepth ms ≤ n) :
    (obj ms).depth ≤ n + 1 :=
  Nat.succ_le_succ h

theorem membersDepth_putMember_le (name : String) (x : Json) (ms : List (String × Json)) :
    membersDepth (putMember name x ms) ≤ max x.depth (membersDepth ms) := by
  rw [membersDepth_le_iff]
  intro m hm
  rcases fst_mem_putMember hm with rfl | hm
  · exact Nat.le_max_left _ _
  · exact Nat.le_trans (membersDepth_le_iff.1 (Nat.le_refl _) m hm) (Nat.le_max_right _ _)

mutual

theorem depth_ordered_le : (j : Json) → j.ordered.depth ≤ j.depth
  | .null => Nat.le_refl _
  | .bool _ => Nat.le_refl _
  | .int _ => Nat.le_refl _
  | .float _ => Nat.le_refl _
  | .str _ => Nat.le_refl _
  | .arr xs => by
    have h := itemsDepth_ordered_le xs
    simpa [ordered, depth] using h
  | .obj ms => by
    have h := membersDepth_ordered_le ms []
    simpa [ordered, depth, membersDepth] using h

theorem itemsDepth_ordered_le : (xs : List Json) → itemsDepth (orderedItems xs) ≤ itemsDepth xs
  | [] => Nat.le_refl _
  | x :: xs => by
    have hx := depth_ordered_le x
    have hxs := itemsDepth_ordered_le xs
    simp only [orderedItems, itemsDepth]
    omega

theorem membersDepth_ordered_le : (ms before : List (String × Json)) →
    membersDepth (orderedMembers ms before) ≤ max (membersDepth ms) (membersDepth before)
  | [], before => by simp [orderedMembers, membersDepth]
  | (name, x) :: ms, before => by
    have hx := depth_ordered_le x
    have hput := membersDepth_putMember_le name x.ordered before
    have hms := membersDepth_ordered_le ms (putMember name x.ordered before)
    simp only [orderedMembers, membersDepth]
    omega

end

/-- A member whose name comes after all others is put at the end. -/
theorem putMember_last {name : String} {x : Json} {ms : List (String × Json)}
    (h : ∀ m ∈ ms, m.1 < name) : putMember name x ms = ms ++ [(name, x)] := by
  induction ms with
  | nil => rfl
  | cons m ms ih =>
    obtain ⟨k, v⟩ := m
    have hk : k < name := h (k, v) (by simp)
    have hlt : ¬ name < k := fun h' => String.lt_irrefl _ (String.lt_trans hk h')
    have hne : name ≠ k := by
      rintro rfl
      exact hlt hk
    rw [putMember, if_neg hlt, if_neg hne, ih fun m hm => h m (by simp [hm])]
    rfl

mutual

/-- A document is made into itself. -/
theorem ordered_eq_self : (j : Json) → j.Ordered → j.ordered = j
  | .null, _ => rfl
  | .bool _, _ => rfl
  | .int _, _ => rfl
  | .float _, _ => rfl
  | .str _, _ => rfl
  | .arr xs, h => by rw [ordered, orderedItems_eq_self xs h]
  | .obj ms, h => by
    rw [ordered, orderedMembers_eq_append ms [] h.2 (by simpa using h.1)]
    rfl

theorem orderedItems_eq_self : (xs : List Json) → ItemsOrdered xs → orderedItems xs = xs
  | [], _ => rfl
  | x :: xs, h => by rw [orderedItems, ordered_eq_self x h.1, orderedItems_eq_self xs h.2]

theorem orderedMembers_eq_append : (ms before : List (String × Json)) → MembersOrdered ms →
    Increasing (before ++ ms) → orderedMembers ms before = before ++ ms
  | [], before, _, _ => by simp [orderedMembers]
  | (name, x) :: ms, before, h, hinc => by
    have hlast : ∀ m ∈ before, m.1 < name := fun m hm =>
      (List.pairwise_append.1 hinc).2.2 m hm (name, x) (by simp)
    rw [orderedMembers, ordered_eq_self x h.1, putMember_last hlast,
      orderedMembers_eq_append ms _ h.2 (by simpa using hinc)]
    simp

end

end Json

theorem Document.ofJson_json (d : Document) : Document.ofJson d.json = d := by
  obtain ⟨j, h⟩ := d
  simp [Document.ofJson, Json.ordered_eq_self j h]

theorem Numeral.depth_of_value {n : Numeral} {j : Json} (h : n.value = .ok j) : j.depth = 0 := by
  have hfloat : ∀ {negative significand places} {j : Json},
      float negative significand places = .ok j → j.depth = 0 := by
    intro negative significand places j h
    unfold float at h
    split at h
    · cases h
      rfl
    · cases h
  have hinteger : ∀ {negative significand} {j : Json},
      integer negative significand = .ok j → j.depth = 0 := by
    intro negative significand j h
    unfold integer at h
    split at h
    · cases h
      rfl
    · exact hfloat h
  simp only [value] at h
  split at h
  · exact hinteger h
  · split at h
    · exact hfloat h
    · split at h
      · exact hfloat h
      · split at h
        · cases h
        · cases h
          rfl

namespace Scan

open Json

theorem yields_number (c : Char) : Yields (number c) fun j => j.depth = 0 := by
  apply yields_after
  intro n
  cases hn : n.value with
  | ok j => exact yields_pure (Numeral.depth_of_value hn)
  | error what => exact yields_malformed what

theorem yields_scalar (c : Char) : Yields (scalar c) fun j => j.depth = 0 := by
  apply yields_ite
  · intro _
    exact yields_after fun s => yields_pure rfl
  intro _
  apply yields_ite
  · intro _
    exact yields_number c
  intro _
  apply yields_ite
  · intro _
    exact yields_after fun _ => yields_pure rfl
  intro _
  apply yields_ite
  · intro _
    exact yields_after fun _ => yields_pure rfl
  · intro _
    exact yields_ite (fun _ => yields_after fun _ => yields_pure rfl) fun _ => yields_malformed _

theorem yields_member {value : Char → Scan Json} {levels : Nat}
    (h : ∀ c, Yields (value c) fun j => j.depth ≤ levels) (before : List (String × Json))
    (hbefore : membersDepth before ≤ levels) :
    Yields (member value before) fun ms => membersDepth ms ≤ levels := by
  apply yields_after
  intro name
  apply yields_after
  intro _
  apply yields_after
  intro c
  apply yields_bind (h c)
  intro j hj
  exact yields_pure (Nat.max_le.2 ⟨hj, hbefore⟩)

/-- A tree is nested no deeper than its reader allows. -/
theorem yields_json (levels : Nat) (c : Char) :
    Yields (json levels c) fun j => j.depth ≤ levels := by
  induction levels generalizing c with
  | zero =>
    apply yields_ite
    · intro _
      exact yields_malformed _
    · intro _
      exact (yields_scalar c).mono fun j hj => Nat.le_of_eq hj
  | succ levels ih =>
    apply yields_ite
    · intro _
      apply yields_bind (yields_list ih)
      intro items hitems
      exact yields_pure (depth_arr_le (itemsDepth_le_iff.2 hitems))
    intro _
    apply yields_ite
    · intro _
      have hstart : membersDepth [] ≤ levels := Nat.zero_le _
      apply yields_object (yields_member ih) _ hstart
      intro before j hbefore hj
      cases hj
      apply depth_obj_le
      apply membersDepth_le_iff.2
      intro m hm
      exact membersDepth_le_iff.1 hbefore m (List.mem_reverse.1 hm)
    · intro _
      exact (yields_scalar c).mono fun j hj => by omega

end Scan

end JobReport
