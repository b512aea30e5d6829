import Mathlib.Data.List.Forall2

/-!
# Traversals that end at the first error

A list is worked through element by element until one of them fails. Nothing is said here of what
the elements are.
-/

set_option autoImplicit false

namespace JobReport

variable {α β γ ε σ : Type}

theorem except_bind_ok_iff {x : Except ε α} {f : α → Except ε β} {b : β} :
    (x >>= f) = .ok b ↔ ∃ a, x = .ok a ∧ f a = .ok b := by
  cases x with
  | error e =>
    constructor
    · rintro ⟨⟩
    · rintro ⟨a, ⟨⟩, _⟩
  | ok a =>
    constructor
    · intro h
      exact ⟨a, rfl, h⟩
    · rintro ⟨a, ⟨⟩, h⟩
      exact h

theorem except_ok_of_toOption {x : Except ε α} {a : α} (h : x.toOption = some a) : x = .ok a := by
  cases x with
  | error e => cases h
  | ok b => exact congrArg Except.ok (Option.some.inj h)

theorem except_map_ok_iff {x : Except ε α} {f : α → β} {b : β} :
    x.map f = .ok b ↔ ∃ a, x = .ok a ∧ f a = b := by
  cases x with
  | error e => simp [Except.map]
  | ok a => simp [Except.map]

theorem except_map_error_iff {x : Except ε α} {f : α → β} {e : ε} :
    x.map f = .error e ↔ x = .error e := by
  cases x with
  | error e' => simp [Except.map]
  | ok a => simp [Except.map]

theorem run_bind (x : ExceptT ε Id α) (f : α → ExceptT ε Id β) :
    (x >>= f).run.run = x.run.run >>= fun a => (f a).run.run := by
  rw [ExceptT.run_bind, Id.run_bind]
  cases x.run.run with
  | error e => rfl
  | ok a => rfl

theorem run_bind_ok_iff {x : ExceptT ε Id α} {f : α → ExceptT ε Id β} {b : β} :
    (x >>= f).run.run = .ok b ↔ ∃ a, x.run.run = .ok a ∧ (f a).run.run = .ok b := by
  rw [run_bind, except_bind_ok_iff]

theorem except_bind_error_iff {x : Except ε α} {f : α → Except ε β} {e : ε} :
    (x >>= f) = .error e ↔ x = .error e ∨ ∃ a, x = .ok a ∧ f a = .error e := by
  cases x with
  | error e' =>
    constructor
    · rintro ⟨⟩
      exact .inl rfl
    · rintro (⟨⟨⟩⟩ | ⟨a, ⟨⟩, _⟩)
      rfl
  | ok a =>
    constructor
    · intro h
      exact .inr ⟨a, rfl, h⟩
    · rintro (⟨⟨⟩⟩ | ⟨a, ⟨⟩, h⟩)
      exact h

theorem except_mapError_ok_iff {x : Except ε α} {f : ε → σ} {a : α} :
    x.mapError f = .ok a ↔ x = .ok a := by
  cases x <;> simp [Except.mapError]

theorem except_mapError_error_iff {x : Except ε α} {f : ε → σ} {e : σ} :
    x.mapError f = .error e ↔ ∃ cause, x = .error cause ∧ f cause = e := by
  cases x <;> simp [Except.mapError]

theorem except_map_map (f : α → β) (g : β → γ) (x : Except ε α) :
    (x.map f).map g = x.map fun a => g (f a) := by
  cases x <;> rfl

theorem except_mapError_map (f : ε → σ) (g : α → β) (x : Except ε α) :
    (x.mapError f).map g = (x.map g).mapError f := by
  cases x <;> rfl

/-- What follows a step matters only for what the step results in. -/
theorem except_bind_congr {x : Except ε α} {f g : α → Except ε β}
    (h : ∀ a, x = .ok a → f a = g a) : (x >>= f) = x >>= g := by
  cases x with
  | error e => rfl
  | ok a => exact h a rfl

theorem except_map_bind (f : α → β) (g : β → Except ε γ) (x : Except ε α) :
    (x.map f >>= g) = x >>= fun a => g (f a) := by
  cases x <;> rfl

theorem list_mapM_ok_iff {f : α → Except ε β} {as : List α} {bs : List β} :
    as.mapM f = .ok bs ↔ List.Forall₂ (fun a b => f a = .ok b) as bs := by
  induction as generalizing bs with
  | nil =>
    rw [List.mapM_nil, List.forall₂_nil_left_iff]
    constructor
    · rintro ⟨⟩
      rfl
    · rintro rfl
      rfl
  | cons a as ih =>
    rw [List.mapM_cons, List.forall₂_cons_left_iff]
    constructor
    · intro h
      cases ha : f a with
      | error e => rw [ha] at h; cases h
      | ok b =>
        cases has : as.mapM f with
        | error e => rw [ha, has] at h; cases h
        | ok bs' =>
          rw [ha, has] at h
          cases h
          exact ⟨b, bs', rfl, ih.1 has, rfl⟩
    · rintro ⟨b, bs', ha, has, rfl⟩
      rw [ha, ih.2 has]
      rfl

theorem list_mapM_ok {f : α → Except ε β} {as : List α} (h : ∀ a ∈ as, ∃ b, f a = .ok b) :
    ∃ bs, as.mapM f = .ok bs := by
  induction as with
  | nil => exact ⟨[], rfl⟩
  | cons a as ih =>
    obtain ⟨b, hb⟩ := h a (by simp)
    obtain ⟨bs, hbs⟩ := ih fun x hx => h x (by simp [hx])
    refine ⟨b :: bs, ?_⟩
    rw [List.mapM_cons, hb, hbs]
    rfl

theorem list_mapM_mem {f : α → Except ε β} {as : List α} {bs : List β} (h : as.mapM f = .ok bs) :
    ∀ a ∈ as, ∃ b, f a = .ok b := by
  have hall := list_mapM_ok_iff.1 h
  clear h
  induction hall with
  | nil => simp
  | cons ha _ ih =>
    intro x hx
    rcases List.mem_cons.1 hx with rfl | hx
    · exact ⟨_, ha⟩
    · exact ih x hx

/-- What the results of each element have to do with one another holds of two traversals, in
order. -/
theorem list_mapM_forall₂ {f : α → Except ε β} {g : α → Except ε γ} {R : β → γ → Prop}
    (h : ∀ a b c, f a = .ok b → g a = .ok c → R b c) {as : List α} {bs : List β} {cs : List γ}
    (hf : as.mapM f = .ok bs) (hg : as.mapM g = .ok cs) : List.Forall₂ R bs cs := by
  rw [list_mapM_ok_iff] at hf hg
  induction hf generalizing cs with
  | nil =>
    cases hg
    exact .nil
  | cons hb _ ih =>
    cases hg with
    | cons hc hg => exact .cons (h _ _ _ hb hc) (ih hg)

theorem list_mapM_error {f : α → Except ε β} {before : List α} {a : α} {after : List α} {e : ε}
    (hb : ∀ x ∈ before, ∃ b, f x = .ok b) (ha : f a = .error e) :
    (before ++ a :: after).mapM f = .error e := by
  obtain ⟨bs, hbs⟩ := list_mapM_ok hb
  rw [List.mapM_append, hbs, List.mapM_cons, ha]
  rfl

/-- A traversal fails with the error of the first element that fails. -/
theorem list_mapM_error_iff {f : α → Except ε β} {as : List α} {e : ε} :
    as.mapM f = .error e ↔ ∃ before a after, as = before ++ a :: after ∧
      (∀ x ∈ before, ∃ b, f x = .ok b) ∧ f a = .error e := by
  constructor
  · intro h
    induction as with
    | nil => cases h
    | cons a as ih =>
      rw [List.mapM_cons] at h
      cases ha : f a with
      | error e' =>
        rw [ha] at h
        cases h
        exact ⟨[], a, as, rfl, nofun, ha⟩
      | ok b =>
        cases has : as.mapM f with
        | ok bs => rw [ha, has] at h; cases h
        | error e' =>
          rw [ha, has] at h
          cases h
          obtain ⟨before, x, after, rfl, hbefore, hx⟩ := ih has
          refine ⟨a :: before, x, after, rfl, ?_, hx⟩
          intro y hy
          rcases List.mem_cons.1 hy with rfl | hy
          · exact ⟨b, ha⟩
          · exact hbefore y hy
  · rintro ⟨before, a, after, rfl, hbefore, ha⟩
    exact list_mapM_error hbefore ha

theorem list_mapM_map (f : α → Except ε β) (g : β → γ) (as : List α) :
    as.mapM (fun a => (f a).map g) = (as.mapM f).map (List.map g) := by
  induction as with
  | nil => rfl
  | cons a as ih =>
    rw [List.mapM_cons, List.mapM_cons, ih]
    cases f a with
    | error e => rfl
    | ok b =>
      cases as.mapM f with
      | error e => rfl
      | ok bs => rfl

theorem option_mapM_ok {f : α → Except ε β} (h : ∀ a, ∃ b, f a = .ok b) (o : Option α) :
    ∃ p, o.mapM f = .ok p := by
  cases o with
  | none => exact ⟨none, rfl⟩
  | some a =>
    obtain ⟨b, hb⟩ := h a
    refine ⟨some b, ?_⟩
    rw [Option.mapM_some, hb]
    rfl

theorem option_mapM_rel {f : α → Except ε β} {R : β → α → Prop} (h : ∀ a b, f a = .ok b → R b a)
    {o : Option α} {p : Option β} (hp : o.mapM f = .ok p) : Option.Rel R p o := by
  cases o with
  | none =>
    cases hp
    exact .none
  | some a =>
    rw [Option.mapM_some] at hp
    obtain ⟨b, hb, rfl⟩ := except_map_ok_iff.1 hp
    exact .some (h a b hb)

theorem findIdx?_split {p : α → Bool} {as : List α} {k : Nat} (h : as.findIdx? p = some k) :
    ∃ a after, as = as.take k ++ a :: after ∧ as[k]? = some a ∧ p a = true ∧
      ∀ x ∈ as.take k, p x = false := by
  obtain ⟨hk, ha, hbefore⟩ := List.findIdx?_eq_some_iff_getElem.1 h
  refine ⟨as[k], as.drop (k + 1), ?_, List.getElem?_eq_getElem hk, ha, ?_⟩
  · rw [← List.drop_eq_getElem_cons hk, List.take_append_drop]
  · intro x hx
    obtain ⟨j, hj, rfl⟩ := List.mem_take_iff_getElem.1 hx
    simpa using hbefore j (by omega)

/-- The elements that a traversal comes to: it ends with the first that fails. -/
def reached (f : α → Except ε β) : List α → List α
  | [] => []
  | a :: as => a :: match f a with
    | .ok _ => reached f as
    | .error _ => []

theorem reached_all {f : α → Except ε β} {as : List α} (h : ∀ a ∈ as, ∃ b, f a = .ok b) :
    reached f as = as := by
  induction as with
  | nil => rfl
  | cons a as ih =>
    obtain ⟨b, hb⟩ := h a (by simp)
    simp only [reached, hb, ih fun x hx => h x (by simp [hx])]

theorem reached_error {f : α → Except ε β} {before : List α} {a : α} {after : List α} {e : ε}
    (hb : ∀ x ∈ before, ∃ b, f x = .ok b) (ha : f a = .error e) :
    reached f (before ++ a :: after) = before ++ [a] := by
  induction before with
  | nil => simp [reached, ha]
  | cons x before ih =>
    obtain ⟨b, hx⟩ := hb x (by simp)
    simp only [List.cons_append, reached, hx, ih fun y hy => hb y (by simp [hy])]

/-- A traversal whose steps add to a list adds what the elements that it comes to add. -/
theorem run_mapM_noting {f : α → Except ε β} {g : α → ExceptT ε (StateT (List σ) Id) β}
    {notes : α → List σ} (h : ∀ a s, (g a).run.run s = (f a, s ++ notes a)) (as : List α)
    (s : List σ) :
    (as.mapM g).run.run s = (as.mapM f, s ++ (reached f as).flatMap notes) := by
  induction as generalizing s with
  | nil => simp [reached]; rfl
  | cons a as ih =>
    rw [List.mapM_cons, List.mapM_cons, ExceptT.run_bind, StateT.run_bind, h]
    cases ha : f a with
    | error e => simp [reached, ha]; rfl
    | ok b =>
      have hrest := ih (s ++ notes a)
      simp only [reached, ha, List.flatMap_cons, ← List.append_assoc]
      change (ExceptT.run (as.mapM g >>= fun bs => pure (b :: bs))).run (s ++ notes a) = _
      rw [ExceptT.run_bind, StateT.run_bind, hrest]
      cases as.mapM f with
      | error e => rfl
      | ok bs => rfl

section

variable {f : α → Except ε β} {g : α → Option γ} {g' : β → Option γ}

/-- What each element has in common with its result is found at the same place in both lists. -/
theorem list_mapM_getElem?_bind (hg : ∀ a b, f a = .ok b → g' b = g a) {as : List α} {bs : List β}
    (h : as.mapM f = .ok bs) (i : Nat) : bs[i]?.bind g' = as[i]?.bind g := by
  have hall := list_mapM_ok_iff.1 h
  clear h
  induction hall generalizing i with
  | nil => rfl
  | cons ha _ ih =>
    cases i with
    | zero => exact hg _ _ ha
    | succ i => exact ih i

theorem option_mapM_bind (hg : ∀ a b, f a = .ok b → g' b = g a) {o : Option α} {p : Option β}
    (h : o.mapM f = .ok p) : p.bind g' = o.bind g := by
  cases o with
  | none =>
    cases h
    rfl
  | some a =>
    rw [Option.mapM_some] at h
    obtain ⟨b, hb, rfl⟩ := except_map_ok_iff.1 h
    exact hg a b hb

end

end JobReport
