import JobReport.Record.Codec

/-!
# What a scan yields

A property of the values that a scan can have as its result, whatever the text, is shown along the
way the scan is put together. A loop yields what its steps yield, when every step keeps an invariant
of the state.
-/

set_option autoImplicit false

namespace JobReport.Scan

variable {α β σ : Type}

/-- Every result of a scan has a property. -/
structure Yields (x : Scan α) (P : α → Prop) : Prop where
  of_run : ∀ {s : List Char} {a : α} {r : List Char}, x.run s = .ok (a, r) → P a

variable {x : Scan α} {P Q : α → Prop}

theorem Yields.mono (hx : Yields x Q) (h : ∀ a, Q a → P a) : Yields x P :=
  ⟨fun hr => h _ (hx.of_run hr)⟩

theorem yields_any : Yields x fun _ => True := ⟨fun _ => trivial⟩

theorem yields_pure {a : α} (h : P a) : Yields (pure a) P := by
  constructor
  intro s b r hr
  cases hr
  exact h

theorem yields_fail (fault : Fault) : Yields (fail fault) P := by
  constructor
  intro s a r h
  cases h

theorem yields_malformed (what : Malformed) : Yields (malformed what) P := yields_fail _

theorem yields_mismatch (what : Mismatch) : Yields (mismatch what) P := yields_fail _

theorem yields_bind {f : α → Scan β} {R : β → Prop} (hx : Yields x Q)
    (hf : ∀ a, Q a → Yields (f a) R) : Yields (x >>= f) R := by
  constructor
  intro s b t h
  rw [run_bind] at h
  split at h
  · cases h
  · rename_i a r hr
    exact (hf a (hx.of_run hr)).of_run h

/-- A scan whose own result does not matter. -/
theorem yields_after {f : α → Scan β} {R : β → Prop} (hf : ∀ a, Yields (f a) R) :
    Yields (x >>= f) R :=
  yields_bind yields_any fun a _ => hf a

theorem yields_ite {c : Prop} [Decidable c] {y : Scan α} (hx : c → Yields x P)
    (hy : ¬c → Yields y P) : Yields (if c then x else y) P := by
  by_cases h : c
  · rw [if_pos h]
    exact hx h
  · rw [if_neg h]
    exact hy h

theorem yields_settle {outcome : Except Mismatch α} (h : ∀ a, outcome = .ok a → P a) :
    Yields (settle outcome) P := by
  cases outcome with
  | ok a => exact yields_pure (h a rfl)
  | error what => exact yields_mismatch what

theorem yields_loop {step : σ → Char → Scan (σ ⊕ β)} {atEnd : σ → Unfinished} {state : σ}
    {I : σ → Prop} {R : β → Prop}
    (hstep : ∀ state c, I state → Yields (step state c) (Sum.elim I R)) (hstart : I state) :
    Yields (loop step atEnd state) R := by
  constructor
  intro s b t h
  change loopRun step atEnd state s = .ok (b, t) at h
  -- Each time round leaves a shorter text.
  induction hn : s.length using Nat.strongRecOn generalizing state s with
  | ind n ih =>
    subst hn
    have hd := length_dropWhile_le isSpace s
    rw [loopRun] at h
    split at h
    · cases h
    · rename_i c r hs
      unfold skipSpace at hs
      rw [hs, List.length_cons] at hd
      split at h
      · cases h
      · rename_i hr
        cases h
        exact (hstep state c hstart).of_run hr
      · rename_i state' t' hr
        have hshort := (step state c).shrinks hr
        have hnext := (hstep state c hstart).of_run hr
        exact ih t'.length (by omega) hnext h rfl

theorem yields_listFrom {element : Char → Scan α} (h : ∀ c, Yields (element c) P)
    (isFirst : Bool) {before : List α} (hbefore : ∀ a ∈ before, P a) :
    Yields (listFrom element isFirst before) fun as => ∀ a ∈ as, P a := by
  have hmore : ∀ {before : List α}, (∀ a ∈ before, P a) → ∀ c, Yields
      (do let a ← element c; pure (Sum.inl (false, a :: before)))
      (Sum.elim (fun state : Bool × List α => ∀ a ∈ state.2, P a)
        (fun as : List α => ∀ a ∈ as, P a)) := by
    intro before hbefore c
    apply yields_bind (h c)
    intro a ha
    apply yields_pure
    intro b hb
    rcases List.mem_cons.1 hb with rfl | hb
    · exact ha
    · exact hbefore b hb
  have hinv : ∀ a ∈ (isFirst, before).2, P a := hbefore
  apply yields_loop (I := fun state : Bool × List α => ∀ a ∈ state.2, P a) _ hinv
  rintro ⟨isFirst, before⟩ c hbefore
  apply yields_ite
  · intro _
    exact yields_pure fun a ha => hbefore a (List.mem_reverse.1 ha)
  intro _
  apply yields_ite
  · intro _
    exact hmore hbefore c
  intro _
  apply yields_ite
  · intro _
    apply yields_after
    intro d
    exact yields_ite (fun _ => yields_malformed _) fun _ => hmore hbefore d
  · intro _
    exact yields_malformed _

theorem yields_list {element : Char → Scan α} (h : ∀ c, Yields (element c) P) :
    Yields (list element) fun as => ∀ a ∈ as, P a :=
  yields_listFrom h true (by simp)

theorem yields_object {member : α → Scan α} {finish : α → Except Mismatch β} {start : α}
    {R : β → Prop} (hmember : ∀ before, P before → Yields (member before) P)
    (hfinish : ∀ before b, P before → finish before = .ok b → R b) (hstart : P start) :
    Yields (object member finish start) R := by
  have hnamed : ∀ {before : α}, P before → ∀ otherwise c, Yields
      (object.named (β := β) member before otherwise c)
      (Sum.elim (fun state : Bool × α => P state.2) R) := by
    intro before hbefore otherwise c
    apply yields_ite
    · intro _
      exact yields_bind (hmember before hbefore) fun after hafter => yields_pure hafter
    · intro _
      exact yields_malformed _
  apply yields_loop (I := fun state : Bool × α => P state.2) _ hstart
  rintro ⟨isFirst, before⟩ c hbefore
  apply yields_ite
  · intro _
    apply yields_bind (yields_settle fun b hb => hfinish before b hbefore hb)
    intro b hb
    exact yields_pure hb
  intro _
  apply yields_ite
  · intro _
    exact hnamed hbefore _ c
  intro _
  apply yields_ite
  · intro _
    apply yields_after
    intro d
    exact yields_ite (fun _ => yields_malformed _) fun _ => hnamed hbefore _ d
  · intro _
    exact yields_malformed _

theorem yields_nested {levels : Nat} {inside : Nat → Scan α}
    (h : ∀ below, levels = below + 1 → Yields (inside below) P) :
    Yields (nested levels inside) P := by
  cases levels with
  | zero => exact yields_malformed _
  | succ below => exact h below rfl

/-- A value of the wrong kind is always refused. -/
theorem yields_reject (wanted : String) (first : Char) : Yields (reject wanted first) P := by
  apply yields_ite
  · intro _
    exact yields_mismatch _
  intro _
  apply yields_ite
  · intro _
    exact yields_mismatch _
  · intro _
    exact yields_after fun j => yields_mismatch _

/-- A whole text has as its value what the scan for it yields. -/
theorem whole_of_yields {value : Char → Scan α} (h : ∀ c, Yields (value c) P) {text : String}
    {a : α} (ha : whole value text = .ok a) : P a := by
  have hscan : Yields (whole.scan value) P := by
    apply yields_after
    intro c
    apply yields_bind (h c)
    intro b hb
    apply yields_after
    intro after
    cases after with
    | none => exact yields_pure hb
    | some d => exact yields_malformed _
  unfold whole at ha
  split at ha
  · rename_i b r hrun
    cases ha
    exact hscan.of_run hrun
  · cases ha

end JobReport.Scan
