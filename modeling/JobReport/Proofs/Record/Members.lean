import JobReport.Proofs.Record.Shapes

/-!
# What a record takes from the members of an object

Members are read one after the other, but what they come to does not hang on their order: each field
takes the one tree under its name, or goes without where there is none. A tagged record takes its
tag in the same way and leaves the other members to the record that the tag names.
-/

set_option autoImplicit false

namespace JobReport

namespace Json

variable {name : String} {j : Json} {ms ms' : List (String × Json)}

def valuesOf (name : String) (ms : List (String × Json)) : List Json :=
  (ms.filter fun m => m.1 = name).map (·.2)

def without (name : String) (ms : List (String × Json)) : List (String × Json) :=
  ms.filter fun m => m.1 ≠ name

theorem valuesOf_cons_self : valuesOf name ((name, j) :: ms) = j :: valuesOf name ms := by
  simp [valuesOf]

theorem without_cons_self : without name ((name, j) :: ms) = without name ms := by
  simp [without]

theorem valuesOf_cons_ne {m : String × Json} (h : m.1 ≠ name) :
    valuesOf name (m :: ms) = valuesOf name ms := by
  simp [valuesOf, h]

theorem without_cons_ne {m : String × Json} (h : m.1 ≠ name) :
    without name (m :: ms) = m :: without name ms := by
  simp [without, h]

theorem valuesOf_eq_nil (h : ∀ m ∈ ms, m.1 ≠ name) : valuesOf name ms = [] := by
  rw [valuesOf, List.map_eq_nil_iff, List.filter_eq_nil_iff]
  intro m hm
  simpa using h m hm

theorem valuesOf_without {other : String} (h : name ≠ other) :
    valuesOf name (without other ms) = valuesOf name ms := by
  rw [valuesOf, valuesOf, without, List.filter_filter]
  congr 1
  apply List.filter_congr
  intro m _
  by_cases hm : m.1 = name
  · simp [hm, h]
  · simp [hm]

theorem without_comm (other : String) :
    without name (without other ms) = without other (without name ms) :=
  List.filter_comm _ _ ms

theorem valuesOf_perm (h : ms.Perm ms') : (valuesOf name ms).Perm (valuesOf name ms') :=
  (h.filter _).map _

theorem without_perm (h : ms.Perm ms') : (without name ms).Perm (without name ms') := h.filter _

end Json

namespace Fields

open Json

variable {α : Type} {ts : List Type} {origin : Origin}

/-- Whether a field takes a value from the trees under its name: the value of the only tree, or
where there is none the value that stands for it. -/
inductive Takes (origin : Origin) (f : Field α) : List Json → α → Prop
  | read {j : Json} {a : α} (h : f.codec.decode origin j = .ok a) : Takes origin f [j] a
  | absent {a : α} (h : f.absence.value? = some a) : Takes origin f [] a

theorem takes_nil_iff {f : Field α} {a : α} :
    Takes origin f [] a ↔ f.absence.value? = some a := by
  constructor
  · rintro (_ | h)
    exact h
  · exact .absent

theorem takes_cons_iff {f : Field α} {j : Json} {js : List Json} {a : α} :
    Takes origin f (j :: js) a ↔ js = [] ∧ f.codec.decode origin j = .ok a := by
  constructor
  · rintro (h | _)
    exact ⟨rfl, h⟩
  · rintro ⟨rfl, h⟩
    exact .read h

/-- Whether each field takes its value of a row from the members. -/
def Accepts (origin : Origin) : {ts : List Type} → Fields ts → List (String × Json) → Row ts → Prop
  | _, .nil, _, _ => True
  | _, .cons f fs, ms, (a, row) =>
    Takes origin f (valuesOf f.name ms) a ∧ fs.Accepts origin (without f.name ms) row

def TakesInto (origin : Origin) (f : Field α) (slot : Option α) (js : List Json) (a : α) : Prop :=
  match slot with
  | none => Takes origin f js a
  | some b => js = [] ∧ b = a

theorem takesInto_cons_iff {f : Field α} {slot : Option α} {j : Json} {js : List Json} {a : α} :
    TakesInto origin f slot (j :: js) a ↔
      slot = none ∧ ∃ b, f.codec.decode origin j = .ok b ∧ TakesInto origin f (some b) js a := by
  cases slot with
  | some b => simp [TakesInto]
  | none =>
    simp only [TakesInto, true_and, takes_cons_iff]
    constructor
    · rintro ⟨hjs, h⟩
      exact ⟨a, h, hjs, rfl⟩
    · rintro ⟨b, h, hjs, rfl⟩
      exact ⟨hjs, h⟩

theorem finish_cons_ok_iff {f : Field α} {fs : Fields ts} {slot : Option α} {slots : Slots ts}
    {a : α} {row : Row ts} : (Fields.cons f fs).finish (slot, slots) = .ok (a, row) ↔
      TakesInto origin f slot [] a ∧ fs.finish slots = .ok row := by
  have htakes : TakesInto origin f slot [] a ↔ slot.or f.absence.value? = some a := by
    cases slot with
    | some b => simp [TakesInto]
    | none => simp [TakesInto, takes_nil_iff]
  rw [htakes, finish]
  cases slot.or f.absence.value? with
  | none =>
    constructor
    · rintro ⟨⟩
    · rintro ⟨⟨⟩, _⟩
  | some b =>
    refine except_bind_ok_iff.trans ?_
    constructor
    · rintro ⟨_, ⟨⟩, h⟩
      obtain ⟨row', hrow, hpair⟩ := except_bind_ok_iff.1 h
      cases hpair
      exact ⟨rfl, hrow⟩
    · rintro ⟨⟨⟩, hrow⟩
      exact ⟨a, rfl, except_bind_ok_iff.2 ⟨row, hrow, rfl⟩⟩

/-- A member is read into the slot of its name, or passed over if there is none. -/
def ReadsInto (origin : Origin) (fs : Fields ts) (before : Slots ts) (m : String × Json)
    (after : Slots ts) : Prop :=
  (fs.place .error (fun c => c.decode origin m.2) m.1 before).getD (.ok before) =
    (Except.ok after : Except Mismatch (Slots ts))

theorem decodeMembers_ok_iff_readsInto {fs : Fields ts} {before : Slots ts} {m : String × Json}
    {ms : List (String × Json)} {row : Row ts} :
    fs.decodeMembers origin (m :: ms) before = .ok row ↔
      ∃ after, fs.ReadsInto origin before m after ∧ fs.decodeMembers origin ms after = .ok row := by
  rw [decodeMembers]
  unfold ReadsInto
  cases fs.place (m := Except Mismatch) .error (fun c => c.decode origin m.2) m.1 before with
  | none => simp
  | some filled => exact except_bind_ok_iff

theorem readsInto_here_iff {f : Field α} {fs : Fields ts} {slot slot' : Option α}
    {slots slots' : Slots ts} {j : Json} :
    (Fields.cons f fs).ReadsInto origin (slot, slots) (f.name, j) (slot', slots') ↔
      slot = none ∧ ∃ b, f.codec.decode origin j = .ok b ∧ slot' = some b ∧ slots' = slots := by
  unfold ReadsInto
  cases slot with
  | some b => simp [place]
  | none =>
    have hplace : (Fields.cons f fs).place (m := Except Mismatch) .error
        (fun c => c.decode origin j) f.name (none, slots) = _ := place_here f fs slots
    refine (Eq.congr_left (congrArg (Option.getD · _) hplace)).trans ?_
    refine except_bind_ok_iff.trans ?_
    simp only [true_and]
    constructor
    · rintro ⟨b, hb, hslots⟩
      cases hslots
      exact ⟨b, hb, rfl, rfl⟩
    · rintro ⟨b, hb, rfl, rfl⟩
      exact ⟨b, hb, rfl⟩

theorem readsInto_later_iff {f : Field α} {fs : Fields ts} {slot slot' : Option α}
    {slots slots' : Slots ts} {m : String × Json} (hname : f.name ≠ m.1) :
    (Fields.cons f fs).ReadsInto origin (slot, slots) m (slot', slots') ↔
      slot' = slot ∧ fs.ReadsInto origin slots m slots' := by
  have hplace : (Fields.cons f fs).place (m := Except Mismatch) .error
      (fun c => c.decode origin m.2) m.1 (slot, slots) = _ := place_later f fs slot slots hname
  unfold ReadsInto
  refine (Eq.congr_left (congrArg (Option.getD · _) hplace)).trans ?_
  cases fs.place (m := Except Mismatch) .error (fun c => c.decode origin m.2) m.1 slots with
  | none =>
    constructor
    · rintro ⟨⟩
      exact ⟨rfl, rfl⟩
    · rintro ⟨rfl, hslots⟩
      cases hslots
      rfl
  | some filled =>
    refine except_bind_ok_iff.trans ?_
    constructor
    · rintro ⟨between, hfilled, hslots⟩
      cases hslots
      exact ⟨rfl, hfilled⟩
    · rintro ⟨rfl, hfilled⟩
      exact ⟨slots', hfilled, rfl⟩

/-- Members are read for the first field and for the others apart. -/
theorem decodeMembers_cons_ok_iff {f : Field α} {fs : Fields ts} {slot : Option α}
    {slots : Slots ts} {ms : List (String × Json)} {a : α} {row : Row ts} :
    (Fields.cons f fs).decodeMembers origin ms (slot, slots) = .ok (a, row) ↔
      TakesInto origin f slot (valuesOf f.name ms) a ∧
        fs.decodeMembers origin (without f.name ms) slots = .ok row := by
  -- A filled slot takes no second tree, so the slots go along with the members.
  induction ms generalizing slot slots with
  | nil => exact finish_cons_ok_iff
  | cons m ms ih =>
    refine decodeMembers_ok_iff_readsInto.trans ?_
    by_cases hname : f.name = m.1
    · obtain ⟨_, j⟩ := m
      obtain rfl := hname
      rw [valuesOf_cons_self, without_cons_self, takesInto_cons_iff]
      constructor
      · rintro ⟨⟨slot', slots'⟩, hread, hms⟩
        obtain ⟨rfl, b, hb, rfl, rfl⟩ := readsInto_here_iff.1 hread
        obtain ⟨htakes, hms⟩ := ih.1 hms
        exact ⟨⟨rfl, b, hb, htakes⟩, hms⟩
      · rintro ⟨⟨rfl, b, hb, htakes⟩, hms⟩
        exact ⟨(some b, slots), readsInto_here_iff.2 ⟨rfl, b, hb, rfl, rfl⟩, ih.2 ⟨htakes, hms⟩⟩
    · rw [valuesOf_cons_ne (Ne.symm hname), without_cons_ne (Ne.symm hname),
        decodeMembers_ok_iff_readsInto]
      constructor
      · rintro ⟨⟨slot', slots'⟩, hread, hms⟩
        obtain ⟨rfl, hlater⟩ := (readsInto_later_iff hname).1 hread
        obtain ⟨htakes, hms⟩ := ih.1 hms
        exact ⟨htakes, slots', hlater, hms⟩
      · rintro ⟨htakes, slots', hread, hms⟩
        exact ⟨(slot, slots'), (readsInto_later_iff hname).2 ⟨rfl, hread⟩, ih.2 ⟨htakes, hms⟩⟩

theorem decodeMembers_nil (ms : List (String × Json)) (slots : Slots []) :
    Fields.nil.decodeMembers origin ms slots = .ok () := by
  induction ms with
  | nil => rfl
  | cons m ms ih => exact ih

/-- The members are read as a row exactly when each field takes its value from them. -/
theorem decodeMembers_ok_iff {fs : Fields ts} {ms : List (String × Json)} {row : Row ts} :
    fs.decodeMembers origin ms (Slots.empty ts) = .ok row ↔ fs.Accepts origin ms row := by
  induction fs generalizing ms with
  | nil =>
    rw [decodeMembers_nil]
    exact iff_of_true rfl trivial
  | cons f fs ih =>
    obtain ⟨a, row⟩ := row
    exact decodeMembers_cons_ok_iff.trans (and_congr Iff.rfl ih)

theorem Takes.perm {f : Field α} {js js' : List Json} {a : α} (h : Takes origin f js a)
    (hjs : js.Perm js') : Takes origin f js' a := by
  cases h with
  | read hj => exact (List.singleton_perm.1 hjs) ▸ .read hj
  | absent ha => exact hjs.nil_eq ▸ .absent ha

theorem Accepts.perm {fs : Fields ts} {ms ms' : List (String × Json)} {row : Row ts}
    (h : fs.Accepts origin ms row) (hms : ms.Perm ms') : fs.Accepts origin ms' row := by
  induction fs generalizing ms ms' with
  | nil => trivial
  | cons f fs ih =>
    obtain ⟨a, row⟩ := row
    exact ⟨h.1.perm (valuesOf_perm hms), ih h.2 (without_perm hms)⟩

theorem accepts_perm_iff {fs : Fields ts} {ms ms' : List (String × Json)} {row : Row ts}
    (h : ms.Perm ms') : fs.Accepts origin ms row ↔ fs.Accepts origin ms' row :=
  ⟨(·.perm h), (·.perm h.symm)⟩

theorem accepts_unknown_iff {fs : Fields ts} {name : String} {j : Json}
    {ms : List (String × Json)} {row : Row ts} (hname : name ∉ fs.names) :
    fs.Accepts origin ((name, j) :: ms) row ↔ fs.Accepts origin ms row := by
  induction fs generalizing ms with
  | nil => exact Iff.rfl
  | cons f fs ih =>
    obtain ⟨a, row⟩ := row
    obtain ⟨hf, hfs⟩ := List.ne_and_not_mem_of_not_mem_cons hname
    simp only [Accepts]
    rw [valuesOf_cons_ne hf, without_cons_ne hf, ih hfs]

/-- A field of a record, which no field before it is called like. -/
inductive Has (g : Field α) : {ts : List Type} → Fields ts → Prop
  | here {ts : List Type} (fs : Fields ts) : Has g (.cons g fs)
  | later {β : Type} {ts : List Type} (f : Field β) {fs : Fields ts} (hname : g.name ≠ f.name)
    (h : Has g fs) : Has g (.cons f fs)

/-- What stands under the name of a field matters only for what the field takes from it. -/
theorem Has.accepts_iff {g : Field α} {fs : Fields ts} (hg : Has g fs)
    {ms ms' : List (String × Json)}
    (htakes : ∀ a, Takes origin g (valuesOf g.name ms) a ↔ Takes origin g (valuesOf g.name ms') a)
    (hothers : without g.name ms = without g.name ms') {row : Row ts} :
    fs.Accepts origin ms row ↔ fs.Accepts origin ms' row := by
  induction hg generalizing ms ms' with
  | here fs =>
    obtain ⟨a, row⟩ := row
    simp only [Accepts]
    rw [htakes, hothers]
  | later f hname _ ih =>
    obtain ⟨a, row⟩ := row
    simp only [Accepts]
    -- The fields before it find the same trees, all under other names.
    rw [← valuesOf_without (Ne.symm hname), hothers, valuesOf_without (Ne.symm hname)]
    apply and_congr_right'
    apply ih
    · intro b
      rw [valuesOf_without hname, valuesOf_without hname]
      exact htakes b
    · rw [without_comm, hothers, without_comm]

/-- Trees that a field takes the same values from may stand for each other under its name. -/
theorem Has.accepts_member_iff {g : Field α} {fs : Fields ts} (hg : Has g fs) {j j' : Json}
    (hj : ∀ a, g.codec.decode origin j = .ok a ↔ g.codec.decode origin j' = .ok a)
    {ms : List (String × Json)} {row : Row ts} :
    fs.Accepts origin ((g.name, j) :: ms) row ↔ fs.Accepts origin ((g.name, j') :: ms) row := by
  apply hg.accepts_iff
  · intro a
    rw [valuesOf_cons_self, valuesOf_cons_self, takes_cons_iff, takes_cons_iff, hj]
  · rw [without_cons_self, without_cons_self]

/-- A tree from which a field takes what stands for it where it is left out may be left out. -/
theorem Has.accepts_idle_iff {g : Field α} {fs : Fields ts} (hg : Has g fs) {j : Json}
    (hj : ∀ a, g.codec.decode origin j = .ok a ↔ g.absence.value? = some a)
    {ms : List (String × Json)} (hms : ∀ m ∈ ms, m.1 ≠ g.name) {row : Row ts} :
    fs.Accepts origin ((g.name, j) :: ms) row ↔ fs.Accepts origin ms row := by
  apply hg.accepts_iff
  · intro a
    rw [valuesOf_cons_self, valuesOf_eq_nil hms, takes_cons_iff, takes_nil_iff, hj]
    exact and_iff_right rfl
  · exact without_cons_self

end Fields

namespace Shape

variable {α : Type} {shape : Shape α} {origin : Origin} {ms ms' : List (String × Json)} {a : α}

theorem decode_obj_ok_iff : shape.decode origin (.obj ms) = .ok a ↔
    ∃ row, shape.fields.Accepts origin ms row ∧ shape.make row = a := by
  simp only [decode, except_map_ok_iff, Fields.decodeMembers_ok_iff]

theorem decode_obj_ok_congr
    (h : ∀ row, shape.fields.Accepts origin ms row ↔ shape.fields.Accepts origin ms' row) :
    shape.decode origin (.obj ms) = .ok a ↔ shape.decode origin (.obj ms') = .ok a := by
  simp only [decode_obj_ok_iff, h]

end Shape

namespace Family

open Json

variable {τ : Type} [Named τ] {family : Family τ} {ms ms' others : List (String × Json)}

/-- Whether a tag is found among the trees under its name, if none was found before. -/
inductive TakesTag : Option τ → List Json → Option τ → Prop
  | read {j : Json} {t : τ} (h : Named.decodeBare j = .ok t) : TakesTag none [j] (some t)
  | absent (tag : Option τ) : TakesTag tag [] tag

theorem takesTag_cons_iff {before after : Option τ} {j : Json} {js : List Json} :
    TakesTag before (j :: js) after ↔
      before = none ∧ ∃ t, Named.decodeBare j = .ok t ∧ TakesTag (some t) js after := by
  constructor
  · rintro (h | _)
    exact ⟨rfl, _, h, .absent _⟩
  · rintro ⟨rfl, t, h, hjs⟩
    cases hjs
    exact .read h

theorem takeTag_ok_iff {before after : Option τ} :
    family.takeTag ms before = .ok (after, others) ↔
      TakesTag before (valuesOf family.tag ms) after ∧ without family.tag ms = others := by
  induction ms generalizing before after others with
  | nil =>
    constructor
    · rintro ⟨⟩
      exact ⟨.absent _, rfl⟩
    · rintro ⟨⟨⟩, rfl⟩
      rfl
  | cons m ms ih =>
    obtain ⟨name, j⟩ := m
    rw [takeTag]
    by_cases hname : name = family.tag
    · obtain rfl := hname
      rw [if_pos rfl, valuesOf_cons_self, without_cons_self, takesTag_cons_iff]
      cases before with
      | some t => simp
      | none =>
        refine except_bind_ok_iff.trans ?_
        simp only [ih, true_and, exists_and_right, ← and_assoc]
    · rw [if_neg hname, valuesOf_cons_ne hname, without_cons_ne hname]
      refine except_bind_ok_iff.trans ?_
      constructor
      · rintro ⟨⟨tag, left⟩, htaken, hothers⟩
        obtain ⟨htag, rfl⟩ := ih.1 htaken
        cases hothers
        exact ⟨htag, rfl⟩
      · rintro ⟨htag, rfl⟩
        exact ⟨(after, _), ih.2 ⟨htag, rfl⟩, rfl⟩

/-- A member of a family is read from the tag, wherever it stands, and from the other members. -/
theorem decode_obj_ok_iff {origin : Origin} {a : family.Member} :
    family.decode origin (.obj ms) = .ok a ↔
      ∃ j t, valuesOf family.tag ms = [j] ∧ Named.decodeBare j = .ok t ∧
        family.decodeAs t (.obj (without family.tag ms)) = .ok a := by
  refine except_bind_ok_iff.trans ?_
  constructor
  · rintro ⟨⟨tag, others⟩, htaken, hassemble⟩
    obtain ⟨htag, rfl⟩ := takeTag_ok_iff.1 htaken
    generalize hjs : valuesOf family.tag ms = js at htag
    cases htag with
    | read hj => exact ⟨_, _, rfl, hj, hassemble⟩
    | absent => cases hassemble
  · rintro ⟨j, t, hjs, hj, hmember⟩
    exact ⟨(some t, _), takeTag_ok_iff.2 ⟨hjs ▸ .read hj, rfl⟩, hmember⟩

theorem decode_obj_perm (origin : Origin) (hms : ms.Perm ms') {a : family.Member}
    (h : family.decode origin (.obj ms) = .ok a) : family.decode origin (.obj ms') = .ok a := by
  obtain ⟨j, t, hjs, hj, hmember⟩ := decode_obj_ok_iff.1 h
  have hjs' : valuesOf family.tag ms' = [j] := by
    rw [← List.perm_singleton, ← hjs]
    exact (valuesOf_perm hms).symm
  obtain ⟨b, hb, hmake⟩ := except_bind_ok_iff.1 hmember
  obtain ⟨row, hrow, rfl⟩ := Shape.decode_obj_ok_iff.1 hb
  refine decode_obj_ok_iff.2 ⟨j, t, hjs', hj, except_bind_ok_iff.2 ⟨_, ?_, hmake⟩⟩
  exact Shape.decode_obj_ok_iff.2 ⟨row, hrow.perm (without_perm hms), rfl⟩

end Family

end JobReport
