import JobReport.Proofs.Record.Returns
import JobReport.Record.Tagged

/-!
# Records come back

The members of an object fill the slots of a record one after the other, whether they are read
from a tree or from a text. So an object stands for a record when its members, in any order, stand
for the values of its fields, and a record comes back when the values of its fields do. So does a
tagged record, whose tag is set apart first.
-/

set_option autoImplicit false

namespace JobReport

namespace Json

variable {α : Type} {step step' : α → String × Json → α → Prop} {before last : α}
  {ms ms' : List (String × Json)}

theorem Follows.mono (h : Follows step before ms last)
    (hstep : ∀ before m after, step before m after → step' before m after) :
    Follows step' before ms last := by
  induction ms generalizing before with
  | nil => exact h
  | cons m ms ih =>
    obtain ⟨after, hm, hms⟩ := h
    exact ⟨after, hstep _ _ _ hm, ih hms⟩

theorem follows_append_iff : Follows step before (ms ++ ms') last ↔
    ∃ between, Follows step before ms between ∧ Follows step between ms' last := by
  induction ms generalizing before with
  | nil => simp [Follows]
  | cons m ms ih =>
    simp only [List.cons_append, Follows, ih]
    constructor
    · rintro ⟨after, hm, between, hms, hms'⟩
      exact ⟨between, ⟨after, hm, hms⟩, hms'⟩
    · rintro ⟨between, ⟨after, hm, hms⟩, hms'⟩
      exact ⟨after, hm, between, hms, hms'⟩

end Json

namespace Fields

open Json

/-- Whether the value of every field comes back. -/
def Returns : {ts : List Type} → Fields ts → Row ts → Prop
  | _, .nil, _ => True
  | _, .cons f fs, (a, row) => f.codec.Returns a ∧ fs.Returns row

/-- Whether members stand for a row, in any order: one for each field, but for those that take
their values where they are left out. -/
def Stands : {ts : List Type} → Fields ts → Row ts → List (String × Json) → Prop
  | _, .nil, _, ms => ms = []
  | _, .cons f fs, (a, row), ms =>
    (∃ before j after, ms = before ++ (f.name, j) :: after ∧ f.codec.Stands j a ∧
      fs.Stands row (before ++ after)) ∨
    f.absence.value? = some a ∧ fs.Stands row ms

theorem Returns.stands {ts : List Type} {fs : Fields ts} {row : Row ts} (h : fs.Returns row) :
    fs.Stands row (fs.encode row) := by
  induction fs with
  | nil => rfl
  | cons f fs ih =>
    obtain ⟨a, row⟩ := row
    rw [encode]
    by_cases homits : f.omits a = true
    · rw [if_pos homits]
      exact .inr ⟨f.value?_of_omits a homits, ih h.2⟩
    · rw [if_neg homits]
      exact .inl ⟨[], _, _, rfl, h.1.stands, ih h.2⟩

theorem Stands.mem_names {ts : List Type} {fs : Fields ts} {row : Row ts}
    {ms : List (String × Json)} (h : fs.Stands row ms) : ∀ m ∈ ms, m.1 ∈ fs.names := by
  induction fs generalizing ms with
  | nil =>
    rw [Stands] at h
    simp [h]
  | cons f fs ih =>
    obtain ⟨a, row⟩ := row
    intro m hm
    rw [names]
    rcases h with ⟨before, j, after, rfl, _, hrest⟩ | ⟨_, hrest⟩
    · rcases List.mem_cons.1 (List.perm_middle.mem_iff.1 hm) with rfl | hm
      · exact List.mem_cons_self
      · exact List.mem_cons_of_mem _ (ih hrest m hm)
    · exact List.mem_cons_of_mem _ (ih hrest m hm)

theorem Stands.floatFree {ts : List Type} {fs : Fields ts} {row : Row ts}
    {ms : List (String × Json)} (h : fs.Stands row ms) : MembersFloatFree ms := by
  rw [membersFloatFree_iff]
  induction fs generalizing ms with
  | nil =>
    rw [Stands] at h
    simp [h]
  | cons f fs ih =>
    obtain ⟨a, row⟩ := row
    rcases h with ⟨before, j, after, rfl, hj, hrest⟩ | ⟨_, hrest⟩
    · intro m hm
      rcases List.mem_cons.1 (List.perm_middle.mem_iff.1 hm) with rfl | hm
      · exact hj.floatFree
      · exact ih hrest m hm
    · exact ih hrest

/-- What a way to read members into slots has to do: a member fills the slot of its name, and
passes by the slots of other names. -/
structure Fills (fill : {ts : List Type} → Fields ts → Slots ts → String × Json → Slots ts → Prop)
    (allowed : Json → Prop) : Prop where
  here : ∀ {α : Type} {ts : List Type} (f : Field α) (fs : Fields ts) (slots : Slots ts) {j : Json}
    {a : α}, f.codec.Stands j a → allowed j →
      fill (.cons f fs) (none, slots) (f.name, j) (some a, slots)
  later : ∀ {α : Type} {ts : List Type} (f : Field α) {fs : Fields ts} (slot : Option α)
    {before after : Slots ts} {m : String × Json}, f.name ≠ m.1 → fill fs before m after →
      fill (.cons f fs) (slot, before) m (slot, after)

section

variable {fill : {ts : List Type} → Fields ts → Slots ts → String × Json → Slots ts → Prop}
  {allowed : Json → Prop}

theorem Fills.follows_later (hfill : Fills fill allowed) {α : Type} {ts : List Type} (f : Field α)
    {fs : Fields ts} (slot : Option α) {ms : List (String × Json)} {before after : Slots ts}
    (hne : ∀ m ∈ ms, f.name ≠ m.1) (h : Follows (fill fs) before ms after) :
    Follows (fill (.cons f fs)) (slot, before) ms (slot, after) := by
  induction ms generalizing before with
  | nil => exact congrArg (slot, ·) h
  | cons m ms ih =>
    obtain ⟨between, hm, hms⟩ := h
    exact ⟨(slot, between), hfill.later f slot (hne m (by simp)) hm,
      ih (fun x hx => hne x (by simp [hx])) hms⟩

/-- Members that stand for a row fill its slots. -/
theorem Fills.follows_stands (hfill : Fills fill allowed) {ts : List Type} {fs : Fields ts}
    {row : Row ts} {ms : List (String × Json)} (hnames : fs.names.Nodup) (h : fs.Stands row ms)
    (hallowed : ∀ m ∈ ms, allowed m.2) :
    ∃ slots, Follows (fill fs) (Slots.empty ts) ms slots ∧ fs.finish slots = .ok row := by
  induction fs generalizing ms with
  | nil =>
    rw [Stands] at h
    exact ⟨(), by rw [h]; rfl, rfl⟩
  | cons f fs ih =>
    obtain ⟨a, row⟩ := row
    obtain ⟨hname, hnames⟩ := List.nodup_cons.1 hnames
    have hne : ∀ {ms}, fs.Stands row ms → ∀ m ∈ ms, f.name ≠ m.1 := by
      intro ms hms m hm heq
      rw [heq] at hname
      exact hname (hms.mem_names m hm)
    rcases h with ⟨before, j, after, rfl, hj, hrest⟩ | ⟨habsent, hrest⟩
    · -- The members before and after that of the first field pass by its slot.
      have hothers := hne hrest
      rw [List.forall_mem_append, List.forall_mem_cons] at hallowed
      rw [List.forall_mem_append] at hothers
      obtain ⟨slots, hfollows, hfinish⟩ := ih hnames hrest
        (List.forall_mem_append.2 ⟨hallowed.1, hallowed.2.2⟩)
      obtain ⟨between, hbefore, hafter⟩ := follows_append_iff.1 hfollows
      refine ⟨(some a, slots),
        follows_append_iff.2 ⟨(none, between), ?_, (some a, between), ?_, ?_⟩, ?_⟩
      · exact hfill.follows_later f none hothers.1 hbefore
      · exact hfill.here f fs between hj hallowed.2.1
      · exact hfill.follows_later f (some a) hothers.2 hafter
      · rw [finish, hfinish]
        rfl
    · obtain ⟨slots, hfollows, hfinish⟩ := ih hnames hrest hallowed
      refine ⟨(none, slots), hfill.follows_later f none (hne hrest) hfollows, ?_⟩
      rw [finish, hfinish, habsent]
      rfl

end

section

variable {m : Type → Type} [Monad m] {refuse : {α : Type} → Mismatch → m α}
  {value : {α : Type} → Codec α → m α}

theorem place_here {α : Type} {ts : List Type} (f : Field α) (fs : Fields ts) (slots : Slots ts) :
    (Fields.cons f fs).place refuse value f.name (none, slots) =
      some (do let a ← value f.codec; pure (some a, slots)) := by
  rw [place, if_pos rfl]

theorem place_later {α : Type} {ts : List Type} (f : Field α) (fs : Fields ts) (slot : Option α)
    (slots : Slots ts) {name : String} (h : f.name ≠ name) :
    (Fields.cons f fs).place refuse value name (slot, slots) =
      (fs.place refuse value name slots).map (· >>= fun slots => pure (slot, slots)) := by
  exact if_neg h

end

/-- A member of a tree fills a slot. -/
def FillsFromTree (origin : Origin) {ts : List Type} (fs : Fields ts) (before : Slots ts)
    (m : String × Json) (after : Slots ts) : Prop :=
  fs.place .error (fun c => c.decode origin m.2) m.1 before =
    some (Except.ok after : Except Mismatch (Slots ts))

theorem fills_fromTree (origin : Origin) : Fills (FillsFromTree origin) fun _ => True where
  here f fs slots j a ha _ := by
    change (Fields.cons f fs).place _ _ f.name (none, slots) = _
    rw [place_here, ha.decode origin]
    rfl
  later f fs slot before after m hne h := by
    change (Fields.cons f fs).place _ _ m.1 (slot, before) = _
    rw [place_later _ _ _ _ hne, h]
    rfl

theorem decodeMembers_of_follows {origin : Origin} {ts : List Type} {fs : Fields ts}
    {ms : List (String × Json)} {before after : Slots ts}
    (h : Follows (FillsFromTree origin fs) before ms after) :
    fs.decodeMembers origin ms before = fs.finish after := by
  induction ms generalizing before with
  | nil =>
    rw [Follows] at h
    rw [decodeMembers, h]
  | cons m ms ih =>
    obtain ⟨between, hm, hms⟩ := h
    rw [decodeMembers, hm]
    exact ih hms

/-- A member of a text fills a slot. -/
def FillsFromText (levels : Nat) (layout : Layout) (depth : Nat) {ts : List Type} (fs : Fields ts)
    (before : Slots ts) (m : String × Json) (after : Slots ts) : Prop :=
  ∃ filled, fs.place Scan.mismatch (readMember.value levels) m.1 before = some filled ∧
    ∀ rest, Scan.Ends rest →
      filled.run (layout.colon ++ m.2.chars layout depth ++ rest) = .ok (after, rest)

theorem fills_fromText (levels : Nat) (layout : Layout) (depth : Nat) :
    Fills (FillsFromText levels layout depth) fun j => j.depth ≤ levels where
  here f fs slots j a ha hdepth := by
    refine ⟨_, place_here _ _ _, ?_⟩
    intro rest hrest
    obtain ⟨c, cs, hchars, hc, hrun⟩ := ha.read levels layout depth hdepth rest hrest
    rw [hchars, List.append_assoc, List.cons_append, Scan.run_bind, readMember.value,
      Scan.run_colon_next hc, hrun]
    rfl
  later f fs slot before after m hne h := by
    obtain ⟨filled, hplace, hrun⟩ := h
    refine ⟨filled >>= fun slots => pure (slot, slots), ?_, ?_⟩
    · rw [place_later _ _ _ _ hne, hplace]
      rfl
    · intro rest hrest
      rw [Scan.run_bind, hrun rest hrest]
      rfl

theorem readsMember_of_fills {levels : Nat} {layout : Layout} {depth : Nat} {ts : List Type}
    {fs : Fields ts} {before after : Slots ts} {m : String × Json}
    (h : FillsFromText levels layout depth fs before m after) :
    Scan.ReadsMember (fs.readMember levels) layout depth before m after := by
  intro rest hrest
  obtain ⟨filled, hplace, hrun⟩ := h
  rw [memberBody, List.append_assoc, readMember, Scan.run_bind, Scan.run_string]
  simp only [hplace, hrun rest hrest]

end Fields

namespace Codec

variable {α : Type}

/-- An object stands for a record when its members stand for the values of the fields. -/
theorem Stands.record {shape : Shape α} {a : α} {ms : List (String × Json)}
    (hnames : shape.fields.names.Nodup) (h : shape.fields.Stands (shape.unmake a) ms) :
    (Codec.record shape).Stands (.obj ms) a where
  decode origin := by
    obtain ⟨slots, hfollows, hfinish⟩ :=
      (Fields.fills_fromTree origin).follows_stands hnames h fun _ _ => trivial
    change (shape.fields.decodeMembers origin ms (Slots.empty _)).map shape.make = _
    rw [Fields.decodeMembers_of_follows hfollows, hfinish]
    exact congrArg Except.ok (shape.make_unmake a)
  floatFree := h.floatFree
  read levels layout depth hdepth := by
    intro rest _
    apply Scan.reads_of_run (Json.chars_obj layout depth ms) (by decide)
    cases levels with
    | zero => exact absurd hdepth (Nat.not_succ_le_zero _)
    | succ levels =>
      have hmembers := Json.membersDepth_le_iff.1 (Nat.le_of_succ_le_succ hdepth)
      obtain ⟨slots, hfollows, hfinish⟩ :=
        (Fields.fills_fromText levels layout (depth + 1)).follows_stands hnames h hmembers
      apply Scan.run_object (hfollows.mono fun _ _ _ => Fields.readsMember_of_fills)
      rw [hfinish]
      exact congrArg Except.ok (shape.make_unmake a)

/-- A record comes back when the values of its fields do. -/
theorem Returns.record {shape : Shape α} {a : α} (hnames : shape.fields.names.Nodup)
    (h : shape.fields.Returns (shape.unmake a)) : (Codec.record shape).Returns a :=
  (Stands.record hnames h.stands).returns

theorem Faithful.record {shape : Shape α} (hnames : shape.fields.names.Nodup)
    (h : ∀ a, shape.fields.Returns (shape.unmake a)) : (Codec.record shape).Faithful :=
  ⟨fun a => .record hnames (h a), fun _ => nofun⟩

end Codec

namespace Family

variable {τ : Type} [Named τ] {family : Family τ}

theorem takeTag_others {ms : List (String × Json)} (h : ∀ m ∈ ms, m.1 ≠ family.tag)
    (tag : Option τ) : family.takeTag ms tag = .ok (tag, ms) := by
  induction ms with
  | nil => rfl
  | cons m ms ih =>
    obtain ⟨name, j⟩ := m
    have hname : name ≠ family.tag := h (name, j) (by simp)
    rw [takeTag, if_neg hname, ih fun m hm => h m (by simp [hm])]
    rfl

theorem takeTag_tag (t : τ) {ms : List (String × Json)} (h : ∀ m ∈ ms, m.1 ≠ family.tag) :
    family.takeTag ((family.tag, .str (Named.name t)) :: ms) none = .ok (some t, ms) := by
  have hbare : Named.decodeBare (.str (Named.name t)) = .ok t := by
    simp [Named.decodeBare, Named.resolve]
  rw [takeTag, if_pos rfl, hbare]
  exact takeTag_others h (some t)

/-- The tag may come first; the other members are then those of the record that it names. -/
theorem decode_tag (t : τ) (origin : Origin) {ms : List (String × Json)}
    (h : ∀ m ∈ ms, m.1 ≠ family.tag) :
    family.decode origin (.obj ((family.tag, .str (Named.name t)) :: ms)) =
      family.decodeAs t (.obj ms) := by
  change (family.takeTag _ none >>= fun taken => family.assemble taken.1 taken.2) = _
  rw [takeTag_tag t h]
  rfl

theorem readsMember_tag (t : τ) (levels : Nat) (layout : Layout) (depth : Nat)
    (others : List (String × Json)) :
    Scan.ReadsMember (family.readMember levels) layout depth (none, others)
      (family.tag, .str (Named.name t)) (some t, others) := by
  intro rest _
  have hbare : (Named.readBare '"').run (stringTail (Named.name t) ++ rest) = .ok (t, rest) := by
    simp [Named.readBare, Scan.run_string, Named.resolve, Scan.settle]
  have hquote : Scan.Starts '"' := by decide
  rw [Json.memberBody, List.append_assoc, List.append_assoc, readMember, Scan.run_bind,
    Scan.run_string]
  simp only [if_true, Option.isSome_none, Bool.false_eq_true, if_false, Json.chars, stringChars_eq,
    List.cons_append]
  rw [Scan.run_colon_next hquote, Scan.run_bind, hbare]
  rfl

/-- All members but the tag are kept as trees. -/
theorem follows_others {ms : List (String × Json)} (hms : Json.MembersFloatFree ms) {levels : Nat}
    (hdepth : Json.membersDepth ms ≤ levels) (hne : ∀ m ∈ ms, m.1 ≠ family.tag) (layout : Layout)
    (depth : Nat) (tag : Option τ) (others : List (String × Json)) :
    Json.Follows (Scan.ReadsMember (family.readMember levels) layout depth) (tag, others) ms
      (tag, ms.reverse ++ others) := by
  induction ms generalizing others with
  | nil => rfl
  | cons m ms ih =>
    obtain ⟨name, j⟩ := m
    have hname : name ≠ family.tag := hne (name, j) (by simp)
    obtain ⟨hlevel, hdepth⟩ := Nat.max_le.1 hdepth
    have hj := Scan.readsTree_json layout j hms.1 levels depth hlevel
    have hrest := ih hms.2 hdepth (fun m hm => hne m (by simp [hm])) ((name, j) :: others)
    refine ⟨(tag, (name, j) :: others), ?_, by simpa using hrest⟩
    intro rest hends
    obtain ⟨c, cs, hchars, hc, hrun⟩ := hj rest hends
    rw [Json.memberBody, List.append_assoc, List.append_assoc, readMember, Scan.run_bind,
      Scan.run_string]
    simp only [if_neg hname, hchars, List.cons_append]
    rw [Scan.run_colon_next hc, Scan.run_bind, hrun]
    rfl

end Family

/-- A tagged record comes back when the values of its fields do, if no field is called like the
tag. -/
theorem Codec.Returns.tagged {τ : Type} [Named τ] [DecidableEq τ] {family : Family τ}
    {a : family.Member} (hnames : (family.tag :: (family.shape a.1).fields.names).Nodup)
    (h : (family.shape a.1).fields.Returns ((family.shape a.1).unmake a.2)) :
    (Codec.tagged family).Returns a := by
  obtain ⟨htag, hnames⟩ := List.nodup_cons.1 hnames
  have hrecord : (Codec.record (family.shape a.1)).Returns a.2 := .record hnames h
  have hmembers : ∀ m ∈ (family.shape a.1).members a.2, m.1 ≠ family.tag := by
    intro m hm heq
    rw [← heq] at htag
    exact htag (h.stands.mem_names m hm)
  have hassemble : family.decodeAs a.1 (.obj ((family.shape a.1).members a.2)) = .ok a := by
    have hdecode := hrecord.decode .readAhead
    change (family.shape a.1).decode .readAhead (.obj ((family.shape a.1).members a.2)) = _
      at hdecode
    rw [Family.decodeAs, hdecode]
    rfl
  constructor
  · intro origin
    exact (Family.decode_tag a.1 origin hmembers).trans hassemble
  · exact ⟨trivial, hrecord.floatFree⟩
  · intro levels layout depth hdepth rest _
    apply Scan.reads_of_run (Json.chars_obj layout depth _) (by decide)
    cases levels with
    | zero => exact absurd hdepth (Nat.not_succ_le_zero _)
    | succ levels =>
      have hothers := Nat.le_trans (Nat.le_max_right _ _) (Nat.le_of_succ_le_succ hdepth)
      have hfollows : Json.Follows (Scan.ReadsMember (family.readMember levels) layout (depth + 1))
          (none, []) ((family.tag, .str (Named.name a.1)) :: (family.shape a.1).members a.2)
          (some a.1, ((family.shape a.1).members a.2).reverse ++ []) :=
        ⟨(some a.1, []), Family.readsMember_tag a.1 levels layout (depth + 1) [],
          Family.follows_others hrecord.floatFree hothers hmembers layout (depth + 1) _ []⟩
      apply Scan.run_object hfollows
      simpa [Family.assemble] using hassemble

end JobReport
