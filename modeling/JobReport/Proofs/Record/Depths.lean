import JobReport.Proofs.Record.Returns
import JobReport.Record.Tagged

/-!
# How deep a value is written

A value is written no deeper than the tree or the text it was read from, except for what its type
adds by itself: a record that left a list out is written with an empty one. So a value that was
read within a large enough bound on the nesting is also written within it.
-/

set_option autoImplicit false

namespace JobReport

namespace Codec

variable {α β : Type} {b n : Nat}

/-- Whether values are written no deeper than they were read, or than a bound. -/
structure Bounded (c : Codec α) (b : Nat) : Prop where
  decode : ∀ origin j a, c.decode origin j = .ok a → (c.encode a).depth ≤ max j.depth b
  read : ∀ levels first,
    Scan.Yields (c.read levels first) fun a => (c.encode a).depth ≤ max levels b

theorem Bounded.parse {c : Codec α} (h : c.Bounded b) (hb : b ≤ nestingLimit) {text : String}
    {a : α} (ha : c.parse text = .ok a) : (c.encode a).depth ≤ nestingLimit := by
  have hdepth := Scan.whole_of_yields (h.read nestingLimit) ha
  rwa [Nat.max_eq_left hb] at hdepth

theorem Bounded.mono {c : Codec α} (h : c.Bounded b) (hb : b ≤ n) : c.Bounded n where
  decode origin j a ha := by
    have := h.decode origin j a ha
    omega
  read levels first := (h.read levels first).mono fun a ha => by omega

/-- A type whose values are all written as scalars. -/
theorem Bounded.of_scalar {c : Codec α} (h : ∀ a, (c.encode a).depth = 0) : c.Bounded b where
  decode origin j a _ := by
    rw [h a]
    exact Nat.zero_le _
  read levels first := Scan.yields_any.mono fun a _ => by
    rw [h a]
    exact Nat.zero_le _

theorem Bounded.bool : Codec.bool.Bounded b := .of_scalar fun _ => rfl

theorem Bounded.string : Codec.string.Bounded b := .of_scalar fun _ => rfl

theorem Bounded.path : Codec.path.Bounded b := .of_scalar fun _ => rfl

theorem Bounded.uuid : Codec.uuid.Bounded b := .of_scalar fun _ => rfl

theorem Bounded.integer [BEq α] {wanted : String} {wide : α → WideInt} {narrow : Int → Option α} :
    (Codec.integer wanted wide narrow).Bounded b :=
  .of_scalar fun _ => rfl

theorem Bounded.named [Named α] : (Codec.named α).Bounded b := .of_scalar fun _ => rfl

theorem Bounded.document : Codec.document.Bounded b where
  decode origin j d h := by
    cases h
    exact Nat.le_trans (Json.depth_ordered_le j) (Nat.le_max_left _ _)
  read levels first := by
    apply Scan.yields_bind (Scan.yields_json levels first)
    intro j hj
    apply Scan.yields_pure
    exact Nat.le_trans (Json.depth_ordered_le j) (Nat.le_trans hj (Nat.le_max_left _ _))

theorem Bounded.option {c : Codec α} (h : c.Bounded b) : c.option.Bounded b where
  decode origin j o ho := by
    by_cases hj : j = .null
    · subst hj
      cases ho
      exact Nat.zero_le _
    · rw [option_decode c origin hj, except_map_ok_iff] at ho
      obtain ⟨a, ha, rfl⟩ := ho
      exact h.decode origin j a ha
  read levels first := by
    apply Scan.yields_ite
    · intro _
      exact Scan.yields_after fun _ => Scan.yields_pure (Nat.zero_le _)
    · intro _
      exact Scan.yields_bind (h.read levels first) fun a ha => Scan.yields_pure ha

theorem Bounded.list {c : Codec α} (h : c.Bounded b) : c.list.Bounded (b + 1) where
  decode origin j as has := by
    cases j with
    | arr js =>
      have hall : List.Forall₂ (fun j a => c.decode origin j = .ok a) js as :=
        list_mapM_ok_iff.1 has
      change Json.itemsDepth (as.map c.encode) + 1 ≤ max (Json.itemsDepth js + 1) (b + 1)
      suffices hitems : Json.itemsDepth (as.map c.encode) ≤ max (Json.itemsDepth js) b by omega
      clear has
      induction hall with
      | nil => exact Nat.zero_le _
      | cons ha _ ih =>
        have := h.decode origin _ _ ha
        simp only [List.map_cons, Json.itemsDepth]
        omega
    | null | bool _ | int _ | float _ | str _ | obj _ => cases has
  read levels first := by
    apply Scan.yields_ite
    · intro _
      apply Scan.yields_nested
      intro below hlevels
      apply (Scan.yields_list (h.read below)).mono
      intro as has
      have hitems : Json.itemsDepth (as.map c.encode) ≤ max below b := by
        apply Json.itemsDepth_le_iff.2
        intro j hj
        obtain ⟨a, ha, rfl⟩ := List.mem_map.1 hj
        exact has a ha
      change Json.itemsDepth (as.map c.encode) + 1 ≤ max levels (b + 1)
      omega
    · intro _
      exact Scan.yields_reject _ _

theorem Bounded.convert {c : Codec α} {make : α → β} {unmake : β → α} (h : c.Bounded b)
    (hmake : ∀ a, unmake (make a) = a) : (c.convert make unmake).Bounded b where
  decode origin j x hx := by
    obtain ⟨a, ha, rfl⟩ := except_map_ok_iff.1 hx
    have hdepth := h.decode origin j a ha
    rwa [← hmake a] at hdepth
  read levels first := by
    apply Scan.yields_bind (h.read levels first)
    intro a ha
    apply Scan.yields_pure
    rwa [← hmake a] at ha

end Codec

namespace Field

variable {α : Type} {name : String} {c : Codec α} {b : Nat}

/-- Whether the values of a field, read or taken where it is left out, are written no deeper than
they were read, or than a bound. -/
structure Bounded (f : Field α) (b : Nat) : Prop where
  codec : f.codec.Bounded b
  absence : ∀ a ∈ f.absence.value?, (f.codec.encode a).depth ≤ b

theorem Bounded.required (h : c.Bounded b) : (Field.required name c).Bounded b :=
  ⟨h, nofun⟩

theorem Bounded.withDefault {a : α} (h : c.Bounded b) (ha : (c.encode a).depth ≤ b) :
    (Field.withDefault name c a).Bounded b := by
  constructor
  · exact h
  · intro a' ha'
    cases ha'
    exact ha

theorem Bounded.optional (h : c.Bounded b) : (Field.optional name c).Bounded b :=
  .withDefault h.option (Nat.zero_le _)

theorem Bounded.sparse (h : c.Bounded b) : (Field.sparse name c).Bounded b := by
  constructor
  · exact h.option
  · intro a ha
    cases ha
    exact Nat.zero_le _

end Field

namespace Fields

/-- Whether all fields are bounded. -/
def Bounded (b : Nat) : {ts : List Type} → Fields ts → Prop
  | _, .nil => True
  | _, .cons f fs => f.Bounded b ∧ fs.Bounded b

/-- Whether the values of a row are written no deeper than this. -/
def RowWithin (n : Nat) : {ts : List Type} → Fields ts → Row ts → Prop
  | _, .nil, _ => True
  | _, .cons f fs, (a, row) => (f.codec.encode a).depth ≤ n ∧ fs.RowWithin n row

/-- Whether the values read so far are written no deeper than this. -/
def SlotsWithin (n : Nat) : {ts : List Type} → Fields ts → Slots ts → Prop
  | _, .nil, _ => True
  | _, .cons f fs, (slot, slots) =>
    (∀ a ∈ slot, (f.codec.encode a).depth ≤ n) ∧ fs.SlotsWithin n slots

variable {ts : List Type} {fs : Fields ts} {b n : Nat}

theorem membersDepth_encode {row : Row ts} (h : fs.RowWithin n row) :
    Json.membersDepth (fs.encode row) ≤ n := by
  induction fs with
  | nil => exact Nat.zero_le _
  | cons f fs ih =>
    obtain ⟨a, row⟩ := row
    rw [encode]
    split
    · exact ih h.2
    · exact Nat.max_le.2 ⟨h.1, ih h.2⟩

theorem slotsWithin_empty : fs.SlotsWithin n (Slots.empty ts) := by
  induction fs with
  | nil => trivial
  | cons f fs ih => exact ⟨nofun, ih⟩

theorem rowWithin_finish {slots : Slots ts} {row : Row ts} (hfs : fs.Bounded b) (hb : b ≤ n)
    (hslots : fs.SlotsWithin n slots) (h : fs.finish slots = .ok row) : fs.RowWithin n row := by
  induction fs with
  | nil => trivial
  | cons f fs ih =>
    obtain ⟨slot, slots⟩ := slots
    rw [finish] at h
    cases hvalue : slot.or f.absence.value? with
    | none =>
      rw [hvalue] at h
      cases h
    | some a =>
      rw [hvalue] at h
      obtain ⟨_, ⟨⟩, h⟩ := except_bind_ok_iff.1 h
      obtain ⟨row', hrow, h⟩ := except_bind_ok_iff.1 h
      cases h
      constructor
      · rcases Option.or_eq_some_iff.1 hvalue with hslot | ⟨_, habsent⟩
        · exact hslots.1 a hslot
        · exact Nat.le_trans (hfs.1.absence a habsent) hb
      · exact ih hfs.2 hslots.2 hrow

theorem slotsWithin_place {origin : Origin} {name : String} {j : Json} {before after : Slots ts}
    (hfs : fs.Bounded b) (hb : b ≤ n) (hj : j.depth ≤ n) (hbefore : fs.SlotsWithin n before)
    (h : fs.place .error (fun c => c.decode origin j) name before =
      some (Except.ok after : Except Mismatch (Slots ts))) : fs.SlotsWithin n after := by
  induction fs with
  | nil => cases h
  | cons f fs ih =>
    obtain ⟨slot, slots⟩ := before
    simp only [place] at h
    split at h
    · cases slot with
      | some a => cases h
      | none =>
        obtain ⟨a, ha, h⟩ := except_bind_ok_iff.1 (Option.some.inj h)
        cases h
        have hdepth := hfs.1.codec.decode origin j a ha
        constructor
        · intro a' ha'
          cases ha'
          omega
        · exact hbefore.2
    · obtain ⟨filled, hfilled, h⟩ := Option.map_eq_some_iff.1 h
      obtain ⟨slots', hslots', h⟩ := except_bind_ok_iff.1 h
      cases h
      rw [hslots'] at hfilled
      exact ⟨hbefore.1, ih hfs.2 hbefore.2 hfilled⟩

theorem rowWithin_decodeMembers {origin : Origin} {ms : List (String × Json)} {slots : Slots ts}
    {row : Row ts} (hfs : fs.Bounded b) (hb : b ≤ n) (hms : Json.membersDepth ms ≤ n)
    (hslots : fs.SlotsWithin n slots) (h : fs.decodeMembers origin ms slots = .ok row) :
    fs.RowWithin n row := by
  induction ms generalizing slots with
  | nil => exact rowWithin_finish hfs hb hslots h
  | cons m ms ih =>
    obtain ⟨name, j⟩ := m
    obtain ⟨hj, hms⟩ := Nat.max_le.1 hms
    rw [decodeMembers] at h
    split at h
    · exact ih hms hslots h
    · rename_i filled hplace
      obtain ⟨after, hafter, h⟩ := except_bind_ok_iff.1 h
      rw [hafter] at hplace
      exact ih hms (slotsWithin_place hfs hb hj hslots hplace) h

theorem absentInArray_ok {α : Type} {wanted : String} {index : Nat} {f : Field α} {a : α}
    (h : absentInArray wanted index f = .ok a) : f.absence.value? = some a := by
  unfold absentInArray at h
  split at h
  · rename_i a' habsence
    cases h
    rw [habsence]
    rfl
  · cases h

theorem rowWithin_decodeItems {origin : Origin} {wanted : String} {index : Nat}
    {js left : List Json} {row : Row ts} (hfs : fs.Bounded b) (hb : b ≤ n)
    (hjs : Json.itemsDepth js ≤ n)
    (h : fs.decodeItems origin wanted index js = .ok (row, left)) : fs.RowWithin n row := by
  induction fs generalizing index js left with
  | nil => trivial
  | cons f fs ih =>
    cases js with
    | nil =>
      rw [decodeItems] at h
      obtain ⟨a, ha, h⟩ := except_bind_ok_iff.1 h
      obtain ⟨⟨row', left'⟩, hrow, h⟩ := except_bind_ok_iff.1 h
      cases h
      exact ⟨Nat.le_trans (hfs.1.absence a (absentInArray_ok ha)) hb, ih hfs.2 hjs hrow⟩
    | cons j js =>
      obtain ⟨hj, hjs⟩ := Nat.max_le.1 hjs
      rw [decodeItems] at h
      obtain ⟨a, ha, h⟩ := except_bind_ok_iff.1 h
      obtain ⟨⟨row', left'⟩, hrow, h⟩ := except_bind_ok_iff.1 h
      cases h
      have hdepth := hfs.1.codec.decode origin j a ha
      exact ⟨by omega, ih hfs.2 hjs hrow⟩

theorem yields_place {levels : Nat} {name : String} {before : Slots ts} {filled : Scan (Slots ts)}
    (hfs : fs.Bounded b) (hbefore : fs.SlotsWithin (max levels b) before)
    (h : fs.place Scan.mismatch (readMember.value levels) name before = some filled) :
    Scan.Yields filled (fs.SlotsWithin (max levels b)) := by
  induction fs with
  | nil => cases h
  | cons f fs ih =>
    obtain ⟨slot, slots⟩ := before
    simp only [place] at h
    split at h
    · cases slot with
      | some a =>
        cases h
        exact Scan.yields_mismatch _
      | none =>
        cases h
        have hvalue : Scan.Yields (readMember.value levels f.codec) fun a =>
            (f.codec.encode a).depth ≤ max levels b :=
          Scan.yields_after fun _ => Scan.yields_after fun c => hfs.1.codec.read levels c
        apply Scan.yields_bind hvalue
        intro a ha
        apply Scan.yields_pure
        constructor
        · intro a' ha'
          cases ha'
          exact ha
        · exact hbefore.2
    · obtain ⟨filled', hfilled, h⟩ := Option.map_eq_some_iff.1 h
      cases h
      apply Scan.yields_bind (ih hfs.2 hbefore.2 hfilled)
      intro slots' hslots'
      exact Scan.yields_pure ⟨hbefore.1, hslots'⟩

theorem yields_readMember {levels : Nat} {before : Slots ts} (hfs : fs.Bounded b)
    (hbefore : fs.SlotsWithin (max levels b) before) :
    Scan.Yields (fs.readMember levels before) (fs.SlotsWithin (max levels b)) := by
  apply Scan.yields_after
  intro name
  split
  · rename_i filled hplace
    exact yields_place hfs hbefore hplace
  · -- The value of a member without a field is passed over.
    exact Scan.yields_after fun _ => Scan.yields_after fun c => Scan.yields_after fun _ =>
      Scan.yields_pure hbefore

theorem yields_readItems (levels : Nat) (wanted : String) (index : Nat) (hfs : fs.Bounded b) :
    Scan.Yields (fs.readItems levels wanted index) (fs.RowWithin (max levels b)) := by
  induction fs generalizing index with
  | nil => exact Scan.yields_pure trivial
  | cons f fs ih =>
    have hrow : ∀ a, (f.codec.encode a).depth ≤ max levels b →
        Scan.Yields (do let row ← fs.readItems levels wanted (index + 1); pure (a, row))
          ((Fields.cons f fs).RowWithin (max levels b)) := by
      intro a ha
      apply Scan.yields_bind (ih (index + 1) hfs.2)
      intro row hrow
      exact Scan.yields_pure ⟨ha, hrow⟩
    have habsent : ∀ a, absentInArray wanted index f = .ok a →
        (f.codec.encode a).depth ≤ max levels b := by
      intro a ha
      exact Nat.le_trans (hfs.1.absence a (absentInArray_ok ha)) (Nat.le_max_right _ _)
    apply Scan.yields_after
    intro first
    cases first with
    | some c => exact Scan.yields_bind (hfs.1.codec.read levels c) hrow
    | none => exact Scan.yields_bind (Scan.yields_settle habsent) hrow

end Fields

namespace Codec

variable {α : Type} {b : Nat}

theorem depth_record {shape : Shape α} {row : Row shape.types} {n : Nat}
    (h : shape.fields.RowWithin n row) (hmake : ∀ row, shape.unmake (shape.make row) = row) :
    ((Codec.record shape).encode (shape.make row)).depth ≤ n + 1 := by
  change Json.membersDepth (shape.fields.encode (shape.unmake (shape.make row))) + 1 ≤ n + 1
  rw [hmake]
  exact Nat.succ_le_succ (Fields.membersDepth_encode h)

theorem Bounded.record {shape : Shape α} (hmake : ∀ row, shape.unmake (shape.make row) = row)
    (hfs : shape.fields.Bounded b) : (Codec.record shape).Bounded (b + 1) where
  decode origin j a h := by
    cases j with
    | obj ms =>
      obtain ⟨row, hrow, rfl⟩ := except_map_ok_iff.1 h
      have hwithin := Fields.rowWithin_decodeMembers hfs (Nat.le_max_right _ _)
        (Nat.le_max_left (Json.membersDepth ms) b) Fields.slotsWithin_empty hrow
      have hdepth := depth_record hwithin hmake
      simp only [Json.depth]
      omega
    | arr js =>
      obtain ⟨⟨row, left⟩, hrow, h⟩ := except_bind_ok_iff.1 h
      have hwithin := Fields.rowWithin_decodeItems hfs (Nat.le_max_right _ _)
        (Nat.le_max_left (Json.itemsDepth js) b) hrow
      have hdepth := depth_record hwithin hmake
      change (if left.isEmpty then Except.ok (shape.make row) else _) = _ at h
      split at h
      · cases h
        simp only [Json.depth]
        omega
      · cases h
    | null | bool _ | int _ | float _ | str _ => cases h
  read levels first := by
    apply Scan.yields_ite
    · intro _
      apply Scan.yields_nested
      intro below hlevels
      apply Scan.yields_bind (Fields.yields_readItems below _ 0 hfs)
      intro row hrow
      have hdepth := depth_record hrow hmake
      exact Scan.yields_after fun _ => Scan.yields_pure (by omega)
    intro _
    apply Scan.yields_ite
    · intro _
      apply Scan.yields_nested
      intro below hlevels
      apply Scan.yields_object (fun before => Fields.yields_readMember hfs) _
        Fields.slotsWithin_empty
      intro slots a hslots ha
      obtain ⟨row, hrow, rfl⟩ := except_map_ok_iff.1 ha
      have hdepth :=
        depth_record (Fields.rowWithin_finish hfs (Nat.le_max_right _ _) hslots hrow) hmake
      omega
    · intro _
      exact Scan.yields_reject _ _

end Codec

namespace Family

variable {τ : Type} [Named τ] {family : Family τ} {b n : Nat}

theorem membersDepth_takeTag {ms others : List (String × Json)} {tag tag' : Option τ}
    (h : family.takeTag ms tag = .ok (tag', others)) :
    Json.membersDepth others ≤ Json.membersDepth ms := by
  induction ms generalizing tag others with
  | nil =>
    cases h
    exact Nat.le_refl _
  | cons m ms ih =>
    obtain ⟨name, j⟩ := m
    rw [takeTag] at h
    split at h
    · split at h
      · cases h
      · obtain ⟨t, _, h⟩ := except_bind_ok_iff.1 h
        exact Nat.le_trans (ih h) (Nat.le_max_right _ _)
    · obtain ⟨⟨tag'', others'⟩, hrest, h⟩ := except_bind_ok_iff.1 h
      cases h
      have := ih hrest
      simp only [Json.membersDepth]
      omega

/-- Whether the members of a family, their tag aside, are written no deeper than they were read. -/
def Bounded (family : Family τ) (b : Nat) : Prop :=
  ∀ t, (Codec.record (family.shape t)).Bounded b

theorem yields_readMember {levels : Nat} (before : Option τ × List (String × Json))
    (hbefore : Json.membersDepth before.2 ≤ levels) :
    Scan.Yields (family.readMember levels before) fun after =>
      Json.membersDepth after.2 ≤ levels := by
  apply Scan.yields_after
  intro name
  apply Scan.yields_ite
  · intro _
    apply Scan.yields_ite
    · intro _
      exact Scan.yields_mismatch _
    · intro _
      exact Scan.yields_after fun _ => Scan.yields_after fun c => Scan.yields_after fun t =>
        Scan.yields_pure hbefore
  · intro _
    apply Scan.yields_after
    intro _
    apply Scan.yields_after
    intro c
    apply Scan.yields_bind (Scan.yields_json levels c)
    intro j hj
    exact Scan.yields_pure (Nat.max_le.2 ⟨hj, hbefore⟩)

variable [DecidableEq τ]

theorem depth_decodeAs (hfamily : family.Bounded b) {t : τ} {j : Json} {a : family.Member}
    (hj : j.depth ≤ n) (h : family.decodeAs t j = .ok a) :
    ((Codec.tagged family).encode a).depth ≤ max n b := by
  obtain ⟨a', ha', h⟩ := except_bind_ok_iff.1 h
  cases h
  have hdepth := (hfamily t).decode .readAhead j a' ha'
  change Json.membersDepth ((family.shape t).members a') + 1 ≤ _ at hdepth
  change max 0 (Json.membersDepth ((family.shape t).members a')) + 1 ≤ _
  omega

theorem depth_assemble (hfamily : family.Bounded b) {tag : Option τ}
    {others : List (String × Json)} {a : family.Member} (hothers : Json.membersDepth others ≤ n)
    (h : family.assemble tag others = .ok a) :
    ((Codec.tagged family).encode a).depth ≤ max (n + 1) b := by
  cases tag with
  | some t => exact depth_decodeAs hfamily (Json.depth_obj_le hothers) h
  | none => cases h

theorem bounded_tagged (hfamily : family.Bounded b) : (Codec.tagged family).Bounded b where
  decode origin j a h := by
    cases j with
    | obj ms =>
      obtain ⟨⟨tag, others⟩, hothers, h⟩ := except_bind_ok_iff.1 h
      exact depth_assemble hfamily (membersDepth_takeTag hothers) h
    | arr js =>
      cases js with
      | nil => cases h
      | cons j js =>
        obtain ⟨t, _, h⟩ := except_bind_ok_iff.1 h
        exact depth_decodeAs hfamily (Json.depth_arr_le (Nat.le_max_right j.depth _)) h
    | null | bool _ | int _ | float _ | str _ => cases h
  read levels first := by
    apply Scan.yields_ite
    · intro _
      apply Scan.yields_nested
      rintro below rfl
      apply Scan.yields_after
      intro c
      apply Scan.yields_ite
      · intro _
        exact Scan.yields_mismatch _
      intro _
      apply Scan.yields_after
      intro t
      have hnone : ∀ j ∈ ([] : List Json), j.depth ≤ below := nofun
      apply Scan.yields_bind (Scan.yields_listFrom (Scan.yields_json below) false hnone)
      intro js hjs
      apply Scan.yields_settle
      intro a ha
      exact depth_decodeAs hfamily (Json.depth_arr_le (Json.itemsDepth_le_iff.2 hjs)) ha
    intro _
    apply Scan.yields_ite
    · intro _
      apply Scan.yields_nested
      rintro below rfl
      apply Scan.yields_object yields_readMember _ (Nat.zero_le _)
      intro before a hbefore ha
      apply depth_assemble hfamily _ ha
      apply Json.membersDepth_le_iff.2
      intro m hm
      exact Json.membersDepth_le_iff.1 hbefore m (List.mem_reverse.1 hm)
    · intro _
      exact Scan.yields_reject _ _

end Family

end JobReport
