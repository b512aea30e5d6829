import Mathlib.Logic.Relation
import JobReport.Proofs.Record.Members

/-!
# Edits that a record is read through

One record may be presented in many ways: with its members in another order, beside members that
no field asks for, with trees that say no more than leaving their fields out. An edit is one such
change, made to one record at any depth outside documents. Trees that differ by edits are read as
the same value, or none of them is read, if the fields of the records take what says nothing for
what stands for them where they are left out.
-/

set_option autoImplicit false

namespace JobReport

namespace Codec

variable {α β : Type}

/-- The tree that says least of a type: null where that is a value, or else the empty list where
that is one. -/
inductive Idle (c : Codec α) : Json → Prop
  | null {a : α} (h : c.decode .given .null = .ok a) : c.Idle .null
  | emptyList {a : α} (h : c.decode .given (.arr []) = .ok a) (hencode : c.encode a = .arr [])
      (hnull : ∀ b, c.decode .given .null ≠ .ok b) : c.Idle (.arr [])

theorem idle_option (c : Codec α) : c.option.Idle .null := .null (a := none) rfl

theorem idle_list (c : Codec α) : c.list.Idle (.arr []) := .emptyList (a := []) rfl rfl nofun

theorem idle_document : document.Idle .null := .null (a := .null) rfl

/-- Whether no value is null or the empty list. -/
structure Solid (c : Codec α) : Prop where
  decode_null : ∀ a, c.decode .given .null ≠ .ok a
  encode_ne : ∀ a, c.encode a ≠ .arr []

theorem Solid.not_idle {c : Codec α} (h : c.Solid) (j : Json) : ¬c.Idle j := by
  rintro (hnull | ⟨_, hencode, _⟩)
  · exact h.decode_null _ hnull
  · exact h.encode_ne _ hencode

theorem Solid.string : Codec.string.Solid := ⟨nofun, nofun⟩

theorem Solid.integer [BEq α] {wanted : String} {wide : α → WideInt} {narrow : Int → Option α} :
    (Codec.integer wanted wide narrow).Solid := ⟨nofun, nofun⟩

theorem Solid.named [Named α] : (Codec.named α).Solid := ⟨nofun, nofun⟩

theorem Solid.record {shape : Shape α} : (Codec.record shape).Solid := ⟨nofun, nofun⟩

theorem Solid.tagged {τ : Type} [Named τ] [DecidableEq τ] {family : Family τ} :
    (Codec.tagged family).Solid := ⟨nofun, nofun⟩

theorem Solid.convert {c : Codec α} (h : c.Solid) {make : α → β} {unmake : β → α} :
    (c.convert make unmake).Solid where
  decode_null b hb := by
    obtain ⟨a, ha, _⟩ := except_map_ok_iff.1 hb
    exact h.decode_null a ha
  encode_ne b := h.encode_ne (unmake b)

end Codec

namespace Field

variable {α : Type} {name : String}

/-- Whether a field takes what says least for what stands for it where it is left out. -/
def Lenient (f : Field α) : Prop :=
  ∀ j, f.codec.Idle j → ∃ a, f.absence.value? = some a ∧ ∀ origin, f.codec.decode origin j = .ok a

theorem Lenient.required {c : Codec α} (h : c.Solid) : (Field.required name c).Lenient :=
  fun j hj => absurd hj (h.not_idle j)

theorem Lenient.of_null {f : Field α} {a : α} (hvalue : f.absence.value? = some a)
    (hdecode : ∀ origin, f.codec.decode origin .null = .ok a) : f.Lenient := by
  rintro j (_ | ⟨_, _, hnull⟩)
  · exact ⟨a, hvalue, hdecode⟩
  · exact absurd (hdecode .given) (hnull a)

theorem Lenient.optional {c : Codec α} : (Field.optional name c).Lenient :=
  .of_null rfl fun _ => rfl

theorem Lenient.sparse {c : Codec α} : (Field.sparse name c).Lenient := .of_null rfl fun _ => rfl

theorem Lenient.document : (Field.withDefault name .document .null).Lenient :=
  .of_null rfl fun _ => rfl

theorem Lenient.list {c : Codec α} : (Field.withDefault name c.list []).Lenient := by
  rintro j (hnull | _)
  · cases hnull
  · exact ⟨[], rfl, fun _ => rfl⟩

theorem Lenient.decode_ok_iff {f : Field α} (h : f.Lenient) {j : Json} (hj : f.codec.Idle j)
    (origin : Origin) (a : α) : f.codec.decode origin j = .ok a ↔ f.absence.value? = some a := by
  obtain ⟨b, hvalue, hdecode⟩ := h j hj
  rw [hdecode, hvalue, Except.ok.injEq, Option.some.injEq]

end Field

/-- Whether every field is lenient. -/
def Fields.Lenient : {ts : List Type} → Fields ts → Prop
  | _, .nil => True
  | _, .cons f fs => f.Lenient ∧ fs.Lenient

theorem Fields.Has.lenient {α : Type} {f : Field α} {ts : List Type} {fs : Fields ts}
    (hf : fs.Has f) (h : fs.Lenient) : f.Lenient := by
  induction hf with
  | here => exact h.1
  | later _ _ _ ih => exact ih h.2

/-- One change in how a value is presented, by which a record of some kinds may also get or lose a
member that says nothing. A record may get its members in another order or a member that is not
its own; a member may so be added at any place. In a tagged record the tag may stand anywhere, and
the record that it names is changed like any other. -/
inductive Edit (kinds : (α : Type) → Shape α → Prop) : {α : Type} → Codec α → Json → Json → Prop
  | reordered {α : Type} {shape : Shape α} {ms ms' : List (String × Json)} (h : ms.Perm ms') :
      Edit kinds (.record shape) (.obj ms) (.obj ms')
  | unknown {α : Type} {shape : Shape α} {name : String} (j : Json) (ms : List (String × Json))
      (h : name ∉ shape.fields.names) :
      Edit kinds (.record shape) (.obj ms) (.obj ((name, j) :: ms))
  | idle {α β : Type} {shape : Shape α} (hshape : kinds α shape) {f : Field β}
      (hf : shape.fields.Has f) {j : Json} (hj : f.codec.Idle j) (ms : List (String × Json))
      (hms : ∀ m ∈ ms, m.1 ≠ f.name) :
      Edit kinds (.record shape) (.obj ms) (.obj ((f.name, j) :: ms))
  | member {α β : Type} {shape : Shape α} {f : Field β} (hf : shape.fields.Has f)
      (before after : List (String × Json)) {j j' : Json} (h : Edit kinds f.codec j j') :
      Edit kinds (.record shape) (.obj (before ++ (f.name, j) :: after))
        (.obj (before ++ (f.name, j') :: after))
  | element {α : Type} {c : Codec α} (before after : List Json) {j j' : Json}
      (h : Edit kinds c j j') :
      Edit kinds c.list (.arr (before ++ j :: after)) (.arr (before ++ j' :: after))
  | present {α : Type} {c : Codec α} {j j' : Json} (h : Edit kinds c j j') :
      Edit kinds c.option j j'
  | converted {α β : Type} {c : Codec α} {make : α → β} {unmake : β → α} {j j' : Json}
      (h : Edit kinds c j j') : Edit kinds (c.convert make unmake) j j'
  | retagged {τ : Type} [Named τ] [DecidableEq τ] {family : Family τ}
      {ms ms' : List (String × Json)} (h : ms.Perm ms') :
      Edit kinds (.tagged family) (.obj ms) (.obj ms')
  | named {τ : Type} [Named τ] [DecidableEq τ] {family : Family τ} (t : τ)
      {ms ms' : List (String × Json)}
      (h : Edit kinds (.record (family.shape t)) (.obj ms) (.obj ms'))
      (hms : ∀ m ∈ ms, m.1 ≠ family.tag) (hms' : ∀ m ∈ ms', m.1 ≠ family.tag) :
      Edit kinds (.tagged family) (.obj ((family.tag, .str (Named.name t)) :: ms))
        (.obj ((family.tag, .str (Named.name t)) :: ms'))

namespace Edit

variable {kinds : (α : Type) → Shape α → Prop} {α : Type} {c : Codec α} {j j' : Json}

/-- What is edited is an object or a list. -/
theorem ne_null (h : Edit kinds c j j') : j ≠ .null ∧ j' ≠ .null := by
  induction h with
  | present _ ih | converted _ ih => exact ih
  | reordered | unknown | idle | member | element | retagged | named => exact ⟨nofun, nofun⟩

/-- An edit changes nothing of what is read. -/
theorem decode_ok_iff
    (hkinds : ∀ {β : Type} {shape : Shape β}, kinds β shape → shape.fields.Lenient)
    (h : Edit kinds c j j') (origin : Origin) (a : α) :
    c.decode origin j = .ok a ↔ c.decode origin j' = .ok a := by
  induction h generalizing origin with
  | reordered h =>
    apply Shape.decode_obj_ok_congr
    intro row
    exact Fields.accepts_perm_iff h
  | unknown j ms h =>
    apply Shape.decode_obj_ok_congr
    intro row
    exact (Fields.accepts_unknown_iff h).symm
  | idle hshape hf hj ms hms =>
    have hvalue := (hf.lenient (hkinds hshape)).decode_ok_iff hj origin
    apply Shape.decode_obj_ok_congr
    intro row
    exact (hf.accepts_idle_iff hvalue hms).symm
  | member hf before after _ ih =>
    apply Shape.decode_obj_ok_congr
    intro row
    rw [Fields.accepts_perm_iff List.perm_middle, hf.accepts_member_iff (ih origin),
      Fields.accepts_perm_iff List.perm_middle]
  | element before after _ ih =>
    simp only [Codec.list, List.mapM_append, List.mapM_cons, except_bind_ok_iff, ih origin]
  | present h ih =>
    rw [Codec.option_decode _ origin h.ne_null.1, Codec.option_decode _ origin h.ne_null.2]
    simp only [except_map_ok_iff, ih origin]
  | converted _ ih => simp only [Codec.convert, except_map_ok_iff, ih origin]
  | retagged h =>
    exact ⟨Family.decode_obj_perm origin h, Family.decode_obj_perm origin h.symm⟩
  | named t _ hms hms' ih =>
    refine (Eq.congr_left (Family.decode_tag t origin hms)).trans
      (Iff.trans ?_ (Eq.congr_left (Family.decode_tag t origin hms')).symm)
    simp only [Family.decodeAs, except_bind_ok_iff]
    exact exists_congr fun b => and_congr_left' (ih .readAhead b)

/-- Nor do any number of edits, made or undone. -/
theorem decode_ok_iff_of_eqvGen
    (hkinds : ∀ {β : Type} {shape : Shape β}, kinds β shape → shape.fields.Lenient)
    (h : Relation.EqvGen (Edit kinds c) j j') (origin : Origin) (a : α) :
    c.decode origin j = .ok a ↔ c.decode origin j' = .ok a := by
  induction h with
  | rel _ _ h => exact h.decode_ok_iff hkinds origin a
  | refl => exact Iff.rfl
  | symm _ _ _ ih => exact ih.symm
  | trans _ _ _ _ _ ih ih' => exact ih.trans ih'

end Edit

end JobReport
