import JobReport.Proofs.Json.Trees
import JobReport.Proofs.Traversal
import JobReport.Proofs.Uuid
import JobReport.Record.Named

/-!
# Values that come back

A tree stands for a value when it is decoded to it and each of its printed texts is read as it. A
value comes back when the tree it is written as stands for it. Codecs of scalars bring every value
back; those put together from other codecs bring back what is put together from values that come
back.
-/

set_option autoImplicit false

namespace JobReport

namespace Codec

variable {α β : Type}

/-- Whether a value is found in a tree and in the texts that the tree is printed as. -/
structure Stands (c : Codec α) (j : Json) (a : α) : Prop where
  decode : ∀ origin, c.decode origin j = .ok a
  floatFree : j.FloatFree
  read : ∀ levels layout depth, j.depth ≤ levels →
    Scan.ReadsTree (c.read levels) layout depth j a

/-- Whether a value is found again in the tree and in the texts it is written as. -/
structure Returns (c : Codec α) (a : α) : Prop where
  decode : ∀ origin, c.decode origin (c.encode a) = .ok a
  floatFree : (c.encode a).FloatFree
  read : ∀ levels layout depth, (c.encode a).depth ≤ levels →
    Scan.ReadsTree (c.read levels) layout depth (c.encode a) a

/-- Whether every value comes back, and none is written as null. -/
structure Faithful (c : Codec α) : Prop where
  returns : ∀ a, c.Returns a
  encode_ne : ∀ a, c.encode a ≠ .null

theorem Returns.stands {c : Codec α} {a : α} (h : c.Returns a) : c.Stands (c.encode a) a :=
  ⟨h.decode, h.floatFree, h.read⟩

theorem Stands.returns {c : Codec α} {a : α} (h : c.Stands (c.encode a) a) : c.Returns a :=
  ⟨h.decode, h.floatFree, h.read⟩

theorem Returns.parse_print {c : Codec α} {a : α} (h : c.Returns a)
    (hdepth : (c.encode a).depth ≤ nestingLimit) : c.parse (c.print a) = .ok a := by
  have hwhole := Scan.whole_of_readsTree (h.read nestingLimit .compact 0 hdepth) Scan.ends_nil rfl
  rwa [List.append_nil] at hwhole

theorem Returns.scalar {wanted : String} {encode : α → Json}
    {accept : Json → Option (Except Mismatch α)} {same : α → α → Bool} {a : α}
    (haccept : accept (encode a) = some (.ok a)) (hfloat : (encode a).FloatFree)
    (hdepth : (encode a).depth = 0) : (Codec.scalar wanted encode accept same).Returns a where
  decode origin := by simp [Codec.scalar, scalar.decode, haccept]
  floatFree := hfloat
  read levels layout depth _ := by
    intro rest hrest
    obtain ⟨c, cs, hchars, hc, hl, ho, hrun⟩ := Scan.scalar_of_readsTree
      (Scan.readsTree_json layout (encode a) hfloat 0 depth (Nat.le_of_eq hdepth)) hrest
    apply Scan.reads_of_run hchars hc
    simp [Codec.scalar, scalar.decode, hl, ho, hrun, haccept, Scan.settle]

theorem Faithful.bool : Codec.bool.Faithful :=
  ⟨fun _ => .scalar rfl trivial rfl, fun _ => nofun⟩

theorem Faithful.string : Codec.string.Faithful :=
  ⟨fun _ => .scalar rfl trivial rfl, fun _ => nofun⟩

theorem Faithful.path : Codec.path.Faithful :=
  ⟨fun _ => .scalar rfl trivial rfl, fun _ => nofun⟩

theorem Faithful.uuid : Codec.uuid.Faithful :=
  ⟨fun u => .scalar (by simp only [Uuid.parse?_text]) trivial rfl, fun _ => nofun⟩

theorem Faithful.integer [BEq α] {wanted : String} {wide : α → WideInt}
    {narrow : Int → Option α} (h : ∀ a, narrow (wide a).val = some a) :
    (Codec.integer wanted wide narrow).Faithful :=
  ⟨fun a => .scalar (by simp only [h a]) trivial rfl, fun _ => nofun⟩

theorem Faithful.int64 : Codec.int64.Faithful := by
  apply Faithful.integer
  intro n
  have hfits : -0x8000_0000_0000_0000 ≤ n.toInt ∧ n.toInt < 0x8000_0000_0000_0000 :=
    ⟨n.le_toInt, n.toInt_lt⟩
  rw [WideInt.ofInt64, if_pos hfits, Int64.ofInt_toInt]

theorem Faithful.int32 : Codec.int32.Faithful := by
  apply Faithful.integer
  intro n
  have hfits : -0x8000_0000 ≤ n.toInt ∧ n.toInt < 0x8000_0000 := ⟨n.le_toInt, n.toInt_lt⟩
  rw [WideInt.ofInt32, if_pos hfits, Int32.ofInt_toInt]

theorem Faithful.uint64 : Codec.uint64.Faithful := by
  apply Faithful.integer
  intro n
  have hfits : 0 ≤ (n.toNat : Int) ∧ (n.toNat : Int) < 0x1_0000_0000_0000_0000 :=
    ⟨by omega, by have := n.toNat_lt; omega⟩
  rw [WideInt.ofUInt64, narrowUInt64, if_pos hfits, Int.toNat_natCast, UInt64.ofNat_toNat]

theorem Faithful.named (α : Type) [Named α] : (Codec.named α).Faithful where
  returns a :=
    { decode := fun _ => by simp [Codec.named, Named.decode, Named.resolve]
      floatFree := trivial
      read := fun levels layout depth _ => by
        intro rest _
        apply Scan.reads_of_run (stringChars_eq (Named.name a)) (by decide)
        simp [Codec.named, Named.read, Scan.run_string, Named.resolve, Scan.settle] }
  encode_ne _ := nofun

theorem Returns.document {d : Document} (h : d.json.FloatFree) : Codec.document.Returns d where
  decode _ := by simp [Codec.document, Document.ofJson_json]
  floatFree := h
  read levels layout depth hdepth := by
    intro rest hrest
    obtain ⟨c, cs, hchars, hc, hrun⟩ := Scan.readsTree_json layout d.json h levels depth
      hdepth rest hrest
    apply Scan.reads_of_run hchars hc
    simp [Codec.document, hrun, Document.ofJson_json]

theorem option_decode (c : Codec α) (origin : Origin) {j : Json} (h : j ≠ .null) :
    c.option.decode origin j = (c.decode origin j).map some := by
  cases j with
  | null => exact absurd rfl h
  | bool _ | int _ | float _ | str _ | arr _ | obj _ => rfl

theorem Returns.absent {c : Codec α} : c.option.Returns none where
  decode _ := rfl
  floatFree := trivial
  read levels layout depth _ := by
    intro rest _
    have hword := Scan.run_word ['u', 'l', 'l'] rest
    apply Scan.reads_of_run (c := 'n') rfl (by decide)
    simp only [Codec.option, if_pos, Scan.run_bind, hword, Scan.run_pure]

/-- A tree that stands for a value, unless it is null, stands for the same value as one that may
not be there. -/
theorem Stands.present {c : Codec α} {j : Json} {a : α} (h : c.Stands j a) (hnull : j ≠ .null) :
    c.option.Stands j (some a) where
  decode origin := by
    rw [option_decode c origin hnull]
    exact congrArg (Except.map some) (h.decode origin)
  floatFree := h.floatFree
  read levels layout depth hdepth := by
    intro rest hrest
    obtain ⟨c', cs, hchars, hc, hrun⟩ := h.read levels layout depth hdepth rest hrest
    have hn := Scan.ne_of_chars_eq_cons h.floatFree hnull hchars
    apply Scan.reads_of_run hchars hc
    simp [Codec.option, hn, hrun]

theorem Returns.present {c : Codec α} {a : α} (h : c.Returns a) (hnull : c.encode a ≠ .null) :
    c.option.Returns (some a) :=
  (h.stands.present hnull).returns

/-- A value that is there comes back, and is not taken for one that is not. -/
theorem Returns.option {c : Codec α} {o : Option α}
    (h : ∀ a ∈ o, c.Returns a ∧ c.encode a ≠ .null) : c.option.Returns o := by
  cases o with
  | none => exact .absent
  | some a => exact .present (h a rfl).1 (h a rfl).2

theorem Faithful.option {c : Codec α} (h : c.Faithful) (o : Option α) : c.option.Returns o :=
  .option fun a _ => ⟨h.returns a, h.encode_ne a⟩

theorem Stands.list {c : Codec α} {js : List Json} {as : List α}
    (h : List.Forall₂ c.Stands js as) : c.list.Stands (.arr js) as where
  decode origin := by
    change js.mapM (c.decode origin) = .ok as
    rw [list_mapM_ok_iff]
    exact h.imp fun _ _ hj => hj.decode origin
  floatFree := by
    apply (Json.itemsFloatFree_iff _).2
    induction h with
    | nil => nofun
    | cons hj _ ih => exact List.forall_mem_cons.2 ⟨hj.floatFree, ih⟩
  read levels layout depth hdepth := by
    intro rest _
    apply Scan.reads_of_run (Json.chars_arr layout depth js) (by decide)
    cases levels with
    | zero => exact absurd hdepth (Nat.not_succ_le_zero _)
    | succ levels =>
      have hitems := Nat.le_of_succ_le_succ hdepth
      clear hdepth
      apply Scan.run_list
      induction h with
      | nil => exact .nil
      | cons hj _ ih =>
        obtain ⟨hfirst, hitems⟩ := Nat.max_le.1 hitems
        exact .cons (hj.read levels layout _ hfirst) (ih hitems)

theorem Returns.list {c : Codec α} {as : List α} (h : ∀ a ∈ as, c.Returns a) :
    c.list.Returns as := by
  apply Stands.returns
  apply Stands.list
  rw [List.forall₂_map_left_iff, List.forall₂_same]
  exact fun a ha => (h a ha).stands

theorem Faithful.list {c : Codec α} (h : c.Faithful) : c.list.Faithful :=
  ⟨fun _ => .list fun a _ => h.returns a, fun _ => nofun⟩

theorem Returns.convert {c : Codec α} {make : α → β} {unmake : β → α} {b : β}
    (h : c.Returns (unmake b)) (hb : make (unmake b) = b) :
    (c.convert make unmake).Returns b where
  decode origin := by
    have hdecode := h.decode origin
    simp [Codec.convert, hdecode, Except.map, hb]
  floatFree := h.floatFree
  read levels layout depth hdepth := by
    intro rest hrest
    obtain ⟨c', cs, hchars, hc, hrun⟩ := h.read levels layout depth hdepth rest hrest
    apply Scan.reads_of_run hchars hc
    simp [Codec.convert, hrun, hb]

end Codec

end JobReport
