import JobReport.Proofs.Exporting
import JobReport.Proofs.Record.Shapes
import JobReport.Proofs.Text.Utf8
import Mathlib.Data.List.Perm.Basic
import Mathlib.Logic.Relation

/-!
# Flags as a set

The text of a setting lists feature flags between commas. What a store of logs is given of it is a
set: the order of the parts, how often each is there, the empty ones and the blanks around them are
all lost. A list of names that can be told apart in such a text is still read from it name by name.
-/

set_option autoImplicit false

namespace JobReport

namespace FeatureFlags

variable {flags flags' : FeatureFlags} {name : String} {names names' : List String}

theorem isEnabled_iff : flags.isEnabled name = true ↔ name ∈ flags.enabled := by
  rw [isEnabled, List.contains_iff_mem]

/-- Flags are the same if the same names are among them. -/
theorem eq_of_mem_iff (h : ∀ name, name ∈ flags.enabled ↔ name ∈ flags'.enabled) :
    flags = flags' := by
  have hne : ∀ a b : String, a < b → a ≠ b := fun a b hlt heq => String.lt_irrefl b (heq ▸ hlt)
  have hnodup : ∀ f : FeatureFlags, f.enabled.Nodup := fun f => f.increasing.imp (hne _ _)
  have hperm : flags.enabled.Perm flags'.enabled :=
    (List.perm_ext_iff_of_nodup (hnodup flags) (hnodup flags')).2 h
  have henabled : flags.enabled = flags'.enabled :=
    hperm.eq_of_pairwise (fun _ _ _ _ hlt hgt => absurd hgt (String.lt_asymm hlt))
      flags.increasing flags'.increasing
  cases flags
  cases flags'
  congr

theorem ofList_congr (h : ∀ name, name ∈ names ↔ name ∈ names') : ofList names = ofList names' := by
  apply eq_of_mem_iff
  intro name
  rw [mem_ofList, mem_ofList, h]

theorem faithful : codec.Faithful :=
  .record (by decide) fun _ => ⟨Codec.Faithful.string.list.returns _, trivial⟩

theorem encode_eq (flags : FeatureFlags) :
    codec.encode flags = .obj [("enabled", .arr (flags.enabled.map .str))] := rfl

theorem depth_encode (flags : FeatureFlags) : (codec.encode flags).depth ≤ 2 := by
  rw [encode_eq]
  apply Json.depth_obj_le
  rw [Json.membersDepth_le_iff, List.forall_mem_singleton]
  apply Json.depth_arr_le
  rw [Json.itemsDepth_le_iff, List.forall_mem_map]
  exact fun _ _ => Nat.le_refl 0

theorem parse_print (flags : FeatureFlags) : codec.parse (codec.print flags) = .ok flags :=
  (faithful.returns flags).parse_print (Nat.le_trans (depth_encode flags) (by decide))

/-- What the tree of flags is like: their names stand in it once each, by increasing bytes. -/
def WritesNames (flags : FeatureFlags) : Prop :=
  ∃ names : List String, codec.encode flags = .obj [("enabled", .arr (names.map .str))] ∧
    names.Pairwise (fun a b => Text.Utf8.encode a.toList < Text.Utf8.encode b.toList) ∧
    ∀ name, name ∈ names ↔ flags.isEnabled name = true

theorem writesNames (flags : FeatureFlags) : flags.WritesNames :=
  ⟨flags.enabled, encode_eq flags, flags.increasing.imp Text.Utf8.encode_lt_encode,
    fun _ => isEnabled_iff.symm⟩

end FeatureFlags

namespace Settings

/-- Whether a name is left of one of these parts when blanks are taken off. -/
def Lists (parts : List (List Char)) (name : String) : Prop :=
  name ≠ "" ∧ ∃ part ∈ parts, Text.Trims part name.toList

/-- A change to the parts of a text that only moves, repeats or pads them. -/
inductive Rearranges : List (List Char) → List (List Char) → Prop
  | reorder {parts parts' : List (List Char)} (h : parts.Perm parts') : Rearranges parts parts'
  | again {part : List Char} {parts : List (List Char)} (h : part ∈ parts) :
      Rearranges parts (part :: parts)
  | blank {part : List Char} {parts : List (List Char)}
      (h : ∀ c ∈ part, Text.isBlank c = true) : Rearranges parts (part :: parts)
  | around {before part after : List Char} {parts : List (List Char)}
      (h : ∀ c ∈ before ++ after, Text.isBlank c = true) :
      Rearranges (part :: parts) ((before ++ part ++ after) :: parts)

/-- Whether the value for the flags is a text with these parts between commas. -/
def TellsParts (raw : Setting → Option String) (parts : List (List Char)) : Prop :=
  ∃ text, raw .featureFlags = some text ∧ Text.Parts ',' text.toList parts

/-- Whether values are the same for all settings but the flags. -/
def SameButFlags (raw raw' : Setting → Option String) : Prop :=
  ∀ s ≠ .featureFlags, raw' s = raw s

/-- Settings with the flags and the profile of others. -/
def withFlags (profile : String) (flags : List String) (c : Settings) : Settings :=
  { c with profile := profile, featureFlags := flags }

section

variable {read read' : FileReader Id} {env env' : Environment} {dir dir' : Path} {c : Settings}
  {profile text name : String} {raw raw' : Setting → Option String}
  {parts parts' : List (List Char)}

/-! ## Names in a text -/

theorem lists_iff : Lists parts name ↔
    name ≠ "" ∧ ∃ part ∈ parts, Text.trim (String.ofList part) = name := by
  simp only [Lists, Text.trims_iff]

theorem mem_flagNames (h : Text.Parts ',' text.toList parts) :
    name ∈ flagNames text ↔ Lists parts name := by
  rw [flagNames, Text.parts_iff.1 h, List.mem_filter, List.mem_map, lists_iff, decide_eq_true_iff,
    and_comm]

theorem Rearranges.lists_iff (h : Rearranges parts parts') :
    Lists parts name ↔ Lists parts' name := by
  rw [Settings.lists_iff, Settings.lists_iff]
  apply and_congr_right
  intro hne
  cases h with
  | reorder h => simp only [h.mem_iff]
  | again h =>
    rw [List.exists_mem_cons_iff]
    exact ⟨.inr, fun h' => h'.elim (fun hpart => ⟨_, h, hpart⟩) id⟩
  | blank h =>
    rw [List.exists_mem_cons_iff, Text.trim_of_blank h]
    exact ⟨.inr, fun h' => h'.resolve_left hne.symm⟩
  | around h => rw [List.exists_mem_cons_iff, List.exists_mem_cons_iff, Text.trim_around h]

theorem lists_iff_of_eqvGen (h : Relation.EqvGen Rearranges parts parts') :
    Lists parts name ↔ Lists parts' name := by
  induction h with
  | rel _ _ h => exact h.lists_iff
  | refl _ => exact Iff.rfl
  | symm _ _ _ ih => exact ih.symm
  | trans _ _ _ _ _ ih ih' => exact ih.trans ih'

/-! ## Flags and the other settings -/

theorem validate_withFlags (profile : String) (flags : List String) (c : Settings) :
    (withFlags profile flags c).validate = c.validate := rfl

theorem ofValues_sameButFlags (h : SameButFlags raw raw') (profile profile' : String) :
    ofValues profile' raw' = (ofValues profile raw).map
      (withFlags ((nonempty (raw' .profile)).getD profile')
        (((raw' .featureFlags).map flagNames).getD default.featureFlags)) := by
  have hlevel := h .logLevel (by decide)
  have hformat := h .logFormat (by decide)
  have henvironment := h .workerEnvironment (by decide)
  have hroot := h .logRoot (by decide)
  have htail := h .logTailLines (by decide)
  have hversion := h .platformVersion (by decide)
  simp only [ofValues, hlevel, hformat, henvironment, hroot, htail, hversion]
  cases readEnvironment (raw .workerEnvironment) with
  | error e => rfl
  | ok environment =>
    cases readTailLines (raw .logTailLines) with
    | error e => rfl
    | ok tailLines => rfl

/-- Whatever is told for the flags, the other settings are loaded or refused as they are. -/
theorem load_sameButFlags (h : Layered read env dir raw) (h' : Layered read' env' dir' raw')
    (hsame : SameButFlags raw raw') : ∃ profile', (load read' env' dir').run.run =
      (load read env dir).run.run.map
        (withFlags profile' (((raw' .featureFlags).map flagNames).getD default.featureFlags)) := by
  obtain ⟨profile, hload⟩ := load_of_layered h
  obtain ⟨profile', hload'⟩ := load_of_layered h'
  refine ⟨(nonempty (raw' .profile)).getD profile', ?_⟩
  rw [hload, hload', ofValues_sameButFlags hsame profile profile', except_map_bind]
  cases ofValues profile raw with
  | error e => rfl
  | ok c =>
    change ((withFlags _ _ c).validate >>= fun _ => _) = Except.map _ (c.validate >>= fun _ => _)
    rw [validate_withFlags]
    cases c.validate with
    | error e => rfl
    | ok _ => rfl

theorem featureFlags_of_layered (h : (load read env dir).run.run = .ok c)
    (hraw : Layered read env dir raw) (htext : raw .featureFlags = some text) :
    c.featureFlags = flagNames text := by
  obtain ⟨profile, raw', hraw', hvalues⟩ := load_ok h
  obtain rfl := layered_unique hraw hraw'
  obtain ⟨_, _, _, _, _, _, hflags⟩ := ofValues_fields hvalues
  rw [hflags, htext]
  rfl

theorem isEnabled_of_layered (h : (load read env dir).run.run = .ok c)
    (hraw : Layered read env dir raw) (hparts : TellsParts raw parts) (name : String) :
    (LogContext.ofSettings c).featureFlags.isEnabled name = true ↔ Lists parts name := by
  obtain ⟨text, htext, hparts⟩ := hparts
  rw [LogContext.ofSettings, FeatureFlags.isEnabled_iff, FeatureFlags.mem_ofList,
    featureFlags_of_layered h hraw htext, mem_flagNames hparts]

theorem context_of_rearranged (h : Layered read env dir raw) (h' : Layered read' env' dir' raw')
    (hsame : SameButFlags raw raw') (hparts : TellsParts raw parts)
    (hparts' : TellsParts raw' parts') (hrearranges : Relation.EqvGen Rearranges parts parts') :
    (load read' env' dir').run.run.map LogContext.ofSettings =
      (load read env dir).run.run.map LogContext.ofSettings := by
  obtain ⟨text, htext, hparts⟩ := hparts
  obtain ⟨text', htext', hparts'⟩ := hparts'
  obtain ⟨profile', hload⟩ := load_sameButFlags h h' hsame
  rw [hload, except_map_map]
  cases hc : (load read env dir).run.run with
  | error e => rfl
  | ok c =>
    have hflags : FeatureFlags.ofList (flagNames text') = FeatureFlags.ofList c.featureFlags := by
      apply FeatureFlags.ofList_congr
      intro name
      rw [featureFlags_of_layered hc h htext, mem_flagNames hparts, mem_flagNames hparts',
        lists_iff_of_eqvGen hrearranges]
    rw [htext']
    exact congrArg (fun flags =>
      Except.ok (LogContext.mk c.workerEnvironment ⟨c.logRoot, c.tailLines⟩ flags)) hflags

theorem load_joined (h : Layered read env dir raw) (h' : Layered read' env' dir' raw')
    (hsame : SameButFlags raw raw') (hc : (load read env dir).run.run = .ok c)
    {names : List String} (hnames : ∀ name ∈ names, IsFlag name)
    (hraw' : raw' .featureFlags =
      some (String.ofList (Text.joinWith ',' (names.map String.toList)))) :
    ∃ c', (load read' env' dir').run.run = .ok c' ∧ c'.featureFlags = names := by
  obtain ⟨profile', hload⟩ := load_sameButFlags h h' hsame
  rw [hc] at hload
  refine ⟨_, hload, ?_⟩
  rw [withFlags, hraw']
  exact flagNames_joinWith hnames

end

/-- The flags that a store of logs is given are the names that are left of the parts of the text
that counts, and what is done to the parts without changing these changes nothing in what the store
is given. Written as a tree, the flags are in order and each stands there once, and they are read
back. Names that have no commas and no blanks at their ends are loaded as they were joined, wherever
settings are loaded otherwise. -/
theorem flags_as_set (read : FileReader Id) (env : Environment) (dir : Path) :
    (∀ c raw text, (load read env dir).run.run = .ok c → Layered read env dir raw →
      raw .featureFlags = some text → ∃ parts, Text.Parts ',' text.toList parts ∧ ∀ name,
        (LogContext.ofSettings c).featureFlags.isEnabled name = true ↔ Lists parts name) ∧
    (∀ read' env' dir' raw raw', Layered read env dir raw → Layered read' env' dir' raw' →
      SameButFlags raw raw' →
      (∀ parts parts', TellsParts raw parts → TellsParts raw' parts' →
        Relation.EqvGen Rearranges parts parts' →
        (load read' env' dir').run.run.map LogContext.ofSettings =
          (load read env dir).run.run.map LogContext.ofSettings) ∧
      ∀ c names, (load read env dir).run.run = .ok c → (∀ name ∈ names, IsFlag name) →
        raw' .featureFlags = some (String.ofList (Text.joinWith ',' (names.map String.toList))) →
        ∃ c', (load read' env' dir').run.run = .ok c' ∧ c'.featureFlags = names) ∧
    ∀ flags : FeatureFlags, flags.WritesNames ∧
      FeatureFlags.codec.parse (FeatureFlags.codec.print flags) = .ok flags := by
  refine ⟨?_, ?_, fun flags => ⟨flags.writesNames, flags.parse_print⟩⟩
  · intro c raw text hc hraw htext
    have hparts := Text.parts_iff.2 (Eq.refl (Text.split ',' text.toList))
    exact ⟨_, hparts, isEnabled_of_layered hc hraw ⟨text, htext, hparts⟩⟩
  · intro read' env' dir' raw raw' h h' hsame
    refine ⟨fun parts parts' => context_of_rearranged h h' hsame, fun c names hc hnames hraw' => ?_⟩
    exact load_joined h h' hsame hc hnames hraw'

/-- A process that has the variable for the flags and no other. -/
def listing (text : String) : Environment := fun name =>
  if name = Setting.variableName .featureFlags then some text else none

/-- The values of settings of which the flags alone are told. -/
def listed (text : String) : Setting → Option String
  | .featureFlags => some text
  | _ => none

theorem layered_listing (text : String) : Layered noFiles (listing text) ⟨"d"⟩ (listed text) := by
  have hitems : ∀ path, HasItems noFiles (listing text) path [] := fun _ => ⟨rfl, rfl⟩
  have hmerges : Merges noFiles (listing text) ⟨"d"⟩ (profileOf (listing text) []) [] [] :=
    ⟨⟨[], [], hitems _, hitems _, rfl⟩, rfl, ⟨[], [], hitems _, hitems _, rfl⟩⟩
  have hvalues : effective (listing text) ([] ++ []) = listed text := by
    funext s
    rw [List.append_nil, effective_nil]
    cases s <;> rfl
  exact hvalues ▸ hmerges.layered

theorem rearranges_listed :
    Relation.EqvGen Rearranges [[' ', 'b'], [], ['a']] [['a'], ['b']] := by
  have hempty : Rearranges [[' ', 'b'], ['a']] [[], [' ', 'b'], ['a']] := .blank nofun
  have hblank : Rearranges [['b'], ['a']] [[' ', 'b'], ['a']] :=
    @Rearranges.around [' '] ['b'] [] [['a']] (List.all_eq_true.1 rfl)
  have hfront : Rearranges [[' ', 'b'], [], ['a']] [[], [' ', 'b'], ['a']] :=
    .reorder (by decide)
  have horder : Rearranges [['b'], ['a']] [['a'], ['b']] := .reorder (by decide)
  exact .trans _ _ _ (.rel _ _ hfront) (.trans _ _ _ (.symm _ _ (.rel _ _ hempty))
    (.trans _ _ _ (.symm _ _ (.rel _ _ hblank)) (.rel _ _ horder)))

def twoFlags : Settings := { default with featureFlags := ["b", "a"] }

theorem load_listing : (load noFiles (listing " b,,a") ⟨"d"⟩).run.run = .ok twoFlags := by
  apply except_ok_of_toOption
  decide +kernel

theorem flags_as_set_listing :
    (load noFiles (listing " b,,a") ⟨"d"⟩).run.run = .ok twoFlags ∧
    (∃ parts, Text.Parts ',' " b,,a".toList parts ∧ ∀ name,
      (LogContext.ofSettings twoFlags).featureFlags.isEnabled name = true ↔ Lists parts name) ∧
    (load noFiles (listing "a,b") ⟨"d"⟩).run.run.map LogContext.ofSettings =
      (load noFiles (listing " b,,a") ⟨"d"⟩).run.run.map LogContext.ofSettings ∧
    ∃ c, (load noFiles (listing "x y,z") ⟨"d"⟩).run.run = .ok c ∧
      c.featureFlags = ["x y", "z"] := by
  obtain ⟨henabled, hchanged, _⟩ := flags_as_set noFiles (listing " b,,a") ⟨"d"⟩
  have hsame : ∀ text, SameButFlags (listed " b,,a") (listed text) := by
    intro text s hs
    cases s <;> first | rfl | exact absurd rfl hs
  have hlayered := layered_listing " b,,a"
  have hparts : TellsParts (listed " b,,a") [[' ', 'b'], [], ['a']] :=
    ⟨_, rfl, Text.parts_iff.2 (by decide)⟩
  have hparts' : TellsParts (listed "a,b") [['a'], ['b']] :=
    ⟨_, rfl, Text.parts_iff.2 (by decide)⟩
  have hnames : ∀ name ∈ ["x y", "z"], IsFlag name := by
    rw [List.forall_mem_cons, List.forall_mem_singleton]
    exact ⟨⟨by decide, by decide, by decide⟩, ⟨by decide, by decide, by decide⟩⟩
  have hjoined := (hchanged _ _ _ _ _ hlayered (layered_listing "x y,z") (hsame _)).2
  refine ⟨load_listing, henabled _ _ _ load_listing hlayered rfl, ?_, ?_⟩
  · exact (hchanged _ _ _ _ _ hlayered (layered_listing "a,b") (hsame _)).1 _ _ hparts hparts'
      rearranges_listed
  · exact hjoined _ _ load_listing hnames rfl

end Settings

end JobReport
