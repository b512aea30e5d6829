import JobReport.Proofs.Quoted
import JobReport.Proofs.Refusals
import Mathlib.Logic.Function.Basic

/-!
# Settings in a file and in the process

A setting means the same whether the process has it or a line of some file does. The line gives its
text between single quotes, and can be put at the end of any file that is read.
-/

set_option autoImplicit false

namespace JobReport.Settings

open EnvFile (Item others)

/-- Files with one line more at the end of what some paths lead to, which is made if it is not
there. Several paths may lead to the same file. -/
def adding (leads : Path → Bool) (line : List Char) (ending : Option Text.Ending)
    (read : FileReader Id) : FileReader Id := fun path =>
  if leads path then
    pure (match (read path).run with
      | .error .notFound => .ok (EnvFile.addLine line ending [])
      | answer => answer.map (EnvFile.addLine line ending))
  else read path

def given (env : Environment) (name value : String) : Environment :=
  Function.update env name (some value)

/-- Whether neither a process nor a file that is read for its settings has anything to do with a
name. -/
structure Lacks (read : FileReader Id) (env : Environment) (dir : Path) (name : String) : Prop where
  process : env name = none
  files : ∀ check file bytes, Reads read env dir check file →
    (read (dir.join ⟨file⟩)).run = .ok bytes → EnvFile.Ignores name bytes

/-- Whether paths lead to one of the files that are read for settings, which has no malformed
line. -/
structure LeadsToLayer (read : FileReader Id) (env : Environment) (dir : Path)
    (leads : Path → Bool) : Prop where
  among : ∀ profile, NamesProfile read env dir profile →
    ∃ check file, Reads read env dir check file ∧ leads (dir.join ⟨file⟩) = true
  whole : ∀ check file bytes, Reads read env dir check file → leads (dir.join ⟨file⟩) = true →
    (read (dir.join ⟨file⟩)).run = .ok bytes → ∃ items, EnvFile.items env bytes = .ok items

/-- Whether some items are others with one item put among them, perhaps more than once, whose name
the others lack. -/
structure Adds (item : Item) (items items' : List Item) : Prop where
  rest : others item.1 items' = items
  only : ∀ i ∈ items', i.1 = item.1 → i = item

def placed (leads : Path → Bool) (item : Item) (path : Path) (items : List Item) : List Item :=
  if leads path then items ++ [item] else items

section

variable {read : FileReader Id} {env : Environment} {dir path : Path} {leads : Path → Bool}
  {name value file key : String} {check : Check} {item : Item} {ending : Option Text.Ending}
  {items items' before before' after after' : List Item} {s : Setting}

/-! ## Files -/

theorem given_self (env : Environment) (name value : String) :
    given env name value name = some value := Function.update_self ..

theorem given_of_ne {n : String} (h : n ≠ name) : given env name value n = env n :=
  Function.update_of_ne h ..

theorem layer_given
    (h : ∀ bytes, (read path).run = .ok bytes → EnvFile.Ignores name bytes) :
    (layer read (given env name value) path).run.run = (layer read env path).run.run := by
  rw [layer_run, layer_run]
  cases hread : (read path).run with
  | ok bytes =>
    change (EnvFile.items _ bytes).mapError _ = (EnvFile.items _ bytes).mapError _
    rw [EnvFile.items_of_ignores (h bytes hread) fun n hn => given_of_ne hn]
  | error cause => cases cause <;> rfl

theorem layer_adding (hname : EnvFile.IsName name) (hvalue : EnvFile.Quotable value)
    (ending : Option Text.Ending) (h : leads path = true → ∀ bytes, (read path).run = .ok bytes →
      ∃ items, EnvFile.items env bytes = .ok items) :
    (layer (adding leads (EnvFile.quotedLine name value) ending read) env path).run.run =
      (layer read env path).run.run.map (placed leads (name, value) path) := by
  rw [layer_run, layer_run, adding]
  by_cases hleads : leads path = true
  · have hplaced : placed leads (name, value) path = fun items => items ++ [(name, value)] :=
      funext fun items => if_pos hleads
    rw [if_pos hleads, hplaced]
    cases hread : (read path).run with
    | ok bytes =>
      obtain ⟨items, hitems⟩ := h hleads bytes hread
      change (EnvFile.items env (EnvFile.addLine _ ending bytes)).mapError _ =
        ((EnvFile.items env bytes).mapError _).map _
      rw [EnvFile.items_addLine hname hvalue hitems, hitems]
      rfl
    | error cause =>
      cases cause with
      | notFound =>
        change (EnvFile.items env (EnvFile.addLine _ ending [])).mapError _ = _
        rw [EnvFile.items_addLine hname hvalue rfl]
        rfl
      | _ => rfl
  · have hplaced : placed leads (name, value) path = id := funext fun items => if_neg hleads
    rw [if_neg hleads, hplaced, Except.map_id, id]

/-! ## Values -/

theorem Adds.append (h : Adds item before before') (h' : Adds item after after') :
    Adds item (before ++ after) (before' ++ after') where
  rest := by rw [EnvFile.others_append, h.rest, h'.rest]
  only i hi := (List.mem_append.1 hi).elim (h.only i) (h'.only i)

theorem adds_placed (h : ∀ i ∈ items, i.1 ≠ item.1) (path : Path) :
    Adds item items (placed leads item path items) := by
  have hothers : others item.1 items = items := by
    simpa [others, List.filter_eq_self] using h
  rw [placed]
  split
  · refine ⟨?_, fun i hi hname => ?_⟩
    · rw [EnvFile.others_append, hothers]
      simp [others]
    · rcases List.mem_append.1 hi with hi | hi
      · exact absurd hname (h i hi)
      · exact List.mem_singleton.1 hi
  · exact ⟨hothers, fun i hi hname => absurd hname (h i hi)⟩

theorem Adds.last? (h : Adds item items items') (hmem : item ∈ items') :
    EnvFile.last? item.1 items' = some item.2 := by
  cases hlast : EnvFile.last? item.1 items' with
  | none => exact absurd rfl (EnvFile.last?_eq_none_iff.1 hlast item hmem)
  | some value =>
    obtain ⟨before, after, hitems, _⟩ := EnvFile.last?_eq_some_iff.1 hlast
    have hvalue : (item.1, value) = item := h.only _ (by simp [hitems]) rfl
    rw [← hvalue]

/-- What an item adds, the process can have instead. -/
theorem effective_given (h : Adds (name, value) items items') (henv : env name = none)
    (hs : s.variableName = name → (name, value) ∈ items') :
    effective env items' s = effective (given env name value) items s := by
  rw [effective, effective]
  by_cases hname : s.variableName = name
  · rw [hname, henv, given_self, Option.none_or, Option.some_or, h.last? (hs hname)]
  · rw [given_of_ne hname, ← h.rest, EnvFile.last?_others hname]

theorem profileOf_given (hname : name ≠ Setting.variableName .profile) (items : List Item) :
    profileOf (given env name value) items = profileOf env items := by
  rw [profileOf, profileOf, effective, effective, given_of_ne hname.symm]

theorem profileOf_adds (h : Adds (name, value) items items')
    (hname : name ≠ Setting.variableName .profile) :
    profileOf env items' = profileOf env items := by
  rw [profileOf, profileOf, effective, effective, ← h.rest, EnvFile.last?_others hname.symm]

/-! ## Loading -/

/-- A file that is read with a line more, or without it by a process that has the variable, is read
on from in the same way where the item that the line adds makes no difference. -/
theorem bind_layer_adding (hname : EnvFile.IsName name) (hvalue : EnvFile.Quotable value)
    (hlacks : Lacks read env dir name) (hleads : LeadsToLayer read env dir leads)
    (ending : Option Text.Ending) (hread : Reads read env dir check file)
    {f g : List Item → Except SettingsError Settings}
    (h : ∀ items items', HasItems read env (dir.join ⟨file⟩) items →
      Adds (name, value) items items' →
      (leads (dir.join ⟨file⟩) = true → (name, value) ∈ items') → f items' = g items) :
    ((layer (adding leads (EnvFile.quotedLine name value) ending read) env
      (dir.join ⟨file⟩)).run.run >>= f) =
      (layer read (given env name value) (dir.join ⟨file⟩)).run.run >>= g := by
  rw [layer_adding hname hvalue ending fun hfile bytes => hleads.whole _ _ bytes hread hfile,
    layer_given fun bytes => hlacks.files _ _ bytes hread, except_map_bind]
  refine except_bind_congr fun items hitems => ?_
  rw [layer_ok_iff] at hitems
  have hnone : ∀ i ∈ items, i.1 ≠ name := by
    unfold HasItems at hitems
    cases hbytes : (read (dir.join ⟨file⟩)).run with
    | ok bytes =>
      rw [hbytes] at hitems
      exact EnvFile.ne_of_ignores (hlacks.files _ _ bytes hread hbytes) hitems
    | error cause =>
      rw [hbytes] at hitems
      simp [hitems.2]
  exact h items _ hitems (adds_placed hnone _) fun hfile => by simp [placed, hfile]

theorem load_adding (hname : EnvFile.IsName name) (hne : name ≠ Setting.variableName .profile)
    (hvalue : EnvFile.Quotable value) (hlacks : Lacks read env dir name)
    (hleads : LeadsToLayer read env dir leads) (ending : Option Text.Ending) :
    (load (adding leads (EnvFile.quotedLine name value) ending read) env dir).run.run =
      (load read (given env name value) dir).run.run := by
  simp only [load, run_bind]
  -- The four files are taken in turn, each with what the line adds to it.
  refine bind_layer_adding hname hvalue hlacks hleads ending .shared
    fun shared shared' hshared haddsShared hmemShared => ?_
  refine bind_layer_adding hname hvalue hlacks hleads ending .own
    fun own own' hown haddsOwn hmemOwn => ?_
  have hcommon := haddsShared.append haddsOwn
  have hprofile := namesProfile_profileOf hshared hown
  rw [profileOf_adds hcommon hne, profileOf_given hne]
  refine bind_layer_adding hname hvalue hlacks hleads ending (.sharedOfProfile hprofile)
    fun sharedOfProfile sharedOfProfile' _ haddsSharedOfProfile hmemSharedOfProfile => ?_
  refine bind_layer_adding hname hvalue hlacks hleads ending (.ownOfProfile hprofile)
    fun ownOfProfile ownOfProfile' _ haddsOwnOfProfile hmemOwnOfProfile => ?_
  have hall := (hcommon.append haddsSharedOfProfile).append haddsOwnOfProfile
  have hmem : (name, value) ∈ shared' ++ own' ++ sharedOfProfile' ++ ownOfProfile' := by
    simp only [List.mem_append]
    obtain ⟨check, file, hread, hfile⟩ := hleads.among _ hprofile
    cases hread with
    | shared => exact .inl (.inl (.inl (hmemShared hfile)))
    | own => exact .inl (.inl (.inr (hmemOwn hfile)))
    | sharedOfProfile h =>
      obtain rfl := namesProfile_unique hprofile h
      exact .inl (.inr (hmemSharedOfProfile hfile))
    | ownOfProfile h =>
      obtain rfl := namesProfile_unique hprofile h
      exact .inr (hmemOwnOfProfile hfile)
  have hvalues : effective env (shared' ++ own' ++ sharedOfProfile' ++ ownOfProfile') =
      effective (given env name value) (shared ++ own ++ sharedOfProfile ++ ownOfProfile) :=
    funext fun s => effective_given hall hlacks.process fun _ => hmem
  rw [hvalues]

theorem isNameChar_key (s : Setting) : ∀ c ∈ s.key.toList, EnvFile.isNameChar c = true := by
  cases s <;> exact List.all_eq_true.1 rfl

theorem isName_variable (h : ∀ c ∈ key.toList, EnvFile.isNameChar c = true) :
    EnvFile.IsName ("JOB_VIEWS_" ++ key) := by
  have hfront : ∀ c ∈ ['O', 'B', '_', 'V', 'I', 'E', 'W', 'S', '_'],
      EnvFile.isNameChar c = true := List.all_eq_true.1 rfl
  have hchars : ("JOB_VIEWS_" ++ key).toList =
      'J' :: (['O', 'B', '_', 'V', 'I', 'E', 'W', 'S', '_'] ++ key.toList) := by simp
  exact ⟨_, _, hchars, rfl, List.forall_mem_append.2 ⟨hfront, h⟩⟩

end

/-- A line at the end of a file, which gives a setting a literal text, does what the process does
with this text for the setting: the same settings are loaded, or the same error is told. It may be
any of the files that are read, there already or not, with or without an end to its last line, and
the text may hold anything but single quotes and backslashes. The profile is another matter, since
it tells which files are read. Nothing else may have to do with the setting: a later file would go
over the line but not over the process, and what a value refers to is taken from the process before
it is taken from the file. -/
theorem same_in_file_as_in_process (read : FileReader Id) (env : Environment) (dir : Path)
    (key value : String) (leads : Path → Bool) (ending : Option Text.Ending)
    (hkey : ∀ c ∈ key.toList, EnvFile.isNameChar c = true) (hprofile : key ≠ Setting.profile.key)
    (hvalue : EnvFile.Quotable value) (hlacks : Lacks read env dir ("JOB_VIEWS_" ++ key))
    (hleads : LeadsToLayer read env dir leads) :
    (load (adding leads (EnvFile.quotedLine ("JOB_VIEWS_" ++ key) value) ending read) env
      dir).run.run = (load read (given env ("JOB_VIEWS_" ++ key) value) dir).run.run := by
  have hne : "JOB_VIEWS_" ++ key ≠ Setting.variableName .profile := by
    rw [Setting.variableName, ne_eq, String.append_right_inj]
    exact hprofile
  exact load_adding (isName_variable hkey) hne hvalue hlacks hleads ending

/-- No file there has a line for the place of logs, and all their lines are well formed. -/
theorem maskedFiles_ok {path : Path} {bytes : Text.Bytes}
    (h : (maskedFiles path).run = .ok bytes) :
    EnvFile.Ignores ("JOB_VIEWS_" ++ "LOG_ROOT") bytes ∧
      ∃ items, EnvFile.items (fun _ => none) bytes = .ok items := by
  have hok : ∀ bytes, (EnvFile.items (fun _ => none) bytes).toOption.isSome = true →
      ∃ items, EnvFile.items (fun _ => none) bytes = .ok items := by
    intro bytes hsome
    obtain ⟨items, hitems⟩ := Option.isSome_iff_exists.1 hsome
    exact ⟨items, except_ok_of_toOption hitems⟩
  unfold maskedFiles at h
  split at h <;> cases h <;> exact ⟨by decide +kernel, hok _ (by decide +kernel)⟩

def leadsToOwn (path : Path) : Bool := path.text == "d/.env.local"

/-- A place of logs that has a line feed, a double quote and what elsewhere starts a comment, a
reference or a value. -/
def oddRoot : String := "a b#$HOME=\"\n"

theorem same_in_file_as_in_process_masked :
    (load (adding leadsToOwn (EnvFile.quotedLine ("JOB_VIEWS_" ++ "LOG_ROOT") oddRoot)
      (some .lineFeed) maskedFiles) (fun _ => none) ⟨"d"⟩).run.run =
      .ok { maskedSettings with logRoot := ⟨oddRoot⟩ } := by
  have hlacks : Lacks maskedFiles (fun _ => none) ⟨"d"⟩ ("JOB_VIEWS_" ++ "LOG_ROOT") :=
    ⟨rfl, fun check file bytes _ hbytes => (maskedFiles_ok hbytes).1⟩
  have hleads : LeadsToLayer maskedFiles (fun _ => none) ⟨"d"⟩ leadsToOwn :=
    ⟨fun profile _ => ⟨_, _, .own, by decide⟩,
      fun check file bytes _ _ hbytes => (maskedFiles_ok hbytes).2⟩
  have hgiven : (load maskedFiles (given (fun _ => none) ("JOB_VIEWS_" ++ "LOG_ROOT") oddRoot)
      ⟨"d"⟩).run.run = .ok { maskedSettings with logRoot := ⟨oddRoot⟩ } := by
    apply except_ok_of_toOption
    decide +kernel
  have hsame := same_in_file_as_in_process maskedFiles (fun _ => none) ⟨"d"⟩ "LOG_ROOT" oddRoot
    leadsToOwn (some .lineFeed) (isNameChar_key .logRoot) (by decide) ⟨by decide, by decide⟩ hlacks
    hleads
  exact hsame.trans hgiven

end JobReport.Settings
