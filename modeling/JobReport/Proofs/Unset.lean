import JobReport.Proofs.Definitions
import JobReport.Proofs.Profiles
import Mathlib.Logic.Function.Basic

/-!
# Empty settings

A setting that the process leaves empty is loaded as if neither the process nor any file had set it.
The profile alone is not: the files of a profile with an empty name are read, and this name is
reported, where a profile that nothing sets has its default.
-/

set_option autoImplicit false

namespace JobReport.Settings

open EnvFile (Fixes Item others)

/-- The files of a reader without the definitions of a name. -/
def readWithout (name : String) (read : FileReader Id) : FileReader Id := fun path =>
  pure ((read path).run.map (EnvFile.without name))

/-- A process that leaves a setting empty. -/
def emptied (env : Environment) (s : Setting) : Environment :=
  Function.update env s.variableName (some "")

/-- A process that does not have a setting. -/
def unset (env : Environment) (s : Setting) : Environment :=
  Function.update env s.variableName none

/-! ## Values -/

section

variable {profile : String} {value value' : Setting → Option String}

theorem nonempty_map_trim (o : Option String) :
    nonempty (o.map Text.trim) = nonempty ((nonempty o).map Text.trim) := by
  cases o with
  | none => rfl
  | some text =>
    by_cases htext : text = ""
    · rw [htext]
      rfl
    · rw [nonempty_some htext]

theorem flagNames_nonempty (o : Option String) : (o.map flagNames).getD default.featureFlags =
    ((nonempty o).map flagNames).getD default.featureFlags := by
  cases o with
  | none => rfl
  | some text =>
    by_cases htext : text = ""
    · rw [htext, nonempty_empty, Option.map_some, flagNames_empty]
      rfl
    · rw [nonempty_some htext]

/-- Settings are the same from values that differ only in being empty or absent. -/
theorem ofValues_congr (h : ∀ s, nonempty (value' s) = nonempty (value s)) :
    ofValues profile value' = ofValues profile value := by
  have hversion := nonempty_map_trim (value' .platformVersion)
  have hflags := flagNames_nonempty (value' .featureFlags)
  rw [h, ← nonempty_map_trim] at hversion
  rw [h, ← flagNames_nonempty] at hflags
  simp only [ofValues, readEnvironment, readTailLines, h, hversion, hflags]

end

section

variable {read : FileReader Id} {env env' : Environment} {dir path : Path} {name profile : String}
  {s : Setting} {items : List Item} {c : Settings}

/-! ## Two processes and their files -/

theorem layer_without (h : Fixes name env env') (path : Path) :
    (layer (readWithout name read) env' path).run.run =
      (layer read env path).run.run.map (others name) := by
  rw [layer_run, layer_run, readWithout, Id.run_pure]
  cases (read path).run with
  | ok bytes =>
    change (EnvFile.items env' (EnvFile.without name bytes)).mapError _ =
      ((EnvFile.items env bytes).mapError _).map _
    rw [EnvFile.items_without h, except_mapError_map]
  | error cause => cases cause <;> rfl

theorem nonempty_effective_others (h : Fixes name env env') (items : List Item) (s : Setting) :
    nonempty (effective env' (others name items) s) = nonempty (effective env items s) := by
  rw [effective, effective]
  by_cases hs : s.variableName = name
  · rw [hs, h.own, EnvFile.last?_others_self, Option.or_none, Option.some_or]
    cases env' name <;> rfl
  · rw [EnvFile.last?_others hs, h.off _ hs]

/-- Where a process has a name and decides the profile with or without it, the definitions of the
name in files play no part. -/
theorem load_without (h : Fixes name env env')
    (hprofile : ∀ items, profileOf env' (others name items) = profileOf env items) :
    (load (readWithout name read) env' dir).run.run = (load read env dir).run.run := by
  have hvalues : ∀ profile items, ofValues profile (effective env' (others name items)) =
      ofValues profile (effective env items) := fun profile items =>
    ofValues_congr (nonempty_effective_others h items)
  simp only [load, run_bind, layer_without h, except_map_bind, ← EnvFile.others_append,
    hprofile, hvalues]

/-! ## What is left of an empty setting -/

theorem emptied_self (env : Environment) (s : Setting) :
    emptied env s s.variableName = some "" := Function.update_self ..

theorem unset_self (env : Environment) (s : Setting) : unset env s s.variableName = none :=
  Function.update_self ..

theorem fixes_unset (env : Environment) (s : Setting) :
    Fixes s.variableName (emptied env s) (unset env s) where
  off n hn := by rw [unset, emptied, Function.update_of_ne hn, Function.update_of_ne hn]
  own := by
    rw [emptied_self, unset_self]
    rfl

theorem fixes_self {value : String} (h : env name = some value) : Fixes name env env where
  off _ _ := rfl
  own := by rw [h, Option.getD_some]

/-- Without definitions of a name, no file has an item for it. -/
theorem last?_of_readWithout (h : HasItems (readWithout name read) env path items) :
    EnvFile.last? name items = none := by
  -- Whatever the process has, the same is read as by one that has the name.
  have hfixes : Fixes name (Function.update env name (some ((env name).getD ""))) env :=
    ⟨fun n hn => (Function.update_of_ne hn ..).symm, Function.update_self ..⟩
  rw [← layer_ok_iff, layer_without hfixes] at h
  obtain ⟨all, _, rfl⟩ := except_map_ok_iff.1 h
  exact EnvFile.last?_others_self

theorem effective_unset {common ofProfile : List Item}
    (h : Merges (readWithout s.variableName read) (unset env s) dir profile common ofProfile) :
    effective (unset env s) common s = none ∧
      effective (unset env s) (common ++ ofProfile) s = none := by
  obtain ⟨⟨shared, own, hshared, hown, rfl⟩, _, sharedOfProfile, ownOfProfile, hsharedOfProfile,
    hownOfProfile, rfl⟩ := h
  simp [effective, unset_self, EnvFile.last?_append, last?_of_readWithout hshared,
    last?_of_readWithout hown, last?_of_readWithout hsharedOfProfile,
    last?_of_readWithout hownOfProfile]

theorem load_emptied_profile (h : (load read (emptied env .profile) dir).run.run = .ok c) :
    c.profile = "" ∧
      ∃ common ofProfile, Merges read (emptied env .profile) dir "" common ofProfile := by
  obtain ⟨profile, common, ofProfile, hmerges, hvalues, _⟩ := load_ok_iff.1 h
  have hempty : ∀ items, effective (emptied env .profile) items .profile = some "" := by
    intro items
    rw [effective, emptied_self, Option.some_or]
  have hprofile : profile = "" := by
    rw [hmerges.named, profileOf, hempty, Option.getD_some]
  rw [hprofile] at hmerges hvalues
  refine ⟨?_, common, ofProfile, hmerges⟩
  rw [profile_ofValues hvalues, hempty]
  rfl

theorem load_unset_profile
    (h : (load (readWithout (Setting.variableName .profile) read) (unset env .profile)
      dir).run.run = .ok c) :
    c.profile = default.profile ∧
      ∃ common ofProfile, Merges (readWithout (Setting.variableName .profile) read)
        (unset env .profile) dir default.profile common ofProfile := by
  obtain ⟨profile, common, ofProfile, hmerges, hvalues, _⟩ := load_ok_iff.1 h
  obtain ⟨hcommon, hall⟩ := effective_unset hmerges
  have hprofile : profile = default.profile := by
    rw [hmerges.named, profileOf, hcommon, Option.getD_none]
  rw [hprofile] at hmerges hvalues
  refine ⟨?_, common, ofProfile, hmerges⟩
  rw [profile_ofValues hvalues, hall]
  rfl

theorem profileOf_others (h : Fixes s.variableName env env') (hs : s ≠ .profile)
    (items : List Item) :
    profileOf env' (others s.variableName items) = profileOf env items := by
  have hname : Setting.variableName .profile ≠ s.variableName := by
    cases s <;> first | exact absurd rfl hs | decide
  rw [profileOf, profileOf, effective, effective, EnvFile.last?_others hname, h.off _ hname]

end

/-- A setting that the process leaves empty is not taken from any file, and unless it is the profile
it is loaded, or refused, as if nothing had set it. An empty profile is never taken for one that
nothing sets: its own files are read and it is reported, where the other is the default one. -/
theorem empty_unset_but_profile (read : FileReader Id) (env : Environment) (dir : Path) :
    (∀ s : Setting, (load (readWithout s.variableName read) (emptied env s) dir).run.run =
      (load read (emptied env s) dir).run.run) ∧
    (∀ s ≠ .profile, (load read (emptied env s) dir).run.run =
      (load (readWithout s.variableName read) (unset env s) dir).run.run) ∧
    (∀ c, (load read (emptied env .profile) dir).run.run = .ok c → c.profile = "" ∧
      ∃ common ofProfile, Merges read (emptied env .profile) dir "" common ofProfile) ∧
    ∀ c, (load (readWithout (Setting.variableName .profile) read) (unset env .profile)
        dir).run.run = .ok c → c.profile = default.profile ∧
      ∃ common ofProfile, Merges (readWithout (Setting.variableName .profile) read)
        (unset env .profile) dir default.profile common ofProfile := by
  refine ⟨fun s => ?_, fun s hs => ?_, fun _ => load_emptied_profile, fun _ => load_unset_profile⟩
  · have hfixes : Fixes s.variableName (emptied env s) (emptied env s) :=
      fixes_self (emptied_self env s)
    refine load_without hfixes fun items => ?_
    by_cases hs : s = .profile
    · subst hs
      simp [profileOf, effective, emptied_self]
    · exact profileOf_others hfixes hs items
  · exact (load_without (fixes_unset env s) (profileOf_others (fixes_unset env s) hs)).symm

/-- A process without variables. -/
def noVariables : Environment := fun _ => none

/-- The settings of a profile whose name is empty. -/
def unnamedSettings : Settings := { default with profile := "" }

/-- Where there are no files, an empty profile is reported, and one that nothing sets is not. -/
theorem emptied_profile_not_unset :
    let read : FileReader Id := fun _ => .error .notFound
    (load read (emptied noVariables .profile) ⟨"d"⟩).run.run ≠
      (load (readWithout (Setting.variableName .profile) read) (unset noVariables .profile)
        ⟨"d"⟩).run.run := by
  intro read
  have hempty : (load read (emptied noVariables .profile) ⟨"d"⟩).run.run = .ok unnamedSettings := by
    apply except_ok_of_toOption
    decide +kernel
  have hunset : (load (readWithout (Setting.variableName .profile) read)
      (unset noVariables .profile) ⟨"d"⟩).run.run = .ok default := by
    apply except_ok_of_toOption
    decide +kernel
  rw [hempty, hunset]
  exact fun h => absurd (Except.ok.inj h) (by decide)

/-- A file that sets the log level, once in a text between quotes and once not. -/
def quotingText : String :=
  "A='\nJOB_VIEWS_LOG_LEVEL=no'\nJOB_VIEWS_LOG_LEVEL=warn # yes\nJOB_VIEWS_LOG_FORMAT=pretty"

def quotingFiles : FileReader Id := fun path =>
  match path.text with
  | "d/.env" => .ok quotingText.toUTF8.data.toList
  | _ => .error .notFound

def prettySettings : Settings := { default with logFormat := "pretty" }

theorem empty_unset_but_profile_quoting :
    (load quotingFiles (emptied noVariables .logLevel) ⟨"d"⟩).run.run = .ok prettySettings ∧
    (load (readWithout (Setting.variableName .logLevel) quotingFiles)
      (unset noVariables .logLevel) ⟨"d"⟩).run.run = .ok prettySettings ∧
    ∃ c, (load quotingFiles (emptied noVariables .profile) ⟨"d"⟩).run.run = .ok c ∧
      c.profile = "" := by
  obtain ⟨_, hunset, hprofile, _⟩ := empty_unset_but_profile quotingFiles noVariables ⟨"d"⟩
  have hempty : (load quotingFiles (emptied noVariables .logLevel) ⟨"d"⟩).run.run =
      .ok prettySettings := by
    apply except_ok_of_toOption
    decide +kernel
  have hreported : (load quotingFiles (emptied noVariables .profile) ⟨"d"⟩).run.run =
      .ok { prettySettings with profile := "", logLevel := "warn" } := by
    apply except_ok_of_toOption
    decide +kernel
  exact ⟨hempty, (hunset .logLevel (by decide)).symm.trans hempty,
    ⟨_, hreported, (hprofile _ hreported).1⟩⟩

end JobReport.Settings
