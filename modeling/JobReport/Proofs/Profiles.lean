import JobReport.Proofs.Layers

/-!
# Which profile is reported

The profile is looked up twice: among the first two files and the process, to name the files of the
profile, and once more when these have been merged. So the files of a profile can give it another
name, which is the one that is reported. Nothing else sets the two apart.
-/

set_option autoImplicit false

namespace JobReport.Settings

open EnvFile (Item)

/-- Whether the files of a profile call it by another name. The process goes over what they say. -/
def Renames (env : Environment) (ofProfile : List Item) (profile name : String) : Prop :=
  env (Setting.variableName .profile) = none ∧
    EnvFile.last? (Setting.variableName .profile) ofProfile = some name ∧
    name ≠ "" ∧ name ≠ profile

section

variable {read : FileReader Id} {env : Environment} {dir : Path} {c : Settings}
  {profile name : String} {raw : Setting → Option String} {common ofProfile : List Item}

theorem profile_ofValues (h : ofValues profile raw = .ok c) :
    c.profile = (nonempty (raw .profile)).getD profile := by
  rw [ofValues] at h
  obtain ⟨_, _, h⟩ := except_bind_ok_iff.1 h
  obtain ⟨_, _, h⟩ := except_bind_ok_iff.1 h
  cases h
  rfl

/-- Merging the files of a profile leaves the value that named it, unless they have one. -/
theorem effective_append (s : Setting) :
    effective env (common ++ ofProfile) s =
      (env s.variableName).or
        ((EnvFile.last? s.variableName ofProfile).or (EnvFile.last? s.variableName common)) := by
  rw [effective, EnvFile.last?_append]

theorem profile_of_renames (h : ofValues profile (effective env (common ++ ofProfile)) = .ok c)
    (hname : Renames env ofProfile profile name) : c.profile = name := by
  obtain ⟨henv, hlast, hne, _⟩ := hname
  rw [profile_ofValues h, effective_append, henv, hlast, Option.none_or, Option.some_or,
    nonempty_some hne, Option.getD_some]

theorem profile_of_not_renames (hmerges : Merges read env dir profile common ofProfile)
    (h : ofValues profile (effective env (common ++ ofProfile)) = .ok c)
    (hname : ¬ ∃ name, Renames env ofProfile profile name) : c.profile = profile := by
  have hkept : effective env (common ++ ofProfile) .profile = effective env common .profile →
      c.profile = profile := by
    intro hkept
    rw [profile_ofValues h, hkept, hmerges.named, profileOf, nonempty_getD]
  cases henv : env (Setting.variableName .profile) with
  | some value =>
    apply hkept
    rw [effective_append, effective, henv, Option.some_or, Option.some_or]
  | none =>
    cases hlast : EnvFile.last? (Setting.variableName .profile) ofProfile with
    | none =>
      apply hkept
      rw [effective_append, effective, hlast, Option.none_or]
    | some name =>
      rw [profile_ofValues h, effective_append, henv, hlast, Option.none_or, Option.some_or]
      by_cases hne : name = ""
      · rw [hne, nonempty_empty]
        rfl
      · rw [nonempty_some hne]
        by_contra hother
        exact hname ⟨name, henv, hlast, hne, hother⟩

/-- The profile of settings that were loaded is the one whose files were merged, unless these
rename it; then it is the new name, whose own files are not read. -/
theorem reports_merged_unless_renamed (h : (load read env dir).run.run = .ok c) :
    ∃ profile common ofProfile, Merges read env dir profile common ofProfile ∧
      (∀ profile' common' ofProfile', Merges read env dir profile' common' ofProfile' →
        profile' = profile) ∧
      (c.profile = profile ↔ ¬ ∃ name, Renames env ofProfile profile name) ∧
      ∀ name, Renames env ofProfile profile name → c.profile = name := by
  obtain ⟨profile, common, ofProfile, hmerges, hvalues, _⟩ := load_ok_iff.1 h
  refine ⟨profile, common, ofProfile, hmerges, fun _ _ _ h' => (hmerges.unique h').1, ⟨?_, ?_⟩, ?_⟩
  · rintro heq ⟨name, hname⟩
    have hreported := profile_of_renames hvalues hname
    exact hname.2.2.2 (hreported.symm.trans heq)
  · exact profile_of_not_renames hmerges hvalues
  · intro name hname
    exact profile_of_renames hvalues hname

end

/-- A directory in which the files of a profile give it another name. -/
def renamingFiles : FileReader Id := fun path =>
  match path.text with
  | "d/.env" => .ok "JOB_VIEWS_PROFILE=p\n".toUTF8.data.toList
  | "d/.env.p" => .ok "JOB_VIEWS_PROFILE=q\nJOB_VIEWS_LOG_LEVEL=warn\n".toUTF8.data.toList
  | _ => .error .notFound

def renamedSettings : Settings := { default with profile := "q", logLevel := "warn" }

theorem load_renaming :
    (load renamingFiles (fun _ => none) ⟨"d"⟩).run.run = .ok renamedSettings := by
  apply except_ok_of_toOption
  decide +kernel

theorem merges_renaming : Merges renamingFiles (fun _ => none) ⟨"d"⟩ "p"
    [("JOB_VIEWS_PROFILE", "p")] [("JOB_VIEWS_PROFILE", "q"), ("JOB_VIEWS_LOG_LEVEL", "warn")] where
  hasCommon := by
    refine ⟨[("JOB_VIEWS_PROFILE", "p")], [], ?_, ⟨rfl, rfl⟩, rfl⟩
    apply except_ok_of_toOption
    decide +kernel
  named := by decide +kernel
  hasOfProfile := by
    refine ⟨[("JOB_VIEWS_PROFILE", "q"), ("JOB_VIEWS_LOG_LEVEL", "warn")], [], ?_, ⟨rfl, rfl⟩, rfl⟩
    apply except_ok_of_toOption
    decide +kernel

/-- The profile that is reported here is not the one whose files were merged. -/
theorem reported_not_merged : ∃ c, (load renamingFiles (fun _ => none) ⟨"d"⟩).run.run = .ok c ∧
    ¬ ∃ common ofProfile,
      Merges renamingFiles (fun _ => none) ⟨"d"⟩ c.profile common ofProfile := by
  refine ⟨renamedSettings, load_renaming, ?_⟩
  rintro ⟨_, _, hmerges⟩
  have heq : renamedSettings.profile = "p" := (merges_renaming.unique hmerges).1
  exact absurd heq (by decide)

theorem reports_merged_unless_renamed_renaming :
    (load renamingFiles (fun _ => none) ⟨"d"⟩).run.run = .ok renamedSettings ∧
    ∃ profile common ofProfile,
      Merges renamingFiles (fun _ => none) ⟨"d"⟩ profile common ofProfile ∧
      (renamedSettings.profile = profile ↔
        ¬ ∃ name, Renames (fun _ => none) ofProfile profile name) ∧
      ∀ name, Renames (fun _ => none) ofProfile profile name → renamedSettings.profile = name := by
  obtain ⟨profile, common, ofProfile, hmerges, _, hreported⟩ :=
    reports_merged_unless_renamed load_renaming
  exact ⟨load_renaming, profile, common, ofProfile, hmerges, hreported⟩

end JobReport.Settings
