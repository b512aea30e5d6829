import JobReport.Proofs.Traversal
import JobReport.Settings.Load
import Mathlib.Data.List.Basic

/-!
# Which layer decides a setting

For each setting one value counts: that of the process, or else the last one in the last file that
sets it. A value that is empty hides those of the layers below it and leaves the default. Whatever
else the files and the process hold has no part in the setting.
-/

set_option autoImplicit false

namespace JobReport

namespace EnvFile

variable {name value : String} {items : List Item}

theorem last?_append (name : String) (xs ys : List Item) :
    last? name (xs ++ ys) = (last? name ys).or (last? name xs) := by
  rw [last?, last?, last?, List.reverse_append, List.lookup_append]

theorem last?_eq_some_iff : last? name items = some value ↔
    ∃ before after, items = before ++ (name, value) :: after ∧ ∀ i ∈ after, i.1 ≠ name := by
  rw [last?, List.lookup_eq_some_iff]
  constructor
  · rintro ⟨after, before, hitems, hafter⟩
    refine ⟨before.reverse, after.reverse, ?_, ?_⟩
    · have hreverse := congrArg List.reverse hitems
      simpa using hreverse
    · intro i hi heq
      have hne := hafter i (List.mem_reverse.1 hi)
      simp [heq] at hne
  · rintro ⟨before, after, hitems, hafter⟩
    refine ⟨after.reverse, before.reverse, by simp [hitems], ?_⟩
    intro i hi
    have hne := hafter i (List.mem_reverse.1 hi)
    simpa using hne.symm

theorem last?_eq_none_iff : last? name items = none ↔ ∀ i ∈ items, i.1 ≠ name := by
  rw [last?, List.lookup_eq_none_iff]
  constructor
  · intro h i hi heq
    have hne := h i (List.mem_reverse.2 hi)
    simp [heq] at hne
  · intro h i hi
    simpa using (h i (List.mem_reverse.1 hi)).symm

theorem itemsFrom_cons (env : Environment) (items : List Item)
    (line : Except EnvFault (List Char)) (rest : List (Except EnvFault (List Char))) :
    itemsFrom env items (line :: rest) =
      (line >>= item? env items) >>= fun item => itemsFrom env (items ++ item.toList) rest := by
  cases line <;> rfl

end EnvFile

namespace Settings

open EnvFile (Item)

/-- The value that counts for a name: that of the process, or else the last one that the last file
to set the name gives it. -/
inductive Counts (env : Environment) (files : List (List Item)) (name : String) :
    Option String → Prop where
  | process {value : String} (h : env name = some value) : Counts env files name (some value)
  | file {lower higher : List (List Item)} {before after : List Item} {value : String}
    (h : env name = none) (hfiles : files = lower ++ (before ++ (name, value) :: after) :: higher)
    (hafter : ∀ i ∈ after, i.1 ≠ name) (hhigher : ∀ f ∈ higher, ∀ i ∈ f, i.1 ≠ name) :
    Counts env files name (some value)
  | nothing (h : env name = none) (hfiles : ∀ f ∈ files, ∀ i ∈ f, i.1 ≠ name) :
    Counts env files name none

section

variable {env : Environment} {name : String} {value : Option String}

theorem counts_flatten (files : List (List Item)) :
    Counts env files name ((env name).or (EnvFile.last? name files.flatten)) := by
  cases h : env name with
  | some value => exact .process h
  | none =>
    rw [Option.none_or]
    induction files with
    | nil => exact .nothing h (by simp)
    | cons f fs ih =>
      rw [List.flatten_cons, EnvFile.last?_append]
      cases hfs : EnvFile.last? name fs.flatten with
      | some value =>
        rw [hfs] at ih
        cases ih with
        | process h' => rw [h] at h'; cases h'
        | file _ hfiles hafter hhigher =>
          have hlonger := congrArg (f :: ·) hfiles
          rw [← List.cons_append] at hlonger
          exact .file h hlonger hafter hhigher
      | none =>
        have hnone : ∀ g ∈ fs, ∀ i ∈ g, i.1 ≠ name := fun g hg i hi =>
          EnvFile.last?_eq_none_iff.1 hfs i (List.mem_flatten.2 ⟨g, hg, hi⟩)
        cases hf : EnvFile.last? name f with
        | some value =>
          obtain ⟨before, after, rfl, hafter⟩ := EnvFile.last?_eq_some_iff.1 hf
          have hfirst : (before ++ (name, value) :: after) :: fs =
              [] ++ (before ++ (name, value) :: after) :: fs := rfl
          exact .file h hfirst hafter hnone
        | none =>
          refine .nothing h ?_
          intro g hg i hi
          rcases List.mem_cons.1 hg with rfl | hg
          · exact EnvFile.last?_eq_none_iff.1 hf i hi
          · exact hnone g hg i hi

theorem counts_iff {files : List (List Item)} :
    Counts env files name value ↔ value = (env name).or (EnvFile.last? name files.flatten) := by
  constructor
  · intro h
    cases h with
    | process h => rw [h, Option.some_or]
    | @file lower higher before after value h hfiles hafter hhigher =>
      have hitems : files.flatten =
          (lower.flatten ++ before) ++ (name, value) :: (after ++ higher.flatten) := by
        simp [hfiles]
      have hlater : ∀ i ∈ after ++ higher.flatten, i.1 ≠ name := by
        intro i hi
        rcases List.mem_append.1 hi with hi | hi
        · exact hafter i hi
        · obtain ⟨f, hf, hif⟩ := List.mem_flatten.1 hi
          exact hhigher f hf i hif
      rw [h, EnvFile.last?_eq_some_iff.2 ⟨_, _, hitems, hlater⟩, Option.none_or]
    | nothing h hfiles =>
      have hnone : ∀ i ∈ files.flatten, i.1 ≠ name := by
        intro i hi
        obtain ⟨f, hf, hif⟩ := List.mem_flatten.1 hi
        exact hfiles f hf i hif
      rw [h, EnvFile.last?_eq_none_iff.2 hnone, Option.none_or]
  · rintro rfl
    exact counts_flatten files

end

/-- The items of a file; a file that is not there has none. -/
def HasItems (read : FileReader Id) (env : Environment) (path : Path) (items : List Item) : Prop :=
  match (read path).run with
  | .ok bytes => EnvFile.items env bytes = .ok items
  | .error cause => cause = .notFound ∧ items = []

/-- The values that count for the settings of a process whose files are in a directory. The profile
that the first two files and the process name tells the other two. -/
def Layered (read : FileReader Id) (env : Environment) (dir : Path)
    (raw : Setting → Option String) : Prop :=
  ∃ shared own named sharedOfProfile ownOfProfile,
    HasItems read env (dir.join ⟨".env"⟩) shared ∧
    HasItems read env (dir.join ⟨".env.local"⟩) own ∧
    Counts env [shared, own] (Setting.variableName .profile) named ∧
    HasItems read env (dir.join ⟨".env." ++ named.getD default.profile⟩) sharedOfProfile ∧
    HasItems read env (dir.join ⟨".env." ++ named.getD default.profile ++ ".local"⟩) ownOfProfile ∧
    ∀ s : Setting,
      Counts env [shared, own, sharedOfProfile, ownOfProfile] s.variableName (raw s)

/-- Whether the first two files have the common items, by which and by the process the profile is
named, and the two files of that profile have its own items. -/
structure Merges (read : FileReader Id) (env : Environment) (dir : Path) (profile : String)
    (common ofProfile : List Item) : Prop where
  hasCommon : ∃ shared own, HasItems read env (dir.join ⟨".env"⟩) shared ∧
    HasItems read env (dir.join ⟨".env.local"⟩) own ∧ common = shared ++ own
  named : profile = profileOf env common
  hasOfProfile : ∃ shared own, HasItems read env (dir.join ⟨".env." ++ profile⟩) shared ∧
    HasItems read env (dir.join ⟨".env." ++ profile ++ ".local"⟩) own ∧ ofProfile = shared ++ own

def Silent (s : Setting) : Option String → Prop
  | none => True
  | some text => (if s = .platformVersion then Text.trim text else text) = ""

def Agree (c d : Settings) : Setting → Prop
  | .profile => c.profile = d.profile
  | .logLevel => c.logLevel = d.logLevel
  | .logFormat => c.logFormat = d.logFormat
  | .workerEnvironment => c.workerEnvironment = d.workerEnvironment
  | .logRoot => c.logRoot = d.logRoot
  | .logTailLines => c.tailLines = d.tailLines
  | .platformVersion => c.platformVersion = d.platformVersion
  | .featureFlags => c.featureFlags = d.featureFlags

/-- What a value that is not silent makes of a setting. -/
def Says (c : Settings) (text : String) : Setting → Prop
  | .profile => True
  | .logLevel => c.logLevel = text
  | .logFormat => c.logFormat = Text.lowercase text
  | .workerEnvironment => WorkerEnvironment.parse text = .ok c.workerEnvironment
  | .logRoot => c.logRoot = ⟨text⟩
  | .logTailLines => count? text = some c.tailLines
  | .platformVersion => c.platformVersion = Text.trim text
  | .featureFlags => c.featureFlags = flagNames text

section

variable {read : FileReader Id} {env : Environment} {dir : Path} {c d : Settings}
  {raw : Setting → Option String}

theorem layer_run (read : FileReader Id) (env : Environment) (path : Path) :
    (layer read env path).run.run = match (read path).run with
      | .ok bytes => (EnvFile.items env bytes).mapError (.envFile path)
      | .error .notFound => .ok []
      | .error cause => .error (.envFile path (.file cause)) := by
  unfold layer
  generalize read path = answer
  change Except FileFault Text.Bytes at answer
  cases answer with
  | ok bytes => rfl
  | error cause => cases cause <;> rfl

theorem layer_ok_iff {path : Path} {items : List Item} :
    (layer read env path).run.run = .ok items ↔ HasItems read env path items := by
  rw [layer_run]
  unfold HasItems
  cases (read path).run with
  | ok bytes => exact except_mapError_ok_iff
  | error cause =>
    change _ ↔ cause = .notFound ∧ items = []
    constructor
    · intro h
      cases cause <;> cases h
      exact ⟨rfl, rfl⟩
    · rintro ⟨rfl, rfl⟩
      rfl

theorem hasItems_unique {path : Path} {items items' : List Item}
    (h : HasItems read env path items) (h' : HasItems read env path items') : items = items' := by
  unfold HasItems at h h'
  cases hread : (read path).run with
  | ok bytes =>
    rw [hread] at h h'
    exact Except.ok.inj (h.symm.trans h')
  | error cause =>
    rw [hread] at h h'
    exact h.2.trans h'.2.symm

/-- Settings are loaded when the four files can be merged and their values stand for settings that
the program can go by. -/
theorem load_ok_iff : (load read env dir).run.run = .ok c ↔
    ∃ profile common ofProfile, Merges read env dir profile common ofProfile ∧
      ofValues profile (effective env (common ++ ofProfile)) = .ok c ∧ c.validate = .ok () := by
  rw [load]
  simp only [run_bind_ok_iff, layer_ok_iff]
  constructor
  · rintro ⟨shared, hshared, own, hown, sharedOfProfile, hsharedOfProfile, ownOfProfile,
      hownOfProfile, settings, hvalues, _, hvalid, hc⟩
    cases hc
    refine ⟨_, shared ++ own, sharedOfProfile ++ ownOfProfile, ⟨⟨_, _, hshared, hown, rfl⟩, rfl,
      ⟨_, _, hsharedOfProfile, hownOfProfile, rfl⟩⟩, ?_, hvalid⟩
    rw [← List.append_assoc]
    exact hvalues
  · rintro ⟨_, _, _, ⟨⟨shared, own, hshared, hown, rfl⟩, rfl, sharedOfProfile, ownOfProfile,
      hsharedOfProfile, hownOfProfile, rfl⟩, hvalues, hvalid⟩
    rw [← List.append_assoc] at hvalues
    exact ⟨shared, hshared, own, hown, sharedOfProfile, hsharedOfProfile, ownOfProfile,
      hownOfProfile, c, hvalues, (), hvalid, rfl⟩

theorem Merges.unique {profile profile' : String} {common common' ofProfile ofProfile' : List Item}
    (h : Merges read env dir profile common ofProfile)
    (h' : Merges read env dir profile' common' ofProfile') :
    profile' = profile ∧ common' = common ∧ ofProfile' = ofProfile := by
  obtain ⟨⟨shared, own, hshared, hown, rfl⟩, rfl, sharedOfProfile, ownOfProfile, hsharedOfProfile,
    hownOfProfile, rfl⟩ := h
  obtain ⟨⟨shared', own', hshared', hown', rfl⟩, rfl, sharedOfProfile', ownOfProfile',
    hsharedOfProfile', hownOfProfile', rfl⟩ := h'
  -- The first two files come first, since the names of the others depend on them.
  obtain rfl := hasItems_unique hshared hshared'
  obtain rfl := hasItems_unique hown hown'
  obtain rfl := hasItems_unique hsharedOfProfile hsharedOfProfile'
  obtain rfl := hasItems_unique hownOfProfile hownOfProfile'
  exact ⟨rfl, rfl, rfl⟩

theorem Merges.layered {profile : String} {common ofProfile : List Item}
    (h : Merges read env dir profile common ofProfile) :
    Layered read env dir (effective env (common ++ ofProfile)) := by
  obtain ⟨⟨shared, own, hshared, hown, rfl⟩, rfl, sharedOfProfile, ownOfProfile, hsharedOfProfile,
    hownOfProfile, rfl⟩ := h
  refine ⟨shared, own, _, sharedOfProfile, ownOfProfile, hshared, hown, counts_flatten _, ?_, ?_,
    fun s => ?_⟩
  · simpa [profileOf, effective] using hsharedOfProfile
  · simpa [profileOf, effective] using hownOfProfile
  · rw [counts_iff, effective]
    simp [List.append_assoc]

/-- Where the files can be merged, settings are loaded from the values that count. -/
theorem load_of_layered (h : Layered read env dir raw) : ∃ profile,
    (load read env dir).run.run =
      ofValues profile raw >>= fun c => c.validate >>= fun _ => pure c := by
  obtain ⟨shared, own, named, sharedOfProfile, ownOfProfile, hshared, hown, hnamed,
    hsharedOfProfile, hownOfProfile, hraw⟩ := h
  have hprofile : named.getD default.profile = profileOf env (shared ++ own) := by
    rw [counts_iff.1 hnamed]
    simp [profileOf, effective]
  have hvalues : effective env (shared ++ own ++ sharedOfProfile ++ ownOfProfile) = raw := by
    funext s
    rw [counts_iff.1 (hraw s), effective]
    simp [List.append_assoc]
  rw [hprofile] at hsharedOfProfile hownOfProfile
  refine ⟨profileOf env (shared ++ own), ?_⟩
  simp only [load, run_bind, layer_ok_iff.2 hshared, layer_ok_iff.2 hown]
  change ((layer read env _).run.run >>= fun _ => _ >>= fun _ => _) = _
  rw [layer_ok_iff.2 hsharedOfProfile]
  change ((layer read env _).run.run >>= fun _ => _) = _
  rw [layer_ok_iff.2 hownOfProfile, ← hvalues]
  rfl

/-- Settings that the program can go by have lines to show, a format that it knows and a version. -/
theorem validate_ok_iff : c.validate = .ok () ↔
    c.tailLines ≠ 0 ∧ (c.logFormat = "json" ∨ c.logFormat = "pretty") ∧
      ∃ version, c.version = .ok version := by
  rw [validate]
  split
  · rename_i hlines
    constructor
    · rintro ⟨⟩
    · rintro ⟨hne, _⟩
      exact absurd hlines hne
  · rename_i hlines
    split
    · rename_i hformat
      constructor
      · rintro ⟨⟩
      · rintro ⟨_, hknown | hknown, _⟩
        · exact absurd hknown hformat.1
        · exact absurd hknown hformat.2
    · rename_i hformat
      have hknown : c.logFormat = "json" ∨ c.logFormat = "pretty" := by
        rw [not_and_or, not_not, not_not] at hformat
        exact hformat
      rw [except_bind_ok_iff]
      constructor
      · rintro ⟨version, hversion, _⟩
        exact ⟨hlines, hknown, version, hversion⟩
      · rintro ⟨_, _, version, hversion⟩
        exact ⟨version, hversion, rfl⟩

theorem load_ok (h : (load read env dir).run.run = .ok c) :
    ∃ profile raw, Layered read env dir raw ∧ ofValues profile raw = .ok c := by
  obtain ⟨profile, common, ofProfile, hmerges, hvalues, _⟩ := load_ok_iff.1 h
  exact ⟨profile, _, hmerges.layered, hvalues⟩

theorem nonempty_empty : nonempty (some "") = none := rfl

theorem nonempty_some {text : String} (h : text ≠ "") : nonempty (some text) = some text := by
  simp [nonempty, h]

theorem nonempty_getD (value : Option String) (otherwise : String) :
    (nonempty value).getD (value.getD otherwise) = value.getD otherwise := by
  cases value with
  | none => rfl
  | some text =>
    by_cases htext : text = ""
    · rw [htext, nonempty_empty]
      rfl
    · rw [nonempty_some htext]
      rfl

theorem nonempty_of_silent {s : Setting} {value : Option String} (hs : s ≠ .platformVersion)
    (h : Silent s value) : nonempty value = none := by
  cases value with
  | none => rfl
  | some text =>
    have htext : text = "" := by simpa [Silent, hs] using h
    rw [htext, nonempty_empty]

theorem nonempty_of_not_silent {s : Setting} {text : String} (hs : s ≠ .platformVersion)
    (h : ¬ Silent s (some text)) : nonempty (some text) = some text := by
  apply nonempty_some
  simpa [Silent, hs] using h

theorem flagNames_empty : flagNames "" = [] := by decide +kernel

theorem ofValues_fields {profile : String} (h : ofValues profile raw = .ok c) :
    c.logLevel = (nonempty (raw .logLevel)).getD default.logLevel ∧
    c.logFormat = ((nonempty (raw .logFormat)).map Text.lowercase).getD default.logFormat ∧
    readEnvironment (raw .workerEnvironment) = .ok c.workerEnvironment ∧
    c.logRoot = ((nonempty (raw .logRoot)).map Path.mk).getD default.logRoot ∧
    readTailLines (raw .logTailLines) = .ok c.tailLines ∧
    c.platformVersion =
      (nonempty ((raw .platformVersion).map Text.trim)).getD default.platformVersion ∧
    c.featureFlags = ((raw .featureFlags).map flagNames).getD default.featureFlags := by
  rw [ofValues] at h
  cases henv : readEnvironment (raw .workerEnvironment) with
  | error e => rw [henv] at h; cases h
  | ok environment =>
    cases htail : readTailLines (raw .logTailLines) with
    | error e => rw [henv, htail] at h; cases h
    | ok tailLines =>
      rw [henv, htail] at h
      cases h
      exact ⟨rfl, rfl, rfl, rfl, rfl, rfl, rfl⟩

/-- A silent value leaves the default of its setting. -/
theorem ofValues_silent {profile : String} (h : ofValues profile raw = .ok c) {s : Setting}
    (hs : s ≠ .profile) (hsilent : Silent s (raw s)) : Agree c default s := by
  obtain ⟨hlevel, hformat, henv, hroot, htail, hversion, hflags⟩ := ofValues_fields h
  cases s with
  | profile => exact absurd rfl hs
  | logLevel =>
    rw [nonempty_of_silent (by decide) hsilent] at hlevel
    exact hlevel
  | logFormat =>
    rw [nonempty_of_silent (by decide) hsilent] at hformat
    exact hformat
  | workerEnvironment =>
    rw [readEnvironment, nonempty_of_silent (by decide) hsilent] at henv
    exact (Except.ok.inj henv).symm
  | logRoot =>
    rw [nonempty_of_silent (by decide) hsilent] at hroot
    exact hroot
  | logTailLines =>
    rw [readTailLines, nonempty_of_silent (by decide) hsilent] at htail
    exact (Except.ok.inj htail).symm
  | platformVersion =>
    cases hraw : raw .platformVersion with
    | none =>
      rw [hraw] at hversion
      exact hversion
    | some text =>
      have htrim : Text.trim text = "" := by simpa [Silent, hraw] using hsilent
      rw [hraw, Option.map_some, htrim, nonempty_empty] at hversion
      exact hversion
  | featureFlags =>
    cases hraw : raw .featureFlags with
    | none =>
      rw [hraw] at hflags
      exact hflags
    | some text =>
      have htext : text = "" := by simpa [Silent, hraw] using hsilent
      rw [hraw, htext, Option.map_some, flagNames_empty] at hflags
      exact hflags

theorem says_ofValues {profile : String} (h : ofValues profile raw = .ok c) {s : Setting}
    {text : String} (hraw : raw s = some text) (hsilent : ¬ Silent s (some text)) :
    Says c text s := by
  obtain ⟨hlevel, hformat, henv, hroot, htail, hversion, hflags⟩ := ofValues_fields h
  cases s with
  | profile => trivial
  | logLevel =>
    rw [hraw, nonempty_of_not_silent (by decide) hsilent] at hlevel
    exact hlevel
  | logFormat =>
    rw [hraw, nonempty_of_not_silent (by decide) hsilent] at hformat
    exact hformat
  | workerEnvironment =>
    rw [hraw, readEnvironment, nonempty_of_not_silent (by decide) hsilent] at henv
    change (WorkerEnvironment.parse text).mapError _ = .ok _ at henv
    cases hparse : WorkerEnvironment.parse text with
    | error e => rw [hparse] at henv; cases henv
    | ok e =>
      rw [hparse] at henv
      exact hparse.trans (congrArg Except.ok (Except.ok.inj henv))
  | logRoot =>
    rw [hraw, nonempty_of_not_silent (by decide) hsilent] at hroot
    exact hroot
  | logTailLines =>
    rw [hraw, readTailLines, nonempty_of_not_silent (by decide) hsilent] at htail
    cases hcount : count? text with
    | none => simp [hcount] at htail
    | some n =>
      simp only [hcount] at htail
      exact hcount.trans (congrArg some (Except.ok.inj htail))
  | platformVersion =>
    have htrim : Text.trim text ≠ "" := by simpa [Silent] using hsilent
    rw [hraw, Option.map_some, nonempty_some htrim] at hversion
    exact hversion
  | featureFlags =>
    rw [hraw] at hflags
    exact hflags

theorem says_unique {text : String} {s : Setting} (hs : s ≠ .profile) (hc : Says c text s)
    (hd : Says d text s) : Agree c d s := by
  cases s with
  | profile => exact absurd rfl hs
  | logLevel => exact Eq.trans hc (Eq.symm hd)
  | logFormat => exact Eq.trans hc (Eq.symm hd)
  | workerEnvironment => exact Except.ok.inj (Eq.trans (Eq.symm hc) hd)
  | logRoot => exact Eq.trans hc (Eq.symm hd)
  | logTailLines => exact Option.some.inj (Eq.trans (Eq.symm hc) hd)
  | platformVersion => exact Eq.trans hc (Eq.symm hd)
  | featureFlags => exact Eq.trans hc (Eq.symm hd)

theorem agree_of_default {s : Setting} (hc : Agree c default s) (hd : Agree d default s) :
    Agree c d s := by
  cases s <;> exact Eq.trans hc (Eq.symm hd)

theorem layered_unique {raw' : Setting → Option String} (h : Layered read env dir raw)
    (h' : Layered read env dir raw') : raw' = raw := by
  obtain ⟨shared, own, named, sharedOfProfile, ownOfProfile, hshared, hown, hnamed,
    hsharedOfProfile, hownOfProfile, hraw⟩ := h
  obtain ⟨shared', own', named', sharedOfProfile', ownOfProfile', hshared', hown', hnamed',
    hsharedOfProfile', hownOfProfile', hraw'⟩ := h'
  -- The first two files come first, since the names of the others depend on them.
  obtain rfl := hasItems_unique hshared hshared'
  obtain rfl := hasItems_unique hown hown'
  obtain rfl := (counts_iff.1 hnamed).trans (counts_iff.1 hnamed').symm
  obtain rfl := hasItems_unique hsharedOfProfile hsharedOfProfile'
  obtain rfl := hasItems_unique hownOfProfile hownOfProfile'
  funext s
  exact (counts_iff.1 (hraw' s)).trans (counts_iff.1 (hraw s)).symm

theorem ofValues_agree {profile profile' : String} {raw' : Setting → Option String}
    (h : ofValues profile raw = .ok c) (h' : ofValues profile' raw' = .ok d) {s : Setting}
    (hs : s ≠ .profile) (heq : raw' s = raw s) : Agree c d s := by
  by_cases hsilent : Silent s (raw s)
  · exact agree_of_default (ofValues_silent h hs hsilent)
      (ofValues_silent h' hs (heq ▸ hsilent))
  · cases hraw : raw s with
    | none => exact absurd (hraw ▸ trivial) hsilent
    | some text =>
      rw [hraw] at hsilent heq
      exact says_unique hs (says_ofValues h hraw hsilent) (says_ofValues h' heq hsilent)

/-- Every setting but the profile is decided by the one value that counts for it: a silent value
leaves the default, any other says what the setting is, and settings loaded elsewhere from the same
value agree, whatever else the files and the process hold. -/
theorem load_by_effective_values (h : (load read env dir).run.run = .ok c) :
    ∃ raw, Layered read env dir raw ∧
      (∀ raw', Layered read env dir raw' → raw' = raw) ∧
      ∀ s ≠ .profile,
        (Silent s (raw s) → Agree c default s) ∧
        (∀ text, raw s = some text → ¬ Silent s (some text) → Says c text s) ∧
        ∀ read' env' dir' raw' d, (load read' env' dir').run.run = .ok d →
          Layered read' env' dir' raw' → raw' s = raw s → Agree c d s := by
  obtain ⟨profile, raw, hlayered, hvalues⟩ := load_ok h
  refine ⟨raw, hlayered, fun raw' h' => layered_unique hlayered h', fun s hs => ⟨?_, ?_, ?_⟩⟩
  · exact ofValues_silent hvalues hs
  · intro text hraw hsilent
    exact says_ofValues hvalues hraw hsilent
  · intro read' env' dir' raw' d h' hlayered' heq
    obtain ⟨profile', raw'', hlayered'', hvalues'⟩ := load_ok h'
    obtain rfl := layered_unique hlayered'' hlayered'
    exact ofValues_agree hvalues hvalues' hs heq

end

def noFiles : FileReader Id := fun _ => .error .notFound

/-- A directory in which the files of a profile hide a value with an empty one. -/
def maskedFiles : FileReader Id := fun path =>
  match path.text with
  | "d/.env" => .ok "JOB_VIEWS_PROFILE=p\nJOB_VIEWS_LOG_LEVEL=warn\n".toUTF8.data.toList
  | "d/.env.local" => .ok "JOB_VIEWS_LOG_FORMAT=Pretty\n".toUTF8.data.toList
  | "d/.env.p" => .ok "JOB_VIEWS_LOG_LEVEL=\n".toUTF8.data.toList
  | _ => .error .notFound

def maskedSettings : Settings := { default with profile := "p", logFormat := "pretty" }

theorem load_masked :
    (load maskedFiles (fun _ => none) ⟨"d"⟩).run.run = .ok maskedSettings := by
  apply except_ok_of_toOption
  decide +kernel

theorem load_by_effective_values_masked :
    (load maskedFiles (fun _ => none) ⟨"d"⟩).run.run = .ok maskedSettings ∧
    ∃ raw, Layered maskedFiles (fun _ => none) ⟨"d"⟩ raw ∧
      (Silent .logLevel (raw .logLevel) → maskedSettings.logLevel = default.logLevel) ∧
      ∀ text, raw .logFormat = some text → ¬ Silent .logFormat (some text) →
        maskedSettings.logFormat = Text.lowercase text := by
  obtain ⟨raw, hlayered, _, hall⟩ := load_by_effective_values load_masked
  have hlevel := (hall .logLevel (by decide)).1
  have hformat := (hall .logFormat (by decide)).2.1
  exact ⟨load_masked, raw, hlayered, hlevel, hformat⟩

end Settings

end JobReport
