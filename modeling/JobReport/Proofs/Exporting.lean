import JobReport.Proofs.Layers
import JobReport.Proofs.Text.Parts

/-!
# Settings go through variables

Settings that were loaded can be told to another process: each member of their own tree becomes a
variable. Where no file says otherwise, the same settings are loaded from these variables, because
whatever was done to the values at the first loading is not done to them again.
-/

set_option autoImplicit false

namespace JobReport.Settings

/-! ## Variables from a tree -/

/-- The characters of a scalar among variables: a text is not quoted there. -/
def plainChars : Json → List Char
  | .str s => s.toList
  | j => j.chars .compact 0

def variableText : Json → String
  | .arr items => String.ofList (Text.joinWith ',' (items.map plainChars))
  | j => String.ofList (plainChars j)

def variablesOf : Json → List (String × String)
  | .obj ms => ms.map fun m => ("JOB_VIEWS_" ++ m.1, variableText m.2)
  | _ => []

/-- The variables of a process that is told settings, and nothing else. -/
def exported (c : Settings) : Environment := fun name =>
  (variablesOf (codec.encode c)).lookup name

def fileNames (profile : String) : List String :=
  [".env", ".env.local", ".env." ++ profile, ".env." ++ profile ++ ".local"]

/-- The value of the variable that each setting is told by. Flags are told of if there are any. -/
def told (c : Settings) : Setting → Option String
  | .profile => some c.profile
  | .logLevel => some c.logLevel
  | .logFormat => some c.logFormat
  | .workerEnvironment => some (Named.name c.workerEnvironment)
  | .logRoot => some c.logRoot.text
  | .logTailLines => some (String.ofList (Text.natChars c.tailLines.toNat))
  | .platformVersion => some c.platformVersion
  | .featureFlags =>
    if c.featureFlags.isEmpty then none
    else some (String.ofList (Text.joinWith ',' (c.featureFlags.map String.toList)))

theorem lookup_variablesOf (ms : List (String × Json)) (key : String) :
    (variablesOf (.obj ms)).lookup ("JOB_VIEWS_" ++ key) = (ms.lookup key).map variableText := by
  rw [variablesOf]
  induction ms with
  | nil => rfl
  | cons m ms ih =>
    obtain ⟨name, j⟩ := m
    rw [List.map_cons]
    by_cases hname : key = name
    · rw [hname, List.lookup_cons_self, List.lookup_cons_self, Option.map_some]
    · have hvariable : ("JOB_VIEWS_" ++ key == "JOB_VIEWS_" ++ name) = false := by
        rwa [beq_eq_false_iff_ne, Ne, String.append_right_inj]
      rw [List.lookup_cons, hvariable, List.lookup_cons, beq_eq_false_iff_ne.2 hname]
      exact ih

/-- Each setting is told by a variable of its own name. -/
theorem exported_variableName (c : Settings) (s : Setting) :
    exported c s.variableName = told c s := by
  change (variablesOf (.obj (shape.members c))).lookup ("JOB_VIEWS_" ++ s.key) = _
  rw [lookup_variablesOf]
  cases s with
  | profile => exact congrArg some String.ofList_toList
  | logLevel => exact congrArg some String.ofList_toList
  | logFormat => exact congrArg some String.ofList_toList
  | workerEnvironment => exact congrArg some String.ofList_toList
  | logRoot => exact congrArg some String.ofList_toList
  | platformVersion => exact congrArg some String.ofList_toList
  | logTailLines =>
    change some (String.ofList (Json.intChars (c.tailLines.toNat : Int))) = _
    rw [Json.intChars, if_neg (by omega), Int.natAbs_natCast, told]
  | featureFlags =>
    change (List.lookup "FEATURE_FLAGS" (if c.featureFlags.isEmpty then []
      else [("FEATURE_FLAGS", .arr (c.featureFlags.map .str))])).map variableText = _
    rw [told]
    by_cases hempty : c.featureFlags.isEmpty = true
    · rw [if_pos hempty, if_pos hempty]
      rfl
    · rw [if_neg hempty, if_neg hempty, List.lookup_cons_self, Option.map_some, variableText,
        List.map_map]
      rfl

/-! ## What was loaded is loaded again -/

/-- A name for a flag has no comma in it and no blanks at its ends. -/
structure IsFlag (name : String) : Prop where
  ne : name ≠ ""
  trimmed : Text.Trimmed name.toList
  noComma : ',' ∉ name.toList

/-- What settings are like that were loaded, from whatever values. -/
structure Normal (c : Settings) : Prop where
  logLevel : c.logLevel ≠ ""
  logFormat : c.logFormat = "json" ∨ c.logFormat = "pretty"
  logRoot : c.logRoot.text ≠ ""
  platformVersion : c.platformVersion ≠ ""
  trimmed : Text.Trimmed c.platformVersion.toList
  featureFlags : ∀ name ∈ c.featureFlags, IsFlag name
  valid : c.validate = .ok ()

theorem isFlag_of_mem {text name : String} (h : name ∈ flagNames text) : IsFlag name := by
  rw [flagNames, List.mem_filter, List.mem_map] at h
  obtain ⟨⟨part, hpart, rfl⟩, hne⟩ := h
  refine ⟨of_decide_eq_true hne, Text.trimmed_trim _, fun hcomma => ?_⟩
  have hmem := Text.mem_of_mem_trim hcomma
  rw [String.toList_ofList] at hmem
  exact Text.not_mem_of_mem_split hpart hmem

/-- Flags are found again in the text that lists them between commas. -/
theorem flagNames_joinWith {names : List String} (h : ∀ name ∈ names, IsFlag name) :
    flagNames (String.ofList (Text.joinWith ',' (names.map String.toList))) = names := by
  by_cases hempty : names = []
  · rw [hempty]
    exact flagNames_empty
  · have hparts : ∀ part ∈ names.map String.toList, ',' ∉ part := by
      rw [List.forall_mem_map]
      exact fun name hname => (h name hname).noComma
    rw [flagNames, String.toList_ofList,
      Text.split_joinWith (mt List.map_eq_nil_iff.1 hempty) hparts, List.map_map]
    have htrim : ∀ name ∈ names,
        ((fun part => Text.trim (String.ofList part)) ∘ String.toList) name = name := by
      intro name hname
      rw [Function.comp_apply, String.ofList_toList, Text.trim_of_trimmed (h name hname).trimmed]
    rw [List.map_congr_left htrim, List.map_id', List.filter_eq_self]
    exact fun name hname => decide_eq_true (h name hname).ne

theorem nonempty_getD_ne (value : Option String) {otherwise : String} (h : otherwise ≠ "") :
    (nonempty value).getD otherwise ≠ "" := by
  cases hvalue : nonempty value with
  | none => exact h
  | some text => exact of_decide_eq_true (Option.filter_eq_some_iff.1 hvalue).2

section

variable {c : Settings} {read read' : FileReader Id} {env : Environment} {dir dir' : Path}
  {profile : String} {raw : Setting → Option String}

theorem normal_of_ofValues (h : ofValues profile raw = .ok c) (hvalid : c.validate = .ok ()) :
    Normal c := by
  obtain ⟨hlevel, _, _, hroot, _, hversion, hflags⟩ := ofValues_fields h
  refine ⟨?_, (validate_ok_iff.1 hvalid).2.1, ?_, ?_, ?_, ?_, hvalid⟩
  · rw [hlevel]
    exact nonempty_getD_ne _ (by decide)
  · have htext : c.logRoot.text = (nonempty (raw .logRoot)).getD default.logRoot.text := by
      rw [hroot]
      cases nonempty (raw .logRoot) <;> rfl
    rw [htext]
    exact nonempty_getD_ne _ (by decide)
  · rw [hversion]
    exact nonempty_getD_ne _ (by decide)
  · cases hraw : nonempty ((raw .platformVersion).map Text.trim) with
    | none =>
      rw [hversion, hraw]
      decide
    | some text =>
      obtain ⟨hmap, _⟩ := Option.filter_eq_some_iff.1 hraw
      obtain ⟨given, _, rfl⟩ := Option.map_eq_some_iff.1 hmap
      rw [hversion, hraw]
      exact Text.trimmed_trim given
  · rw [hflags]
    cases raw .featureFlags with
    | none => exact nofun
    | some text => exact fun name hname => isFlag_of_mem hname

theorem readEnvironment_name (e : WorkerEnvironment) :
    readEnvironment (some (Named.name e)) = .ok e := by
  apply except_ok_of_toOption
  cases e <;> decide +kernel

theorem count?_natChars (n : UInt64) :
    count? (String.ofList (Text.natChars n.toNat)) = some n := by
  have htrimmed : Text.Trimmed (Text.natChars n.toNat) :=
    Text.trimmed_of_no_blank fun _ hc => Text.isBlank_of_isDigit (Text.natChars_digit hc)
  rw [count?, Text.trim_of_trimmed (by rwa [String.toList_ofList]), String.toList_ofList]
  split
  · rename_i digits hplus
    have hdigit : '+'.isDigit = true := Text.natChars_digit (n := n.toNat) (by simp [hplus])
    exact absurd hdigit (by decide)
  · exact Text.word64?_natChars n

theorem readTailLines_natChars (n : UInt64) :
    readTailLines (some (String.ofList (Text.natChars n.toNat))) = .ok n := by
  have hne : String.ofList (Text.natChars n.toNat) ≠ "" := by
    intro heq
    have hchars := congrArg String.toList heq
    rw [String.toList_ofList] at hchars
    exact Nat.toDigits_ne_nil hchars
  rw [readTailLines, nonempty_some hne]
  simp only [count?_natChars]

theorem ofValues_told (h : Normal c) : ofValues c.profile (told c) = .ok c := by
  have hformat : Text.lowercase c.logFormat = c.logFormat ∧ c.logFormat ≠ "" := by
    rcases h.logFormat with hjson | hpretty
    · rw [hjson]
      decide +kernel
    · rw [hpretty]
      decide +kernel
  have hprofile : (nonempty (some c.profile)).getD c.profile = c.profile :=
    nonempty_getD (some c.profile) c.profile
  have hflags : ((told c .featureFlags).map flagNames).getD default.featureFlags =
      c.featureFlags := by
    rw [told]
    split
    · rename_i hempty
      exact (List.isEmpty_iff.1 hempty).symm
    · exact flagNames_joinWith h.featureFlags
  rw [ofValues, hflags]
  simp only [told, readEnvironment_name, readTailLines_natChars, Option.map_some,
    Text.trim_of_trimmed h.trimmed, nonempty_some h.logLevel, nonempty_some hformat.2,
    nonempty_some h.logRoot, nonempty_some h.platformVersion, hformat.1, Option.getD_some,
    hprofile]
  rfl

theorem hasItems_of_notFound {path : Path} (h : (read path).run = .error .notFound) :
    HasItems read env path [] := by
  rw [HasItems, h]
  exact ⟨rfl, rfl⟩

theorem effective_nil (env : Environment) (s : Setting) :
    effective env [] s = env s.variableName := by
  rw [effective]
  exact Option.or_none

/-- Settings that were loaded anywhere are loaded once more, unchanged, by a process that is told
their own members as variables and finds none of the four files. -/
theorem load_exported (h : (load read env dir).run.run = .ok c)
    (hnone : ∀ name ∈ fileNames c.profile, (read' (dir'.join ⟨name⟩)).run = .error .notFound) :
    (load read' (exported c) dir').run.run = .ok c := by
  obtain ⟨profile, common, ofProfile, _, hvalues, hvalid⟩ := load_ok_iff.1 h
  have hnormal := normal_of_ofValues hvalues hvalid
  have htold : effective (exported c) [] = told c := by
    funext s
    rw [effective_nil, exported_variableName]
  have hitems : ∀ name ∈ fileNames c.profile,
      HasItems read' (exported c) (dir'.join ⟨name⟩) [] :=
    fun name hname => hasItems_of_notFound (hnone name hname)
  refine load_ok_iff.2 ⟨c.profile, [], [], ⟨⟨[], [], ?_, ?_, rfl⟩, ?_, ⟨[], [], ?_, ?_, rfl⟩⟩, ?_,
    hvalid⟩
  · exact hitems _ (by simp [fileNames])
  · exact hitems _ (by simp [fileNames])
  · rw [profileOf, htold]
    rfl
  · exact hitems _ (by simp [fileNames])
  · exact hitems _ (by simp [fileNames])
  · rw [List.append_nil, htold]
    exact ofValues_told hnormal

end

/-- A directory in which settings are written in other forms than they are told in. -/
def looseFiles : FileReader Id := fun path =>
  match path.text with
  | "d/.env" =>
    .ok "JOB_VIEWS_WORKER_ENVIRONMENT=' K8s'\nJOB_VIEWS_LOG_TAIL_LINES=+050\n".toUTF8.data.toList
  | "d/.env.local" =>
    .ok "JOB_VIEWS_FEATURE_FLAGS='b, ,a'\nJOB_VIEWS_PLATFORM_VERSION=' 01.2.3'\n".toUTF8.data.toList
  | _ => .error .notFound

def looseSettings : Settings :=
  { default with
    workerEnvironment := .kubernetes
    tailLines := 50
    platformVersion := "01.2.3"
    featureFlags := ["b", "a"] }

theorem load_loose : (load looseFiles (fun _ => none) ⟨"d"⟩).run.run = .ok looseSettings := by
  apply except_ok_of_toOption
  decide +kernel

theorem load_exported_loose :
    (load looseFiles (fun _ => none) ⟨"d"⟩).run.run = .ok looseSettings ∧
    (∀ name ∈ fileNames looseSettings.profile,
      (looseFiles ((Path.mk "e").join ⟨name⟩)).run = .error .notFound) ∧
    (load looseFiles (exported looseSettings) ⟨"e"⟩).run.run = .ok looseSettings := by
  have hnone : ∀ name ∈ fileNames looseSettings.profile,
      (looseFiles ((Path.mk "e").join ⟨name⟩)).run = .error .notFound := by
    simp only [fileNames, List.forall_mem_cons]
    exact ⟨rfl, rfl, rfl, rfl, nofun⟩
  exact ⟨load_loose, hnone, load_exported load_loose hnone⟩

end JobReport.Settings
