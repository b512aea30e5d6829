import JobReport.Proofs.Rejecting
import JobReport.Proofs.Version.Grammar

/-!
# What keeps settings from being loaded

Settings are refused for a file that cannot be had, or else for one of the values that count. The
checks are made in one order, and the first that refuses tells the error. A file that is not there
is no reason to refuse, and neither is a value that is empty. On some files the program breaks off,
where it comes to them, and no check that comes after them is made.
-/

set_option autoImplicit false

namespace JobReport

/-! ## The first of several checks -/

/-- Whether this is the error of the first check that refuses. -/
def FirstOf {ι ε : Type} (checks : List ι) (refuses : ι → ε → Prop) (e : ε) : Prop :=
  ∃ before check after, checks = before ++ check :: after ∧
    (∀ earlier ∈ before, ∀ e', ¬ refuses earlier e') ∧ refuses check e

section

variable {ι ε α β : Type} {check : ι} {checks first rest : List ι} {refuses refuses' : ι → ε → Prop}
  {e : ε} {x : Except ε α} {f : α → Except ε β}

theorem not_firstOf_nil : ¬ FirstOf [] refuses e := by
  rintro ⟨before, check, after, h, _⟩
  simp at h

theorem firstOf_cons : FirstOf (check :: checks) refuses e ↔
    refuses check e ∨ (∀ e', ¬ refuses check e') ∧ FirstOf checks refuses e := by
  constructor
  · rintro ⟨before, first, after, h, hbefore, hfirst⟩
    cases before with
    | nil =>
      cases h
      exact .inl hfirst
    | cons b before =>
      cases h
      obtain ⟨hb, hbefore⟩ := List.forall_mem_cons.1 hbefore
      exact .inr ⟨hb, before, first, after, rfl, hbefore, hfirst⟩
  · rintro (h | ⟨hcheck, before, first, after, rfl, hbefore, hfirst⟩)
    · exact ⟨[], check, checks, rfl, nofun, h⟩
    · exact ⟨check :: before, first, after, rfl, List.forall_mem_cons.2 ⟨hcheck, hbefore⟩, hfirst⟩

theorem firstOf_append : FirstOf (first ++ rest) refuses e ↔ FirstOf first refuses e ∨
    (∀ check ∈ first, ∀ e', ¬ refuses check e') ∧ FirstOf rest refuses e := by
  induction first with
  | nil => simp [not_firstOf_nil]
  | cons check first ih =>
    rw [List.cons_append, firstOf_cons, firstOf_cons, ih, List.forall_mem_cons, and_or_left,
      or_assoc, and_assoc]

theorem exists_firstOf_iff :
    (∃ e, FirstOf checks refuses e) ↔ ∃ check ∈ checks, ∃ e, refuses check e := by
  induction checks with
  | nil => simp [not_firstOf_nil]
  | cons check checks ih =>
    simp only [firstOf_cons, List.exists_mem_cons_iff, ← ih]
    by_cases hcheck : ∃ e, refuses check e
    · obtain ⟨e, he⟩ := hcheck
      exact ⟨fun _ => .inl ⟨e, he⟩, fun _ => ⟨e, .inl he⟩⟩
    · have hnone : ∀ e, ¬ refuses check e := not_exists.1 hcheck
      simp [hnone]

theorem firstOf_congr (h : ∀ check ∈ checks, ∀ e, refuses check e ↔ refuses' check e) :
    FirstOf checks refuses e ↔ FirstOf checks refuses' e := by
  induction checks with
  | nil => simp only [not_firstOf_nil]
  | cons check checks ih =>
    obtain ⟨hcheck, hchecks⟩ := List.forall_mem_cons.1 h
    simp only [firstOf_cons, hcheck, ih hchecks]

/-- Steps that fail as some checks refuse, and after them steps that fail as others do. -/
theorem firstOf_bind (hx : ∀ e, x = .error e ↔ FirstOf first refuses e)
    (hf : ∀ a, x = .ok a → (f a = .error e ↔ FirstOf rest refuses e)) :
    (x >>= f) = .error e ↔ FirstOf (first ++ rest) refuses e := by
  have hnone : (∃ a, x = .ok a) ↔ ∀ check ∈ first, ∀ e', ¬ refuses check e' := by
    have hany : (∃ e, FirstOf first refuses e) ↔ _ := exists_firstOf_iff
    simp only [← hx] at hany
    cases x with
    | ok a => simpa using hany
    | error e' => simpa using hany
  rw [firstOf_append, except_bind_error_iff, hx, ← hnone]
  constructor
  · rintro (h | ⟨a, ha, h⟩)
    · exact .inl h
    · exact .inr ⟨⟨a, ha⟩, (hf a ha).1 h⟩
  · rintro (h | ⟨⟨a, ha⟩, h⟩)
    · exact .inl h
    · exact .inr ⟨a, ha, (hf a ha).2 h⟩

theorem firstOf_bind_cons (hx : ∀ e, x = .error e ↔ refuses check e)
    (hf : ∀ a, x = .ok a → (f a = .error e ↔ FirstOf rest refuses e)) :
    (x >>= f) = .error e ↔ FirstOf (check :: rest) refuses e := by
  have hfirst : ∀ e, x = .error e ↔ FirstOf [check] refuses e := by
    intro e
    simp [hx, firstOf_cons, not_firstOf_nil]
  exact firstOf_bind hfirst hf

end

namespace Settings

/-! ## What each check refuses -/

inductive Check where
  | sharedFile
  | ownFile
  | sharedFileOfProfile
  | ownFileOfProfile
  | workerEnvironment
  | tailLinesText
  | noTailLines
  | logFormat
  | platformVersion
  deriving DecidableEq, Repr

/-- The checks in the order in which they are made. -/
def Check.all : List Check :=
  [.sharedFile, .ownFile, .sharedFileOfProfile, .ownFileOfProfile, .workerEnvironment,
    .tailLinesText, .noTailLines, .logFormat, .platformVersion]

theorem Check.mem_all (check : Check) : check ∈ Check.all := by cases check <;> decide

/-- Why the items of a file cannot be had, if it is there. -/
inductive Broken (read : FileReader Id) (env : Environment) (path : Path) : EnvFault → Prop where
  | unread {cause : FileFault} (h : (read path).run = .error cause) (hthere : cause ≠ .notFound) :
    Broken read env path (.file cause)
  | rejected {bytes : Text.Bytes} {cause : EnvFault} (h : (read path).run = .ok bytes)
    (hline : EnvFile.Rejects env bytes cause) : Broken read env path cause

def NamesProfile (read : FileReader Id) (env : Environment) (dir : Path) (profile : String) :
    Prop :=
  ∃ shared own named,
    HasItems read env (dir.join ⟨".env"⟩) shared ∧
    HasItems read env (dir.join ⟨".env.local"⟩) own ∧
    Counts env [shared, own] (Setting.variableName .profile) named ∧
    profile = named.getD default.profile

inductive Reads (read : FileReader Id) (env : Environment) (dir : Path) :
    Check → String → Prop where
  | shared : Reads read env dir .sharedFile ".env"
  | own : Reads read env dir .ownFile ".env.local"
  | sharedOfProfile {profile : String} (h : NamesProfile read env dir profile) :
    Reads read env dir .sharedFileOfProfile (".env." ++ profile)
  | ownOfProfile {profile : String} (h : NamesProfile read env dir profile) :
    Reads read env dir .ownFileOfProfile (".env." ++ profile ++ ".local")

/-- Whether a text writes a number of lines, with blanks around it and perhaps a plus sign. -/
def WritesCount (text : String) (n : UInt64) : Prop :=
  ∃ digits, PlatformVersion.Writes digits n ∧
    ((Text.trim text).toList = digits ∨ (Text.trim text).toList = '+' :: digits)

/-- The values for which settings are refused, each with the error that tells of it. -/
inductive Bad (value : Setting → Option String) : Check → SettingsError → Prop where
  | workerEnvironment {text : String} (h : value .workerEnvironment = some text) (hne : text ≠ "")
    (hname : Text.lowercase (Text.trim text) ∉ ["docker", "kubernetes", "k8s"]) :
    Bad value .workerEnvironment (.workerEnvironment text)
  | tailLinesText {text : String} (h : value .logTailLines = some text) (hne : text ≠ "")
    (hcount : ∀ n, ¬ WritesCount text n) : Bad value .tailLinesText (.tailLinesText text)
  | noTailLines {text : String} (h : value .logTailLines = some text)
    (hcount : WritesCount text 0) : Bad value .noTailLines .noTailLines
  | logFormat {text : String} (h : value .logFormat = some text) (hne : text ≠ "")
    (hformat : Text.lowercase text ∉ ["json", "pretty"]) :
    Bad value .logFormat (.logFormat (Text.lowercase text))
  | platformVersion {text : String} (h : value .platformVersion = some text)
    (hne : Text.trim text ≠ "")
    (hversion : ∀ v, ¬ PlatformVersion.Denotes (Text.trim text).toList v) :
    Bad value .platformVersion (.platformVersion ⟨Text.trim text⟩)

/-- What a check refuses, with its error: a file that cannot be had, under its own path, or the
value that counts for a setting. -/
inductive Refuses (read : FileReader Id) (env : Environment) (dir : Path) :
    Check → SettingsError → Prop where
  | file {check : Check} {name : String} {cause : EnvFault}
    (hname : Reads read env dir check name) (h : Broken read env (dir.join ⟨name⟩) cause) :
    Refuses read env dir check (.envFile (dir.join ⟨name⟩) cause)
  | value {check : Check} {raw : Setting → Option String} {e : SettingsError}
    (hraw : Layered read env dir raw) (h : Bad raw check e) : Refuses read env dir check e

/-- Whether the program breaks off on the file that is read for a check. -/
def BreaksOff (read : FileReader Id) (env : Environment) (dir : Path) (check : Check) : Prop :=
  ∃ name bytes, Reads read env dir check name ∧ (read (dir.join ⟨name⟩)).run = .ok bytes ∧
    EnvFile.BreaksOff env bytes

def refuseIf (p : Prop) [Decidable p] (refusal : SettingsError) : Except SettingsError Unit :=
  if p then throw refusal else pure ()

section

variable {read : FileReader Id} {env : Environment} {dir path : Path} {check : Check}
  {e : SettingsError} {profile name text : String} {value raw : Setting → Option String}

/-! ## Files -/

theorem broken_iff {cause : EnvFault} : Broken read env path cause ↔
    match (read path).run with
    | .ok bytes => EnvFile.items env bytes = .error cause
    | .error fault => fault ≠ .notFound ∧ cause = .file fault := by
  constructor
  · rintro (⟨h, hthere⟩ | ⟨h, hline⟩)
    · rw [h]
      exact ⟨hthere, rfl⟩
    · rw [h]
      exact EnvFile.items_error_iff.2 hline
  · cases h : (read path).run with
    | ok bytes => exact fun hitems => .rejected h (EnvFile.items_error_iff.1 hitems)
    | error fault =>
      rintro ⟨hthere, rfl⟩
      exact .unread h hthere

theorem layer_error_iff : (layer read env path).run.run = .error e ↔
    ∃ cause, Broken read env path cause ∧ e = .envFile path cause := by
  rw [layer_run]
  simp only [broken_iff]
  cases (read path).run with
  | ok bytes =>
    change (EnvFile.items env bytes).mapError _ = .error e ↔
      ∃ cause, EnvFile.items env bytes = .error cause ∧ e = .envFile path cause
    rw [except_mapError_error_iff]
    simp only [eq_comm]
  | error fault =>
    change _ ↔ ∃ cause, (fault ≠ .notFound ∧ cause = .file fault) ∧ e = .envFile path cause
    constructor
    · intro h
      cases fault <;> cases h <;> exact ⟨_, ⟨nofun, rfl⟩, rfl⟩
    · rintro ⟨_, ⟨hthere, rfl⟩, rfl⟩
      cases fault <;> first | exact absurd rfl hthere | rfl

theorem namesProfile_profileOf {shared own : List EnvFile.Item}
    (hshared : HasItems read env (dir.join ⟨".env"⟩) shared)
    (hown : HasItems read env (dir.join ⟨".env.local"⟩) own) :
    NamesProfile read env dir (profileOf env (shared ++ own)) := by
  refine ⟨shared, own, _, hshared, hown, counts_flatten _, ?_⟩
  simp [profileOf, effective]

theorem namesProfile_unique {profile' : String} (h : NamesProfile read env dir profile)
    (h' : NamesProfile read env dir profile') : profile' = profile := by
  obtain ⟨shared, own, named, hshared, hown, hnamed, rfl⟩ := h
  obtain ⟨shared', own', named', hshared', hown', hnamed', rfl⟩ := h'
  obtain rfl := hasItems_unique hshared hshared'
  obtain rfl := hasItems_unique hown hown'
  rw [counts_iff.1 hnamed, counts_iff.1 hnamed']

theorem reads_unique {name' : String} (h : Reads read env dir check name)
    (h' : Reads read env dir check name') : name' = name := by
  cases h with
  | shared =>
    cases h'
    rfl
  | own =>
    cases h'
    rfl
  | sharedOfProfile hprofile =>
    cases h' with
    | sharedOfProfile hprofile' => rw [namesProfile_unique hprofile hprofile']
  | ownOfProfile hprofile =>
    cases h' with
    | ownOfProfile hprofile' => rw [namesProfile_unique hprofile hprofile']

theorem layer_refuses_iff (hname : Reads read env dir check name) :
    (layer read env (dir.join ⟨name⟩)).run.run = .error e ↔ Refuses read env dir check e := by
  rw [layer_error_iff]
  constructor
  · rintro ⟨cause, hbroken, rfl⟩
    exact .file hname hbroken
  · intro h
    cases h with
    | file hname' hbroken =>
      obtain rfl := reads_unique hname hname'
      exact ⟨_, hbroken, rfl⟩
    | value _ hbad => cases hbad <;> cases hname

theorem breaksOff_iff : BreaksOff read env dir check ↔
    ∃ e, Refuses read env dir check e ∧ e.breaksOff = true := by
  constructor
  · rintro ⟨name, bytes, hname, hbytes, h⟩
    obtain ⟨cause, hrejects, hbreaks⟩ := EnvFile.breaksOff_iff.1 h
    exact ⟨_, .file hname (.rejected hbytes hrejects), hbreaks⟩
  · rintro ⟨e, hrefuses, hbreaks⟩
    cases hrefuses with
    | file hname hbroken =>
      cases hbroken with
      | unread => cases hbreaks
      | rejected hbytes hrejects =>
        exact ⟨_, _, hname, hbytes, EnvFile.breaksOff_iff.2 ⟨_, hrejects, hbreaks⟩⟩
    | value _ hbad => cases hbad <;> cases hbreaks

/-! ## Values -/

theorem count?_eq_some_iff {n : UInt64} : count? text = some n ↔ WritesCount text n := by
  rw [count?, WritesCount]
  constructor
  · intro h
    split at h
    · rename_i digits htext
      exact ⟨digits, PlatformVersion.word64?_eq_some_iff.1 h, .inr htext⟩
    · exact ⟨_, PlatformVersion.word64?_eq_some_iff.1 h, .inl rfl⟩
  · rintro ⟨digits, hwrites, htext | htext⟩
    · split
      · rename_i digits' hplus
        have hdigit := hwrites.isDigit '+' (by simp [← htext, hplus])
        exact absurd hdigit (by decide)
      · rw [htext]
        exact PlatformVersion.word64?_eq_some_iff.2 hwrites
    · rw [htext]
      exact PlatformVersion.word64?_eq_some_iff.2 hwrites

theorem nonempty_eq_some_iff {o : Option String} :
    nonempty o = some text ↔ o = some text ∧ text ≠ "" := by
  rw [nonempty, Option.filter_eq_some_iff, decide_eq_true_iff]

theorem parse_environment_error_iff :
    (∃ e, WorkerEnvironment.parse text = .error e) ↔
      Text.lowercase (Text.trim text) ∉ ["docker", "kubernetes", "k8s"] := by
  simp only [WorkerEnvironment.parse]
  split_ifs with hdocker hkubernetes
  · simp [hdocker]
  · rcases hkubernetes with h | h <;> simp [h]
  · simp only [List.mem_cons, List.not_mem_nil, or_false, not_or] at hkubernetes ⊢
    exact ⟨fun _ => ⟨hdocker, hkubernetes⟩, fun _ => ⟨_, rfl⟩⟩

theorem readEnvironment_error_iff :
    readEnvironment (value .workerEnvironment) = .error e ↔ Bad value .workerEnvironment e := by
  have hbad : Bad value .workerEnvironment e ↔ ∃ text,
      nonempty (value .workerEnvironment) = some text ∧
        (∃ e, WorkerEnvironment.parse text = .error e) ∧ e = .workerEnvironment text := by
    simp only [nonempty_eq_some_iff, parse_environment_error_iff]
    constructor
    · intro h
      cases h with
      | workerEnvironment htext hne hname => exact ⟨_, ⟨htext, hne⟩, hname, rfl⟩
    · rintro ⟨text, ⟨h, hne⟩, hname, rfl⟩
      exact .workerEnvironment h hne hname
  rw [hbad, readEnvironment]
  cases nonempty (value .workerEnvironment) with
  | none => simp
  | some text =>
    change (WorkerEnvironment.parse text).mapError _ = .error e ↔ _
    rw [except_mapError_error_iff]
    simp [eq_comm]

theorem readTailLines_error_iff :
    readTailLines (value .logTailLines) = .error e ↔ Bad value .tailLinesText e := by
  have hbad : Bad value .tailLinesText e ↔ ∃ text,
      nonempty (value .logTailLines) = some text ∧ count? text = none ∧
        e = .tailLinesText text := by
    simp only [nonempty_eq_some_iff, Option.eq_none_iff_forall_ne_some, Ne, count?_eq_some_iff]
    constructor
    · intro h
      cases h with
      | tailLinesText htext hne hcount => exact ⟨_, ⟨htext, hne⟩, hcount, rfl⟩
    · rintro ⟨text, ⟨h, hne⟩, hcount, rfl⟩
      exact .tailLinesText h hne hcount
  rw [hbad, readTailLines]
  cases nonempty (value .logTailLines) with
  | none => simp
  | some text => cases hcount : count? text <;> simp [hcount, eq_comm]

theorem readTailLines_zero_iff : readTailLines (value .logTailLines) = .ok 0 ↔
    ∃ text, value .logTailLines = some text ∧ WritesCount text 0 := by
  simp only [← count?_eq_some_iff]
  cases hvalue : value .logTailLines with
  | none => simp [readTailLines, nonempty, default]
  | some text =>
    by_cases hne : text = ""
    · have hcount : count? "" = none := by decide
      simp [hne, readTailLines, nonempty_empty, hcount, default]
    · rw [readTailLines, nonempty_some hne]
      cases hcount : count? text <;> simp [hcount]

variable {c : Settings}

theorem refuseIf_error_iff {p : Prop} [Decidable p] {refusal : SettingsError} :
    refuseIf p refusal = .error e ↔ p ∧ e = refusal := by
  rw [refuseIf]
  split
  · rename_i hp
    constructor
    · rintro ⟨⟩
      exact ⟨hp, rfl⟩
    · rintro ⟨_, rfl⟩
      rfl
  · rename_i hp
    exact iff_of_false nofun fun h => hp h.1

theorem tailLines_error_iff (h : ofValues profile value = .ok c) :
    refuseIf (c.tailLines = 0) .noTailLines = .error e ↔ Bad value .noTailLines e := by
  obtain ⟨_, _, _, _, htail, _, _⟩ := ofValues_fields h
  have hzero : readTailLines (value .logTailLines) = .ok 0 ↔ _ := readTailLines_zero_iff
  rw [htail, Except.ok.injEq] at hzero
  rw [refuseIf_error_iff, hzero]
  constructor
  · rintro ⟨⟨text, htext, hcount⟩, rfl⟩
    exact .noTailLines htext hcount
  · intro h
    cases h with
    | noTailLines htext hcount => exact ⟨⟨_, htext, hcount⟩, rfl⟩

theorem logFormat_error_iff (h : ofValues profile value = .ok c) :
    refuseIf (c.logFormat ≠ "json" ∧ c.logFormat ≠ "pretty") (.logFormat c.logFormat) = .error e ↔
      Bad value .logFormat e := by
  obtain ⟨_, hformat, _, _, _, _, _⟩ := ofValues_fields h
  have hbad : Bad value .logFormat e ↔ ∃ text, nonempty (value .logFormat) = some text ∧
      Text.lowercase text ∉ ["json", "pretty"] ∧ e = .logFormat (Text.lowercase text) := by
    simp only [nonempty_eq_some_iff]
    constructor
    · intro h
      cases h with
      | logFormat htext hne hunknown => exact ⟨_, ⟨htext, hne⟩, hunknown, rfl⟩
    · rintro ⟨text, ⟨htext, hne⟩, hunknown, rfl⟩
      exact .logFormat htext hne hunknown
  rw [hbad, refuseIf_error_iff, hformat]
  cases nonempty (value .logFormat) with
  | none => simp [default]
  | some text => simp

theorem version_error_iff (h : ofValues profile value = .ok c) :
    c.version = .error e ↔ Bad value .platformVersion e := by
  obtain ⟨_, _, _, _, _, hversion, _⟩ := ofValues_fields h
  have hbad : Bad value .platformVersion e ↔ ∃ text,
      nonempty ((value .platformVersion).map Text.trim) = some text ∧
      (∀ v, ¬ PlatformVersion.Denotes text.toList v) ∧ e = .platformVersion ⟨text⟩ := by
    simp only [nonempty_eq_some_iff, Option.map_eq_some_iff]
    constructor
    · intro h
      cases h with
      | platformVersion htext hne hdenotes => exact ⟨_, ⟨⟨_, htext, rfl⟩, hne⟩, hdenotes, rfl⟩
    · rintro ⟨_, ⟨⟨text, h, rfl⟩, hne⟩, hdenotes, rfl⟩
      exact .platformVersion h hne hdenotes
  rw [hbad, version, hversion, except_mapError_error_iff]
  cases hvalue : nonempty ((value .platformVersion).map Text.trim) with
  | none =>
    have hdev : PlatformVersion.parse default.platformVersion = .ok .dev := by decide
    simp [hdev]
  | some text =>
    obtain ⟨htext, _⟩ := nonempty_eq_some_iff.1 hvalue
    obtain ⟨given, _, rfl⟩ := Option.map_eq_some_iff.1 htext
    simp only [Option.getD_some, PlatformVersion.parse_error_iff,
      Text.trim_of_trimmed (Text.trimmed_trim given)]
    simp [eq_comm]

/-! ## The order of the checks -/

theorem ofValues_error_iff : ofValues profile value = .error e ↔
    FirstOf [.workerEnvironment, .tailLinesText] (Bad value) e := by
  refine firstOf_bind_cons (fun e => readEnvironment_error_iff) fun _ _ => ?_
  refine firstOf_bind_cons (fun e => readTailLines_error_iff) fun _ _ => ?_
  exact iff_of_false nofun not_firstOf_nil

theorem validate_eq : c.validate =
    refuseIf (c.tailLines = 0) .noTailLines >>= fun _ =>
      refuseIf (c.logFormat ≠ "json" ∧ c.logFormat ≠ "pretty") (.logFormat c.logFormat) >>= fun _ =>
        c.version >>= fun _ => pure () := by
  rw [validate]
  by_cases hlines : c.tailLines = 0
  · rw [if_pos hlines, refuseIf, if_pos hlines]
    rfl
  · rw [if_neg hlines, refuseIf, if_neg hlines]
    by_cases hformat : c.logFormat ≠ "json" ∧ c.logFormat ≠ "pretty"
    · rw [if_pos hformat, refuseIf, if_pos hformat, pure_bind]
    · rw [if_neg hformat, refuseIf, if_neg hformat, pure_bind, pure_bind]

theorem validate_error_iff (h : ofValues profile value = .ok c) : c.validate = .error e ↔
    FirstOf [.noTailLines, .logFormat, .platformVersion] (Bad value) e := by
  rw [validate_eq]
  refine firstOf_bind_cons (fun e => tailLines_error_iff h) fun _ _ => ?_
  refine firstOf_bind_cons (fun e => logFormat_error_iff h) fun _ _ => ?_
  refine firstOf_bind_cons (fun e => version_error_iff h) fun _ _ => ?_
  exact iff_of_false nofun not_firstOf_nil

/-- The checks of values, in the order in which they are made. -/
theorem values_error_iff : (ofValues profile value >>= fun c => c.validate >>= fun _ => pure c) =
    .error e ↔ FirstOf [.workerEnvironment, .tailLinesText, .noTailLines, .logFormat,
      .platformVersion] (Bad value) e := by
  have hvalues : ∀ e, ofValues profile value = .error e ↔ FirstOf _ (Bad value) e :=
    fun e => ofValues_error_iff
  refine firstOf_bind hvalues fun c hc => ?_
  rw [except_bind_error_iff, validate_error_iff hc]
  constructor
  · rintro (h | ⟨_, _, ⟨⟩⟩)
    exact h
  · exact .inl

theorem refuses_iff_bad (hraw : Layered read env dir raw)
    (hcheck : ∀ name, ¬ Reads read env dir check name) :
    Refuses read env dir check e ↔ Bad raw check e := by
  constructor
  · intro h
    cases h with
    | file hname => exact absurd hname (hcheck _)
    | value hraw' hbad =>
      obtain rfl := layered_unique hraw hraw'
      exact hbad
  · exact .value hraw

theorem load_error_iff : (load read env dir).run.run = .error e ↔
    FirstOf Check.all (Refuses read env dir) e := by
  simp only [load, run_bind]
  refine firstOf_bind_cons (fun e => layer_refuses_iff .shared) fun shared hshared => ?_
  refine firstOf_bind_cons (fun e => layer_refuses_iff .own) fun own hown => ?_
  rw [layer_ok_iff] at hshared hown
  have hprofile := namesProfile_profileOf hshared hown
  refine firstOf_bind_cons (fun e => layer_refuses_iff (.sharedOfProfile hprofile))
    fun sharedOfProfile hsharedOfProfile => ?_
  refine firstOf_bind_cons (fun e => layer_refuses_iff (.ownOfProfile hprofile))
    fun ownOfProfile hownOfProfile => ?_
  rw [layer_ok_iff] at hsharedOfProfile hownOfProfile
  have hraw : Layered read env dir
      (effective env (shared ++ own ++ sharedOfProfile ++ ownOfProfile)) := by
    have hmerges : Merges read env dir _ (shared ++ own) (sharedOfProfile ++ ownOfProfile) :=
      ⟨⟨_, _, hshared, hown, rfl⟩, rfl, ⟨_, _, hsharedOfProfile, hownOfProfile, rfl⟩⟩
    simpa only [List.append_assoc] using hmerges.layered
  -- From here on no file is read, and the checks are those of the values that count.
  rw [firstOf_congr fun check hcheck e => refuses_iff_bad hraw ?_]
  · exact values_error_iff
  · rintro name ⟨⟩ <;> simp at hcheck

end

/-- A file in which a comment ends a line of two raw lines. As many bytes as stand before it on the
second one end inside of the third character of the first. -/
def uncutFile : FileReader Id := fun path =>
  if path.text = "d/.env" then .ok "A=é\"\nx\" #c".toUTF8.data.toList else .error .notFound

def unknownEnvironment : Environment := fun name =>
  if name = Setting.variableName .workerEnvironment then some "nomad" else none

end Settings

end JobReport
