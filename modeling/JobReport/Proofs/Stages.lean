import JobReport.Proofs.Json.Lines
import JobReport.Proofs.Layers
import JobReport.Proofs.Reporting
import JobReport.Proofs.Unstarted
import JobReport.Proofs.Views

/-!
# The stages of a command

A command goes through its stages in one order: the settings, the files that it names, the view.
When all of them succeed, the view can be read back from what is printed. Otherwise nothing is
printed but the failure of the first stage that fails, or not even that if the program breaks off
there. The version of the platform is no stage of its own, since settings are only loaded with one.
-/

set_option autoImplicit false

namespace JobReport

theorem Settings.version_of_load {read : FileReader Id} {env : Environment} {dir : Path}
    {settings : Settings} (h : (load read env dir).run.run = .ok settings) :
    ∃ version, settings.version = .ok version := by
  obtain ⟨_, _, _, _, _, hvalid⟩ := load_ok_iff.1 h
  obtain ⟨_, _, hversion⟩ := validate_ok_iff.1 hvalid
  exact hversion

namespace Command

/-!
## Records and views

The files of a command hold its records, and from these it builds the one view that it shows. A
file is read as a whole before it is decoded, and decoded as a whole before it is parsed.
-/

abbrev Records : Command → Type
  | .render .. => Job
  | .sync _ => SynchronousJob
  | .debug .. => Job × View.SourceDefinition × View.DestinationDefinition

abbrev Viewed : Command → Type
  | .render .job _ => View.Job
  | .render .light _ => View.JobInfoLight
  | .render .attempts _ => View.JobWithAttempts
  | .render .full _ => View.JobInfo
  | .sync _ => View.SynchronousJob
  | .debug .. => View.JobDebug

def codec : (command : Command) → Codec command.Viewed
  | .render .job _ => View.Job.codec
  | .render .light _ => View.JobInfoLight.codec
  | .render .attempts _ => View.JobWithAttempts.codec
  | .render .full _ => View.JobInfo.codec
  | .sync _ => View.SynchronousJob.codec
  | .debug .. => View.JobDebug.codec

def build (c : Converter Id) (version : PlatformVersion) :
    (command : Command) → command.Records → Except ViewError command.Viewed
  | .render .job _, job => View.Job.ofRecord job
  | .render .light _, job => View.JobInfoLight.ofRecord job
  | .render .attempts _, job => View.JobWithAttempts.ofRecord job
  | .render .full _, job => c.fullInfo job
  | .sync _, job => c.synchronousView job
  | .debug .., (job, source, destination) =>
    (View.JobInfo.ofRecord job).map (.ofInfo · source destination version)

/-- How a command tells that it has no view of its records. -/
def unbuilt : (command : Command) → command.Records → ViewError → Failure
  | .render .full _, (job : Job) => .fullJob job.id
  | .sync _, (job : SynchronousJob) => .synchronousJob job.id
  | .render .job _, _ | .render .light _, _ | .render .attempts _, _ | .debug .., _ => .view

section

variable {α : Type}

def Holds (read : FileReader Id) (codec : Codec α) (path : Path) (a : α) : Prop :=
  ∃ bytes text, (read path).run = .ok bytes ∧ Text.Utf8.decode? bytes = some text ∧
    codec.parse (String.ofList text) = .ok a

inductive Unread (read : FileReader Id) (codec : Codec α) (path : Path) : Failure → Prop
  | file {cause : FileFault} (h : (read path).run = .error cause) :
    Unread read codec path (.reading path cause)
  | text {bytes : Text.Bytes} (hfile : (read path).run = .ok bytes)
    (h : Text.Utf8.decode? bytes = none) : Unread read codec path (.reading path .notUtf8)
  | record {bytes : Text.Bytes} {text : List Char} {cause : Fault}
    (hfile : (read path).run = .ok bytes) (htext : Text.Utf8.decode? bytes = some text)
    (h : codec.parse (String.ofList text) = .error cause) :
    Unread read codec path (.parsing path cause)

end

def Reads (read : FileReader Id) : (command : Command) → command.Records → Prop
  | .render _ path, job => Holds read Job.codec path job
  | .sync path, job => Holds read SynchronousJob.codec path job
  | .debug path sourcePath destinationPath, (job, source, destination) =>
    Holds read Job.codec path job ∧
      Holds read View.SourceDefinition.codec sourcePath source ∧
      Holds read View.DestinationDefinition.codec destinationPath destination

/-- Why the files of a command do not hold its records: the first that does not tells. -/
inductive Unreadable (read : FileReader Id) : Command → Failure → Prop
  | render {kind : ViewKind} {path : Path} {why : Failure} (h : Unread read Job.codec path why) :
    Unreadable read (.render kind path) why
  | sync {path : Path} {why : Failure} (h : Unread read SynchronousJob.codec path why) :
    Unreadable read (.sync path) why
  | debugJob {path sourcePath destinationPath : Path} {why : Failure}
    (h : Unread read Job.codec path why) :
    Unreadable read (.debug path sourcePath destinationPath) why
  | debugSource {path sourcePath destinationPath : Path} {job : Job} {why : Failure}
    (hjob : Holds read Job.codec path job)
    (h : Unread read View.SourceDefinition.codec sourcePath why) :
    Unreadable read (.debug path sourcePath destinationPath) why
  | debugDestination {path sourcePath destinationPath : Path} {job : Job}
    {source : View.SourceDefinition} {why : Failure} (hjob : Holds read Job.codec path job)
    (hsource : Holds read View.SourceDefinition.codec sourcePath source)
    (h : Unread read View.DestinationDefinition.codec destinationPath why) :
    Unreadable read (.debug path sourcePath destinationPath) why

/-! ## How a run ends -/

/-- Whether all stages of a command succeed, with this view at the end. -/
inductive Succeeds (read : FileReader Id) (env : Environment) (dir : Path) (command : Command)
    (view : command.Viewed) : Prop
  | intro {settings : Settings} {version : PlatformVersion} {records : command.Records}
    (hload : (Settings.load read env dir).run.run = .ok settings)
    (hversion : settings.version = .ok version) (hrecords : Reads read command records)
    (hview : command.build (execute.converter read settings) version records = .ok view)

/-- Whether this is the failure of the first stage of a command that fails. -/
inductive Fails (read : FileReader Id) (env : Environment) (dir : Path) (command : Command) :
    Failure → Prop
  | settings {cause : SettingsError} (h : (Settings.load read env dir).run.run = .error cause) :
    Fails read env dir command (.settings cause)
  | records {settings : Settings} {why : Failure}
    (hload : (Settings.load read env dir).run.run = .ok settings)
    (h : Unreadable read command why) : Fails read env dir command why
  | view {settings : Settings} {version : PlatformVersion} {records : command.Records}
    {cause : ViewError} (hload : (Settings.load read env dir).run.run = .ok settings)
    (hversion : settings.version = .ok version) (hrecords : Reads read command records)
    (h : command.build (execute.converter read settings) version records = .error cause) :
    Fails read env dir command (command.unbuilt records cause)

/-- What is seen of a run that shows a view: one text, laid out line by line, whose members are
sorted and from which the view can be read back. -/
structure Shows (outcome : Outcome) (command : Command) (view : command.Viewed) : Prop where
  exitCode : outcome.exitCode = 0
  output : ∃ tree : Json, tree.Ordered ∧ tree.LaidOut (Program.output outcome)
  parse : command.codec.parse (Program.output outcome) = .ok view

/-- What is seen of a run that reports its failure: on the standard error, the stage that failed and
then all lines of what was wrong there. -/
structure Reports (outcome : Outcome) (why : Failure) : Prop where
  exitCode : outcome.exitCode = 1
  output : Program.output outcome = ""
  errors : ∃ stage causes rest, why.told = stage :: causes ∧
    Program.errors outcome = "Error: " ++ stage ++ rest ∧ InOrder (causes.flatMap linesOf) rest

structure BreaksOff (outcome : Outcome) : Prop where
  exitCode : outcome.exitCode = 101
  output : Program.output outcome = ""

def Outcome.ofResult : Except Failure String → Outcome
  | .ok text => .shown text
  | .error why => .failed why

theorem parse_display (command : Command) (view : command.Viewed) :
    command.codec.parse (display command.codec view) = .ok view := by
  cases command with
  | render kind path =>
    cases kind with
    | job => exact View.Job.sortable.parse_indented (by decide) view
    | light => exact View.JobInfoLight.sortable.parse_indented (by decide) view
    | attempts => exact View.JobWithAttempts.sortable.parse_indented (by decide) view
    | full => exact View.JobInfo.sortable.parse_indented (by decide) view
  | sync path => exact View.SynchronousJob.sortable.parse_indented (by decide) view
  | debug job source destination => exact View.JobDebug.sortable.parse_indented (by decide) view

section

variable {read : FileReader Id} {env : Environment} {dir path : Path} {command : Command}
  {α : Type} {codec : Codec α}

theorem readRecord_run : (readRecord read codec path).run.run =
    match (read path).run with
    | .error cause => .error (.reading path cause)
    | .ok bytes => match Text.Utf8.decode? bytes with
      | none => .error (.reading path .notUtf8)
      | some text => (codec.parse (String.ofList text)).mapError (.parsing path) := by
  unfold readRecord
  generalize read path = answer
  change Except FileFault Text.Bytes at answer
  cases answer with
  | error cause => rfl
  | ok bytes =>
    simp only [ExceptT.run_bind, ExceptT.run_lift, Id.run_bind, Id.run_map]
    cases Text.Utf8.decode? bytes with
    | none => rfl
    | some text => rfl

theorem readRecord_ok_iff {a : α} :
    (readRecord read codec path).run.run = .ok a ↔ Holds read codec path a := by
  rw [readRecord_run, Holds]
  cases (read path).run with
  | error cause => simp
  | ok bytes =>
    cases htext : Text.Utf8.decode? bytes with
    | none => simp [htext]
    | some text => simp [htext, except_mapError_ok_iff]

theorem readRecord_error_iff {why : Failure} :
    (readRecord read codec path).run.run = .error why ↔ Unread read codec path why := by
  rw [readRecord_run]
  constructor
  · intro h
    cases hfile : (read path).run with
    | error cause =>
      simp only [hfile, Except.error.injEq] at h
      exact h ▸ .file hfile
    | ok bytes =>
      cases htext : Text.Utf8.decode? bytes with
      | none =>
        simp only [hfile, htext, Except.error.injEq] at h
        exact h ▸ .text hfile htext
      | some text =>
        simp only [hfile, htext, except_mapError_error_iff] at h
        obtain ⟨cause, hcause, rfl⟩ := h
        exact .record hfile htext hcause
  · intro h
    cases h with
    | file hfile => simp only [hfile]
    | text hfile htext => simp only [hfile, htext]
    | record hfile htext hparse => simp only [hfile, htext, hparse, Except.mapError]

def records (read : FileReader Id) : (command : Command) → Except Failure command.Records
  | .render _ path => (readRecord read Job.codec path).run.run
  | .sync path => (readRecord read SynchronousJob.codec path).run.run
  | .debug path sourcePath destinationPath => do
    let job ← (readRecord read Job.codec path).run.run
    let source ← (readRecord read View.SourceDefinition.codec sourcePath).run.run
    let destination ← (readRecord read View.DestinationDefinition.codec destinationPath).run.run
    pure (job, source, destination)

theorem records_ok_iff {records : command.Records} :
    command.records read = .ok records ↔ Reads read command records := by
  cases command with
  | render kind path => exact readRecord_ok_iff
  | sync path => exact readRecord_ok_iff
  | debug path sourcePath destinationPath =>
    obtain ⟨job, source, destination⟩ := records
    simp only [Command.records, except_bind_ok_iff, readRecord_ok_iff]
    constructor
    · rintro ⟨_, hjob, _, hsource, _, hdestination, ⟨⟩⟩
      exact ⟨hjob, hsource, hdestination⟩
    · rintro ⟨hjob, hsource, hdestination⟩
      exact ⟨job, hjob, source, hsource, destination, hdestination, rfl⟩

theorem records_error_iff {why : Failure} :
    command.records read = .error why ↔ Unreadable read command why := by
  cases command with
  | render kind path =>
    rw [records, readRecord_error_iff]
    exact ⟨.render, fun | .render h => h⟩
  | sync path =>
    rw [records, readRecord_error_iff]
    exact ⟨.sync, fun | .sync h => h⟩
  | debug path sourcePath destinationPath =>
    simp only [records, except_bind_error_iff, readRecord_ok_iff, readRecord_error_iff]
    constructor
    · rintro (h | ⟨_, hjob, h | ⟨_, hsource, h | ⟨_, _, ⟨⟩⟩⟩⟩)
      · exact .debugJob h
      · exact .debugSource hjob h
      · exact .debugDestination hjob hsource h
    · rintro (_ | _ | h | ⟨hjob, h⟩ | ⟨hjob, hsource, h⟩)
      · exact .inl h
      · exact .inr ⟨_, hjob, .inl h⟩
      · exact .inr ⟨_, hjob, .inr ⟨_, hsource, .inl h⟩⟩

/-- A command reads its records, builds the view of them and displays it. -/
theorem execute_run {settings : Settings} {version : PlatformVersion}
    (hversion : settings.version = .ok version) :
    (execute read settings command).run.run = (do
      let records ← command.records read
      let view ← (command.build (execute.converter read settings) version records).mapError
        (command.unbuilt records)
      .ok (display command.codec view)) := by
  cases command with
  | render kind path =>
    cases kind with
    | job | light | attempts | full =>
      simp only [execute, run_bind]
      rfl
  | sync path =>
    simp only [execute, run_bind]
    rfl
  | debug path sourcePath destinationPath =>
    -- The step of the version has its result already; without it the steps are the same.
    simp only [execute, run_bind, hversion, records, build, bind_assoc, pure_bind]
    refine bind_congr fun job => bind_congr fun source => bind_congr fun destination => ?_
    cases View.JobInfo.ofRecord job with
    | error cause => rfl
    | ok info => rfl

variable {args : List String}

theorem run_of_result (result : Except Failure String) (h : parse args = .ok command)
    (hresult : (do
      let settings ← (Settings.load read env dir).run.run.mapError .settings
      (execute read settings command).run.run) = result) :
    (run read env dir args).run = .ofResult result := by
  have hrun : ((do
      let settings ← (Settings.load read env dir).adapt .settings
      execute read settings command : ExceptT Failure Id String).run).run = result := by
    rw [run_bind]
    exact hresult
  simp only [run, h, Id.run_bind, hrun]
  cases result with
  | ok text => rfl
  | error why => rfl

theorem run_of_loaded {settings : Settings} {version : PlatformVersion}
    (result : Except Failure String) (h : parse args = .ok command)
    (hload : (Settings.load read env dir).run.run = .ok settings)
    (hversion : settings.version = .ok version)
    (hresult : (do
      let records ← command.records read
      let view ← (command.build (execute.converter read settings) version records).mapError
        (command.unbuilt records)
      .ok (display command.codec view)) = result) :
    (run read env dir args).run = .ofResult result := by
  apply run_of_result result h
  rw [hload, ← hresult, ← execute_run hversion]
  rfl

theorem run_of_succeeds {view : command.Viewed} (h : parse args = .ok command)
    (hview : Succeeds read env dir command view) :
    (run read env dir args).run = .shown (display command.codec view) := by
  obtain ⟨hload, hversion, hrecords, hview⟩ := hview
  apply run_of_loaded (.ok _) h hload hversion
  simp only [except_bind_ok_iff, except_mapError_ok_iff]
  exact ⟨_, records_ok_iff.2 hrecords, _, hview, rfl⟩

theorem run_of_fails {why : Failure} (h : parse args = .ok command)
    (hwhy : Fails read env dir command why) : (run read env dir args).run = .failed why := by
  cases hwhy with
  | settings hload =>
    apply run_of_result (.error _) h
    rw [hload]
    rfl
  | records hload hrecords =>
    obtain ⟨version, hversion⟩ := Settings.version_of_load hload
    apply run_of_loaded (.error _) h hload hversion
    exact except_bind_error_iff.2 (.inl (records_error_iff.2 hrecords))
  | view hload hversion hrecords hview =>
    apply run_of_loaded (.error _) h hload hversion
    simp only [except_bind_error_iff, except_mapError_error_iff]
    exact .inr ⟨_, records_ok_iff.2 hrecords, .inl ⟨_, hview, rfl⟩⟩

theorem succeeds_or_fails (read : FileReader Id) (env : Environment) (dir : Path)
    (command : Command) : (∃ view, Succeeds read env dir command view) ∨
      ∃ why, Fails read env dir command why := by
  cases hload : (Settings.load read env dir).run.run with
  | error cause => exact .inr ⟨_, .settings hload⟩
  | ok settings =>
    obtain ⟨version, hversion⟩ := Settings.version_of_load hload
    cases hrecords : command.records read with
    | error why => exact .inr ⟨_, .records hload (records_error_iff.1 hrecords)⟩
    | ok records =>
      have hreads := records_ok_iff.1 hrecords
      cases hview : command.build (execute.converter read settings) version records with
      | error cause => exact .inr ⟨_, .view hload hversion hreads hview⟩
      | ok view => exact .inl ⟨_, hload, hversion, hreads, hview⟩

theorem Unread.ne_version {why : Failure} (h : Unread read codec path why)
    (cause : SettingsError) : why ≠ .version cause := by
  cases h <;> nofun

theorem Fails.ne_version {why : Failure} (h : Fails read env dir command why)
    (cause : SettingsError) : why ≠ .version cause := by
  cases h with
  | settings _ => nofun
  | records _ h => cases h <;> exact Unread.ne_version ‹_› cause
  | view _ _ _ _ =>
    cases command with
    | render kind path => cases kind <;> nofun
    | sync path => nofun
    | debug path sourcePath destinationPath => nofun

end

theorem reports_failed {why : Failure} (h : why.breaksOff = false) :
    Reports (.failed why) why := by
  obtain ⟨stage, causes, rest, htold, hreport, hrest⟩ := Program.report_told why
  refine ⟨by simp [Outcome.exitCode, h], rfl, stage, causes, rest, htold, ?_, hrest⟩
  rw [← hreport, Program.errors, h]
  rfl

theorem breaksOff_failed {why : Failure} (h : why.breaksOff = true) : BreaksOff (.failed why) :=
  ⟨by simp [Outcome.exitCode, h], rfl⟩

/-- A directory with the file of a job and no others. -/
def oneJob : FileReader Id := fun path =>
  if path.text = "d/job.json" then .ok text.toUTF8.data.toList else .error .notFound
where
  text : String := "\x7b\"id\":1,\"scope\":\"c\",\"config\":\x7b\"config_type\":\"sync\"\x7d," ++
    "\"status\":\"running\",\"created_at_in_second\":1,\"updated_at_in_second\":2\x7d"

example : Program.errors (run oneJob (fun _ => none) ⟨"d"⟩ ["render", "missing.json"]).run =
    "Error: reading missing.json\n\nCaused by:\n    No such file or directory (os error 2)\n" := by
  decide +kernel

end Command

end JobReport
