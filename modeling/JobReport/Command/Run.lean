import JobReport.Command.Arguments
import JobReport.Settings.Load
import JobReport.View.WithLogs

/-!
# Running commands

A command loads the settings, reads the files that it names, builds the view and shows it as
indented JSON, members by increasing name. The first step that fails ends it. Where the program
breaks off, it does so while it loads the settings, with an exit code of its own.
-/

set_option autoImplicit false

namespace JobReport.Command

inductive Failure where
  | settings (cause : SettingsError)
  | reading (path : Path) (cause : FileFault)
  | parsing (path : Path) (cause : Fault)
  | fullJob (id : Int64) (cause : ViewError)
  | synchronousJob (id : Uuid) (cause : ViewError)
  | version (cause : SettingsError)
  | view (cause : ViewError)
  deriving DecidableEq

namespace Failure

/-- The messages of a failure, each followed by that of its cause. -/
def chain : Failure → List String
  | .settings cause => "loading configuration" :: cause.chain
  | .reading path cause => ["reading " ++ path.text, cause.message]
  | .parsing path cause => ["parsing " ++ path.text, cause.message]
  | .fullJob id cause =>
    ("building full job info for job " ++ String.ofList (Json.intChars id.toInt)) :: cause.chain
  | .synchronousJob id cause => ("building synchronous job view " ++ id.text) :: cause.chain
  | .version cause => "parsing platform version" :: cause.chain
  | .view cause => cause.chain

/-- Whether the program breaks off instead of reporting the failure. -/
def breaksOff : Failure → Bool
  | .settings cause => cause.breaksOff
  | .reading .. | .parsing .. | .fullJob .. | .synchronousJob .. | .version _ | .view _ => false

end Failure

inductive Outcome where
  | refused (why : Refusal)
  | failed (why : Failure)
  | shown (text : String)

namespace Outcome

def exitCode : Outcome → UInt8
  | .refused .usage => 2
  | .refused .version | .refused .help | .shown _ => 0
  | .failed why => if why.breaksOff then 101 else 1

end Outcome

/-- What a program of this name and version says about itself. -/
def versionLine : String := "job-views 0.1.0\n"

/-- A view as it is shown. -/
def display {α : Type} (codec : Codec α) (view : α) : String :=
  (codec.encode view).ordered.indented ++ "\n"

variable {m : Type → Type} [Monad m]

/-- A step in which nothing is read. -/
def pureStep {ε α : Type} (wrap : ε → Failure) (a : Except ε α) : ExceptT Failure m α :=
  ExceptT.mk (pure (a.mapError wrap))

def readRecord {α : Type} (read : FileReader m) (codec : Codec α) (path : Path) :
    ExceptT Failure m α := do
  match ← ExceptT.lift (read path) with
  | .error cause => throw (.reading path cause)
  | .ok bytes =>
    match Text.Utf8.decode? bytes with
    | none => throw (.reading path .notUtf8)
    | some text => pureStep (.parsing path) (codec.parse (String.ofList text))

/-- Runs a command under settings and gives the text that it shows. -/
def execute (read : FileReader m) (settings : Settings) :
    Command → ExceptT Failure m String
  | .render kind path => do
    let job ← readRecord read Job.codec path
    match kind with
    | .job => do
      let view ← pureStep .view (View.Job.ofRecord job)
      pure (display View.Job.codec view)
    | .light => do
      let view ← pureStep .view (View.JobInfoLight.ofRecord job)
      pure (display View.JobInfoLight.codec view)
    | .attempts => do
      let view ← pureStep .view (View.JobWithAttempts.ofRecord job)
      pure (display View.JobWithAttempts.codec view)
    | .full => do
      let view ← ((converter read settings).jobInfo job).adapt (.fullJob job.id)
      pure (display View.JobInfo.codec view)
  | .sync path => do
    let job ← readRecord read SynchronousJob.codec path
    let view ← ((converter read settings).synchronousJob job).adapt (.synchronousJob job.id)
    pure (display View.SynchronousJob.codec view)
  | .debug path sourcePath destinationPath => do
    let job ← readRecord read Job.codec path
    let source ← readRecord read View.SourceDefinition.codec sourcePath
    let destination ← readRecord read View.DestinationDefinition.codec destinationPath
    let version ← pureStep .version settings.version
    let info ← pureStep .view (View.JobInfo.ofRecord job)
    pure (display View.JobDebug.codec (.ofInfo info source destination version))
where
  converter (read : FileReader m) (settings : Settings) : Converter m :=
    ⟨.files read, .ofSettings settings⟩

/-- Runs the program with its arguments, in a directory. -/
def run (read : FileReader m) (env : Environment) (dir : Path) (args : List String) :
    m Outcome :=
  match parse args with
  | .error why => pure (.refused why)
  | .ok command => do
    let result ← (do
      let settings ← (Settings.load read env dir).adapt .settings
      execute read settings command : ExceptT Failure m String).run
    match result with
    | .ok text => pure (.shown text)
    | .error why => pure (.failed why)

end JobReport.Command
