import JobReport.Log.Store
import JobReport.Settings.EnvFile
import JobReport.Version

/-!
# Settings

What the program can be told: where logs are and how much of them is shown, which platform it
reports on, and how it keeps its own records. Every setting has a default.
-/

set_option autoImplicit false

namespace JobReport

/-- One of the settings. -/
inductive Setting where
  | profile
  | logLevel
  | logFormat
  | workerEnvironment
  | logRoot
  | logTailLines
  | platformVersion
  | featureFlags
  deriving DecidableEq, Repr

namespace Setting

def key : Setting → String
  | .profile => "PROFILE"
  | .logLevel => "LOG_LEVEL"
  | .logFormat => "LOG_FORMAT"
  | .workerEnvironment => "WORKER_ENVIRONMENT"
  | .logRoot => "LOG_ROOT"
  | .logTailLines => "LOG_TAIL_LINES"
  | .platformVersion => "PLATFORM_VERSION"
  | .featureFlags => "FEATURE_FLAGS"

/-- The name of the variable that holds a setting. -/
def variableName (s : Setting) : String := "JOB_VIEWS_" ++ s.key

end Setting

/-- Why there are no settings to go by. -/
inductive SettingsError where
  | envFile (path : Path) (cause : EnvFault)
  | workerEnvironment (value : String)
  /-- The text of a number of lines that is no number. -/
  | tailLinesText (value : String)
  | noTailLines
  | logFormat (value : String)
  | platformVersion (cause : InvalidVersion)
  deriving DecidableEq, Repr

namespace SettingsError

def message : SettingsError → String
  | .envFile path cause => "failed to load environment file " ++ path.text ++ ": " ++ cause.message
  | .workerEnvironment value =>
    "invalid worker environment '" ++ value ++ "'; expected 'docker' or 'kubernetes'"
  | .tailLinesText value => "log tail lines must be a positive integer, got '" ++ value ++ "'"
  | .noTailLines => "log tail lines must be at least 1, got 0"
  | .logFormat value => "log format must be 'json' or 'pretty', got '" ++ value ++ "'"
  | .platformVersion cause => cause.message

/-- The message with those of its causes, the last cause at the end. -/
def chain (e : SettingsError) : List String :=
  match e with
  | .envFile _ (.file cause) => [e.message, (EnvFault.file cause).message, cause.message]
  | .envFile _ (.line text cause) => [e.message, (EnvFault.line text cause).message]
  | .platformVersion cause => [e.message, cause.message]
  | .workerEnvironment _ | .tailLinesText _ | .noTailLines | .logFormat _ => [e.message]

/-- Whether the program breaks off, which only the reading of a file can make it do. -/
def breaksOff : SettingsError → Bool
  | .envFile _ cause => cause.breaksOff
  | .workerEnvironment _ | .tailLinesText _ | .noTailLines | .logFormat _
  | .platformVersion _ => false

end SettingsError

structure Settings where
  profile : String
  logLevel : String
  logFormat : String
  workerEnvironment : WorkerEnvironment
  logRoot : Path
  tailLines : UInt64
  platformVersion : String
  featureFlags : List String
  deriving DecidableEq

namespace Settings

def default : Settings where
  profile := "local"
  logLevel := "info"
  logFormat := "json"
  workerEnvironment := .docker
  logRoot := ⟨"./logs"⟩
  tailLines := 1000000
  platformVersion := "dev"
  featureFlags := []

instance : Inhabited Settings := ⟨default⟩

def shape : Shape Settings where
  title := "AppConfig"
  types := _
  fields := .cons (.withDefault (Setting.key .profile) .string default.profile) <|
    .cons (.withDefault (Setting.key .logLevel) .string default.logLevel) <|
    .cons (.withDefault (Setting.key .logFormat) .string default.logFormat) <|
    .cons (.withDefault (Setting.key .workerEnvironment) WorkerEnvironment.codec
      default.workerEnvironment) <|
    .cons (.withDefault (Setting.key .logRoot) .path default.logRoot) <|
    .cons (.withDefault (Setting.key .logTailLines) .size default.tailLines) <|
    .cons (.withDefault (Setting.key .platformVersion) .string default.platformVersion) <|
    .cons (.sparseList (Setting.key .featureFlags) .string) .nil
  make := fun (profile, logLevel, logFormat, workerEnvironment, logRoot, tailLines,
      platformVersion, featureFlags, ()) =>
    ⟨profile, logLevel, logFormat, workerEnvironment, logRoot, tailLines, platformVersion,
      featureFlags⟩
  unmake s := (s.profile, s.logLevel, s.logFormat, s.workerEnvironment, s.logRoot, s.tailLines,
    s.platformVersion, s.featureFlags, ())
  make_unmake _ := rfl

def codec : Codec Settings := .record shape

/-- The settings as the program tells of them. Nothing in them is secret. -/
def report (s : Settings) : String := (codec.encode s).indented

/-- The version that the settings name. -/
def version (s : Settings) : Except SettingsError PlatformVersion :=
  (PlatformVersion.parse s.platformVersion).mapError .platformVersion

/-- Settings that the program can go by. -/
def validate (s : Settings) : Except SettingsError Unit := do
  if s.tailLines = 0 then throw .noTailLines
  if s.logFormat ≠ "json" ∧ s.logFormat ≠ "pretty" then throw (.logFormat s.logFormat)
  let _ ← s.version

end Settings

def LogContext.ofSettings (s : Settings) : LogContext where
  environment := s.workerEnvironment
  logs := ⟨s.logRoot, s.tailLines⟩
  featureFlags := .ofList s.featureFlags

end JobReport
