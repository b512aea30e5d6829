import JobReport.Settings.Basic

/-!
# Loading settings

Settings are read from variables. Four files in one directory set variables, each going over those
before it, and the variables of the process go over them all. The last two files are named for a
profile, which the first two files or the process name.

The first fault is the end of it. Most faults are the error that is returned; some of a file are
those with which the program breaks off (`SettingsError.breaksOff`), and then nothing is returned.
-/

set_option autoImplicit false

namespace JobReport.Settings

/-- The value that counts for a setting. -/
def effective (env : Environment) (items : List EnvFile.Item) (s : Setting) : Option String :=
  (env s.variableName).or (EnvFile.last? s.variableName items)

/-- The profile that names the last two files, after the items of the first two. -/
def profileOf (env : Environment) (items : List EnvFile.Item) : String :=
  (effective env items .profile).getD default.profile

/-- The number that a text writes, with blanks around it and perhaps a plus sign. -/
def count? (text : String) : Option UInt64 :=
  match (Text.trim text).toList with
  | '+' :: digits => Text.word64? digits
  | digits => Text.word64? digits

/-- The parts between commas, trimmed, that are not empty. -/
def flagNames (text : String) : List String :=
  ((Text.split ',' text.toList).map fun part => Text.trim (String.ofList part)).filter (· ≠ "")

/-- A value that says something. -/
def nonempty (value : Option String) : Option String := value.filter (· ≠ "")

def readEnvironment (value : Option String) : Except SettingsError WorkerEnvironment :=
  match nonempty value with
  | none => .ok default.workerEnvironment
  | some text => (WorkerEnvironment.parse text).mapError fun _ => .workerEnvironment text

def readTailLines (value : Option String) : Except SettingsError UInt64 :=
  match nonempty value with
  | none => .ok default.tailLines
  | some text => match count? text with
    | some n => .ok n
    | none => .error (.tailLinesText text)

/-- The settings that values stand for, with the profile whose files were read. -/
def ofValues (profile : String) (value : Setting → Option String) :
    Except SettingsError Settings := do
  let workerEnvironment ← readEnvironment (value .workerEnvironment)
  let tailLines ← readTailLines (value .logTailLines)
  pure {
    profile := (nonempty (value .profile)).getD profile
    logLevel := (nonempty (value .logLevel)).getD default.logLevel
    logFormat := ((nonempty (value .logFormat)).map Text.lowercase).getD default.logFormat
    workerEnvironment
    logRoot := ((nonempty (value .logRoot)).map Path.mk).getD default.logRoot
    tailLines
    platformVersion :=
      (nonempty ((value .platformVersion).map Text.trim)).getD default.platformVersion
    featureFlags := ((value .featureFlags).map flagNames).getD default.featureFlags }

section

variable {m : Type → Type} [Monad m]

/-- The items of a file, which has none if it is not there. -/
def layer (read : FileReader m) (env : Environment) (path : Path) :
    ExceptT SettingsError m (List EnvFile.Item) := do
  match ← ExceptT.lift (read path) with
  | .error .notFound => pure []
  | .error cause => throw (.envFile path (.file cause))
  | .ok bytes => ExceptT.mk (pure ((EnvFile.items env bytes).mapError (.envFile path)))

/-- The settings of a process whose files are in a directory. -/
def load (read : FileReader m) (env : Environment) (dir : Path) :
    ExceptT SettingsError m Settings := do
  let layer (name : String) := layer read env (dir.join ⟨name⟩)
  let shared ← layer ".env"
  let own ← layer ".env.local"
  let profile := profileOf env (shared ++ own)
  let sharedOfProfile ← layer (".env." ++ profile)
  let ownOfProfile ← layer (".env." ++ profile ++ ".local")
  let items := shared ++ own ++ sharedOfProfile ++ ownOfProfile
  let settings ← ExceptT.mk (pure (ofValues profile (effective env items)))
  ExceptT.mk (pure settings.validate)
  pure settings

end

end JobReport.Settings
