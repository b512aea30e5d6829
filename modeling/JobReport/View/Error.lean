import JobReport.Files.Fault
import JobReport.Record.Named

/-!
# Errors in building views

Missing data is never an error. A view cannot be built when a value of the record has no name
among those of the views, or when a log cannot be fetched.
-/

set_option autoImplicit false

namespace JobReport

/-- A log that could not be read, with the path at which it was looked for. -/
structure LogError where
  path : Path
  cause : FileFault
  deriving DecidableEq, Repr

def LogError.message (e : LogError) : String :=
  "failed to read log file " ++ e.path.text ++ ": " ++ e.cause.message

inductive ViewError where
  | unmapped (enumName value : String)
  /-- The path is the one of the record, the cause may name another. -/
  | logFetch (path : Path) (cause : LogError)
  deriving DecidableEq, Repr

namespace ViewError

def message : ViewError → String
  | .unmapped enumName value => enumName ++ " value '" ++ value ++ "' has no external counterpart"
  | .logFetch path _ => "failed to fetch logs from " ++ path.text

/-- Whether a later call could succeed where this one failed. -/
def isRetryable : ViewError → Bool
  | .unmapped .. => false
  | .logFetch .. => true

/-- The message with those of its causes, the last cause at the end. -/
def chain (e : ViewError) : List String :=
  match e with
  | .unmapped .. => [e.message]
  | .logFetch _ cause => [e.message, cause.message, cause.cause.message]

end ViewError

namespace View

/-- The value of the views whose name is the label of a value of the records. -/
def cross {ι ε : Type} [Named ι] [Named ε] (a : ι) : Except ViewError ε :=
  match Named.ofName? (Named.label a) with
  | some b => .ok b
  | none => .error (.unmapped (Named.typeName ι) (Named.label a))

end View

end JobReport
