import JobReport.Log.Environment
import JobReport.Log.Flags
import JobReport.Text.Lines
import JobReport.View.Error

/-!
# Log stores

A store answers a path with the lines of the log under it. A store of files reads the file at that
path, seen from the root of the logs, and gives the last of its lines; bytes that are no text are
replaced. A store in memory holds its logs under the exact texts of their paths.
-/

set_option autoImplicit false

namespace JobReport

/-- Where the logs are and how many lines of each are given at most. -/
structure LogConfig where
  root : Path
  tailLines : UInt64
  deriving DecidableEq

/-- All that a store is told besides the path. -/
structure LogContext where
  environment : WorkerEnvironment
  logs : LogConfig
  featureFlags : FeatureFlags
  deriving DecidableEq

abbrev LogStore (m : Type → Type) := LogContext → Path → m (Except LogError (List String))

def LogConfig.shape : Shape LogConfig where
  title := "LogConfigs"
  types := _
  fields := .cons (.required "root" .path) <| .cons (.required "tail_lines" .size) .nil
  make := fun (root, tailLines, ()) => ⟨root, tailLines⟩
  unmake c := (c.root, c.tailLines, ())
  make_unmake _ := rfl

def LogConfig.codec : Codec LogConfig := .record shape

namespace LogStore

/-- The lines of a log file that are given, at most `limit` of them. -/
def tail (limit : Nat) (bytes : Text.Bytes) : List String :=
  Text.lastOf limit ((Text.lines (Text.Utf8.decodeLossy bytes)).map String.ofList)

def files {m : Type → Type} [Monad m] (read : FileReader m) : LogStore m := fun context path => do
  let resolved := context.logs.root.join path
  match ← read resolved with
  | .ok bytes => pure (.ok (tail context.logs.tailLines.toNat bytes))
  | .error cause => pure (.error ⟨resolved, cause⟩)

def memory {m : Type → Type} [Monad m] (logs : List (String × List String)) : LogStore m :=
  fun _ path =>
    match logs.lookup path.text with
    | some lines => pure (.ok lines)
    | none => pure (.error ⟨path, .noSuchLog⟩)

/-- A store that also notes every path it is asked for, in order. -/
def noting {m : Type → Type} [Monad m] (store : LogStore m) : LogStore (StateT (List Path) m) :=
  fun context path => do
    modify (· ++ [path])
    StateT.lift (store context path)

end LogStore

end JobReport
