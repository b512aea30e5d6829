import JobReport.Job.Synchronous
import JobReport.Log.Store
import JobReport.View.OfJob
import JobReport.View.Synchronous

/-!
# Views with logs

The views for which logs are fetched. The first value that has no name among those of the views,
and the first log that cannot be fetched, end the whole view.
-/

set_option autoImplicit false

namespace JobReport

/-- A log store with what it is told at every fetch. -/
structure Converter (m : Type → Type) where
  store : LogStore m
  context : LogContext

namespace Converter

variable {m : Type → Type} [Monad m]

/-- A part of a view for which nothing is fetched. -/
def pureView {α : Type} (a : Except ViewError α) : ExceptT ViewError m α := ExceptT.mk (pure a)

def fetch (c : Converter m) (path : Path) : ExceptT ViewError m View.Log := do
  match ← ExceptT.lift (c.store c.context path) with
  | .ok lines => pure ⟨lines⟩
  | .error cause => throw (.logFetch path cause)

/-- The log under a path; a record without a path has an empty one. -/
def log (c : Converter m) : Option Path → ExceptT ViewError m View.Log
  | none => pure ⟨[]⟩
  | some path => c.fetch path

def attemptInfo (c : Converter m) (a : Attempt) : ExceptT ViewError m View.AttemptInfo := do
  let attempt ← pureView (View.Attempt.ofRecord a)
  let logs ← c.log a.logPath
  pure ⟨attempt, some logs⟩

def jobInfo (c : Converter m) (job : Job) : ExceptT ViewError m View.JobInfo := do
  let view ← pureView (View.Job.ofRecord job)
  let attempts ← job.sortedAttempts.mapM c.attemptInfo
  pure ⟨view, attempts⟩

/-- A failure without a time of its own takes the time when the job ended. -/
def synchronousJob (c : Converter m) (job : SynchronousJob) :
    ExceptT ViewError m View.SynchronousJob := do
  let configType ← pureView (View.cross job.configType)
  let failureReason ← pureView (job.failureReason.mapM (View.FailureReason.ofRecord job.endedAt))
  let logs ← c.log job.logPath
  pure {
    id := job.id
    configType
    configId := job.configId.text
    createdAt := job.createdAt
    endedAt := job.endedAt
    succeeded := job.succeeded
    connectorConfigurationUpdated := job.connectorConfigurationUpdated
    logs
    failureReason }

/-- The output has no part in the view. -/
def synchronousResponse {α : Type} (c : Converter m) (r : SynchronousResponse α) :
    ExceptT ViewError m View.SynchronousJob := c.synchronousJob r.job

end Converter

end JobReport
