import JobReport.Job.Basic
import JobReport.Version
import JobReport.View.Debug
import JobReport.View.OfAttempt

/-!
# From jobs to their views

The views that need nothing but the record. Attempts are shown by number, those of equal number in
the order in which they are stored.
-/

set_option autoImplicit false

namespace JobReport

/-- The streams that a refresh, clear or reset works on; other jobs have none to tell of. -/
def JobConfig.associatedStreams : JobConfig → Option (List StreamDescriptor)
  | .refresh config => some (config.streams.filterMap (·.descriptor))
  | .clear config | .resetConnection config =>
    some (match config.selection with
      | some selection => selection.streams
      | none => [])
  | .checkConnectionSource _ | .checkConnectionDestination _ | .discoverSchema _ | .getSpec _
  | .sync _ => none

def Job.sortedAttempts (job : Job) : List Attempt :=
  job.attempts.mergeSort fun a b => a.number ≤ b.number

namespace View

def StreamDescriptor.ofRecord (d : JobReport.StreamDescriptor) : StreamDescriptor :=
  ⟨d.name, d.space⟩

/-- The streams of the configured catalog, if there is one. -/
def enabledStreams (config : JobConfig) : List StreamDescriptor :=
  match config.catalog with
  | some catalog => catalog.streams.map fun s => .ofRecord s.descriptor
  | none => []

def ResetConfig.ofRecord? : JobConfig → Option ResetConfig
  | .resetConnection config =>
    config.selection.map fun selection => ⟨selection.streams.map .ofRecord⟩
  | _ => none

/-- A refresh without any stream is shown like a job that is no refresh. -/
def RefreshConfig.ofRecord? : JobConfig → Option RefreshConfig
  | .refresh config =>
    let streams := (config.streams.filterMap (·.descriptor)).map StreamDescriptor.ofRecord
    if streams.isEmpty then none else some ⟨streams⟩
  | _ => none

def Job.ofRecord (job : JobReport.Job) : Except ViewError Job := do
  let configType ← cross job.configType
  let status ← cross job.status
  pure {
    id := job.id
    configType
    configId := job.scope
    enabledStreams := View.enabledStreams job.config
    resetConfig := ResetConfig.ofRecord? job.config
    refreshConfig := RefreshConfig.ofRecord? job.config
    createdAt := job.createdAt
    updatedAt := job.updatedAt
    startedAt := job.startedAt
    status }

def JobWithAttempts.ofRecord (job : JobReport.Job) : Except ViewError JobWithAttempts := do
  let attempts ← job.sortedAttempts.mapM Attempt.ofRecord
  let job ← Job.ofRecord job
  pure ⟨job, attempts⟩

/-- The info of a job with the logs left out. -/
def JobInfo.ofRecord (job : JobReport.Job) : Except ViewError JobInfo := do
  let attempts ← job.sortedAttempts.mapM AttemptInfo.ofRecord
  let job ← Job.ofRecord job
  pure ⟨job, attempts⟩

def JobInfoLight.ofRecord (job : JobReport.Job) : Except ViewError JobInfoLight := do
  let job ← Job.ofRecord job
  pure ⟨job⟩

def JobOptional.ofRecord? (job : Option JobReport.Job) : Except ViewError JobOptional := do
  let job ← job.mapM Job.ofRecord
  pure ⟨job⟩

def JobDebug.ofInfo (info : JobInfo) (source : SourceDefinition)
    (destination : DestinationDefinition) (version : PlatformVersion) : JobDebug where
  id := info.job.id
  configType := info.job.configType
  configId := info.job.configId
  status := info.job.status
  platformVersion := version.text
  source
  destination

end View

end JobReport
