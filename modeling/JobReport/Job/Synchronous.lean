import JobReport.Job.Config
import JobReport.Job.Failure

/-!
# Synchronous jobs

Jobs that run while their caller waits, such as connection checks. They have no attempts; a
record of the run comes with the output.
-/

set_option autoImplicit false

namespace JobReport

/-- Times are in seconds since the epoch. -/
structure SynchronousJob where
  id : Uuid
  configType : ConfigType
  configId : Uuid
  createdAt : Int64
  endedAt : Int64
  succeeded : Bool
  connectorConfigurationUpdated : Bool
  logPath : Option Path
  failureReason : Option FailureReason
  deriving DecidableEq

/-- The output of a synchronous job with the record of its run. -/
structure SynchronousResponse (α : Type) where
  output : Option α
  job : SynchronousJob

def SynchronousResponse.isSuccess {α : Type} (r : SynchronousResponse α) : Bool := r.job.succeeded

def SynchronousJob.shape : Shape SynchronousJob where
  title := "SynchronousJobMetadata"
  types := _
  fields := .cons (.required "id" .uuid) <|
    .cons (.required "config_type" (.named ConfigType)) <|
    .cons (.required "config_id" .uuid) <|
    .cons (.required "created_at" .int64) <|
    .cons (.required "ended_at" .int64) <|
    .cons (.required "succeeded" .bool) <|
    .cons (.withDefault "connector_configuration_updated" .bool false) <|
    .cons (.optional "log_path" .path) <|
    .cons (.optional "failure_reason" FailureReason.codec) .nil
  make := fun (id, configType, configId, createdAt, endedAt, succeeded,
      connectorConfigurationUpdated, logPath, failureReason, ()) =>
    ⟨id, configType, configId, createdAt, endedAt, succeeded, connectorConfigurationUpdated,
      logPath, failureReason⟩
  unmake j := (j.id, j.configType, j.configId, j.createdAt, j.endedAt, j.succeeded,
    j.connectorConfigurationUpdated, j.logPath, j.failureReason, ())
  make_unmake _ := rfl

def SynchronousJob.codec : Codec SynchronousJob := .record shape

def SynchronousResponse.shape {α : Type} (output : Codec α) : Shape (SynchronousResponse α) where
  title := "SynchronousResponse"
  types := _
  fields := .cons (.optional "output" output) <|
    .cons (.required "metadata" SynchronousJob.codec) .nil
  make := fun (output, job, ()) => ⟨output, job⟩
  unmake r := (r.output, r.job, ())
  make_unmake _ := rfl

def SynchronousResponse.codec {α : Type} (output : Codec α) : Codec (SynchronousResponse α) :=
  .record (shape output)

end JobReport
