import JobReport.View.Attempt

/-!
# Views of synchronous jobs

What a reader is shown of a job that ran while its caller waited.
-/

set_option autoImplicit false

namespace JobReport.View

/-- Times are in seconds since the epoch; the id of the configuration is shown as text. -/
structure SynchronousJob where
  id : Uuid
  configType : ConfigType
  configId : String
  createdAt : Int64
  endedAt : Int64
  succeeded : Bool
  connectorConfigurationUpdated : Bool
  logs : Log
  failureReason : Option FailureReason
  deriving DecidableEq

def SynchronousJob.shape : Shape SynchronousJob where
  title := "SynchronousJobView"
  types := _
  fields := .cons (.required "id" .uuid) <|
    .cons (.required "config_type" (.named ConfigType)) <|
    .cons (.required "config_id" .string) <|
    .cons (.required "created_at" .int64) <|
    .cons (.required "ended_at" .int64) <|
    .cons (.required "succeeded" .bool) <|
    .cons (.required "connector_configuration_updated" .bool) <|
    .cons (.required "logs" Log.codec) <|
    .cons (.nullable "failure_reason" FailureReason.codec) .nil
  make := fun (id, configType, configId, createdAt, endedAt, succeeded,
      connectorConfigurationUpdated, logs, failureReason, ()) =>
    ⟨id, configType, configId, createdAt, endedAt, succeeded, connectorConfigurationUpdated,
      logs, failureReason⟩
  unmake j := (j.id, j.configType, j.configId, j.createdAt, j.endedAt, j.succeeded,
    j.connectorConfigurationUpdated, j.logs, j.failureReason, ())
  make_unmake _ := rfl

def SynchronousJob.codec : Codec SynchronousJob := .record shape

end JobReport.View
