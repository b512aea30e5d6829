import JobReport.View.Attempt

/-!
# Views of jobs

What a reader is shown of a job: alone, with its attempts, or with its attempts and their logs.
-/

set_option autoImplicit false

namespace JobReport.View

structure StreamDescriptor where
  name : String
  space : Option String
  deriving DecidableEq, Repr

/-- The streams that a reset works on. -/
structure ResetConfig where
  streams : List StreamDescriptor
  deriving DecidableEq, Repr

/-- The streams that a refresh works on. -/
structure RefreshConfig where
  streams : List StreamDescriptor
  deriving DecidableEq, Repr

/-- The configuration's id is the scope of the record. Only resets of a connection have a reset
configuration, and only refreshes of at least one stream a refresh configuration. -/
structure Job where
  id : Int64
  configType : ConfigType
  configId : String
  enabledStreams : List StreamDescriptor
  resetConfig : Option ResetConfig
  refreshConfig : Option RefreshConfig
  createdAt : Int64
  updatedAt : Int64
  startedAt : Option Int64
  status : JobStatus
  deriving DecidableEq

structure JobWithAttempts where
  job : Job
  attempts : List Attempt
  deriving DecidableEq

structure JobInfo where
  job : Job
  attempts : List AttemptInfo
  deriving DecidableEq

structure JobInfoLight where
  job : Job
  deriving DecidableEq

/-- The view for a job that was looked for and perhaps not found. -/
structure JobOptional where
  job : Option Job
  deriving DecidableEq

def StreamDescriptor.shape : Shape StreamDescriptor where
  title := "StreamDescriptor"
  types := _
  fields := .cons (.required "name" .string) <| .cons (.nullable "namespace" .string) .nil
  make := fun (name, space, ()) => ⟨name, space⟩
  unmake d := (d.name, d.space, ())
  make_unmake _ := rfl

def StreamDescriptor.codec : Codec StreamDescriptor := .record shape

def ResetConfig.shape : Shape ResetConfig where
  title := "ResetConfig"
  types := _
  fields := .cons (.required "streams_to_reset" StreamDescriptor.codec.list) .nil
  make := fun (streams, ()) => ⟨streams⟩
  unmake c := (c.streams, ())
  make_unmake _ := rfl

def ResetConfig.codec : Codec ResetConfig := .record shape

def RefreshConfig.shape : Shape RefreshConfig where
  title := "JobRefreshConfig"
  types := _
  fields := .cons (.required "streams_to_refresh" StreamDescriptor.codec.list) .nil
  make := fun (streams, ()) => ⟨streams⟩
  unmake c := (c.streams, ())
  make_unmake _ := rfl

def RefreshConfig.codec : Codec RefreshConfig := .record shape

def Job.shape : Shape Job where
  title := "JobView"
  types := _
  fields := .cons (.required "id" .int64) <|
    .cons (.required "config_type" (.named ConfigType)) <|
    .cons (.required "config_id" .string) <|
    .cons (.required "enabled_streams" StreamDescriptor.codec.list) <|
    .cons (.nullable "reset_config" ResetConfig.codec) <|
    .cons (.nullable "refresh_config" RefreshConfig.codec) <|
    .cons (.required "created_at" .int64) <|
    .cons (.required "updated_at" .int64) <|
    .cons (.nullable "started_at" .int64) <|
    .cons (.required "status" (.named JobStatus)) .nil
  make := fun (id, configType, configId, enabledStreams, resetConfig, refreshConfig, createdAt,
      updatedAt, startedAt, status, ()) =>
    ⟨id, configType, configId, enabledStreams, resetConfig, refreshConfig, createdAt, updatedAt,
      startedAt, status⟩
  unmake j := (j.id, j.configType, j.configId, j.enabledStreams, j.resetConfig, j.refreshConfig,
    j.createdAt, j.updatedAt, j.startedAt, j.status, ())
  make_unmake _ := rfl

def Job.codec : Codec Job := .record shape

def JobWithAttempts.shape : Shape JobWithAttempts where
  title := "JobWithAttemptsView"
  types := _
  fields := .cons (.required "job" Job.codec) <|
    .cons (.required "attempts" Attempt.codec.list) .nil
  make := fun (job, attempts, ()) => ⟨job, attempts⟩
  unmake j := (j.job, j.attempts, ())
  make_unmake _ := rfl

def JobWithAttempts.codec : Codec JobWithAttempts := .record shape

def JobInfo.shape : Shape JobInfo where
  title := "JobInfoView"
  types := _
  fields := .cons (.required "job" Job.codec) <|
    .cons (.required "attempts" AttemptInfo.codec.list) .nil
  make := fun (job, attempts, ()) => ⟨job, attempts⟩
  unmake j := (j.job, j.attempts, ())
  make_unmake _ := rfl

def JobInfo.codec : Codec JobInfo := .record shape

def JobInfoLight.shape : Shape JobInfoLight where
  title := "JobInfoLightView"
  types := _
  fields := .cons (.required "job" Job.codec) .nil
  make := fun (job, ()) => ⟨job⟩
  unmake j := (j.job, ())
  make_unmake _ := rfl

def JobInfoLight.codec : Codec JobInfoLight := .record shape

def JobOptional.shape : Shape JobOptional where
  title := "JobOptionalView"
  types := _
  fields := .cons (.nullable "job" Job.codec) .nil
  make := fun (job, ()) => ⟨job⟩
  unmake j := (j.job, ())
  make_unmake _ := rfl

def JobOptional.codec : Codec JobOptional := .record shape

end JobReport.View
