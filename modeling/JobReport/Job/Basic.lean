import JobReport.Job.Attempt
import JobReport.Job.Config

/-!
# Jobs

A job is one run of a configured sync, reset, refresh, clear or connector operation, with the
attempts made at it.
-/

set_option autoImplicit false

namespace JobReport

inductive JobStatus where
  | pending
  | running
  | incomplete
  | failed
  | succeeded
  | cancelled
  deriving DecidableEq, Repr

/-- The scope names the configuration that a job runs for, usually a connection. Times are in
seconds since the epoch. -/
structure Job where
  id : Int64
  scope : String
  config : JobConfig
  status : JobStatus
  createdAt : Int64
  updatedAt : Int64
  startedAt : Option Int64
  attempts : List Attempt
  deriving DecidableEq

def Job.configType (job : Job) : ConfigType := job.config.type

instance : Named JobStatus where
  typeName := "JobStatus"
  all := [.pending, .running, .incomplete, .failed, .succeeded, .cancelled]
  name
    | .pending => "pending"
    | .running => "running"
    | .incomplete => "incomplete"
    | .failed => "failed"
    | .succeeded => "succeeded"
    | .cancelled => "cancelled"
  label
    | .pending => "pending"
    | .running => "running"
    | .incomplete => "incomplete"
    | .failed => "failed"
    | .succeeded => "succeeded"
    | .cancelled => "cancelled"
  find_name a := by cases a <;> rfl
  label_eq_name a := by cases a <;> rfl

def Job.shape : Shape Job where
  title := "Job"
  types := _
  fields := .cons (.required "id" .int64) <|
    .cons (.required "scope" .string) <|
    .cons (.required "config" JobConfig.codec) <|
    .cons (.required "status" (.named JobStatus)) <|
    .cons (.required "created_at_in_second" .int64) <|
    .cons (.required "updated_at_in_second" .int64) <|
    .cons (.optional "started_at_in_second" .int64) <|
    .cons (.withDefault "attempts" Attempt.codec.list []) .nil
  make := fun (id, scope, config, status, createdAt, updatedAt, startedAt, attempts, ()) =>
    ⟨id, scope, config, status, createdAt, updatedAt, startedAt, attempts⟩
  unmake j := (j.id, j.scope, j.config, j.status, j.createdAt, j.updatedAt, j.startedAt,
    j.attempts, ())
  make_unmake _ := rfl

def Job.codec : Codec Job := .record shape

end JobReport
