import JobReport.Record.Named
import JobReport.Record.Shape

/-!
# Failures

What went wrong in an attempt or a synchronous job, as it was recorded.
-/

set_option autoImplicit false

namespace JobReport

/-- The component a failure came from. -/
inductive FailureOrigin where
  | source
  | destination
  | replication
  | persistence
  | normalization
  | dbt
  | platform
  | unknown
  deriving DecidableEq, Repr

inductive FailureType where
  | configError
  | systemError
  | manualCancellation
  | refreshSchema
  | heartbeatTimeout
  | destinationTimeout
  | transientError
  deriving DecidableEq, Repr

/-- One cause of a failure. The timestamp counts milliseconds since the epoch. -/
structure FailureReason where
  origin : Option FailureOrigin
  type : Option FailureType
  externalMessage : Option String
  internalMessage : Option String
  stacktrace : Option String
  timestamp : Option Int64
  retryable : Option Bool
  deriving DecidableEq

/-- All failures of one attempt. -/
structure FailureSummary where
  failures : List FailureReason
  partialSuccess : Option Bool
  deriving DecidableEq

instance : Named FailureOrigin where
  typeName := "FailureOrigin"
  all := [.source, .destination, .replication, .persistence, .normalization, .dbt, .platform,
    .unknown]
  name
    | .source => "source"
    | .destination => "destination"
    | .replication => "replication"
    | .persistence => "persistence"
    | .normalization => "normalization"
    | .dbt => "dbt"
    | .platform => "airbyte_platform"
    | .unknown => "unknown"
  label
    | .source => "source"
    | .destination => "destination"
    | .replication => "replication"
    | .persistence => "persistence"
    | .normalization => "normalization"
    | .dbt => "dbt"
    | .platform => "airbyte_platform"
    | .unknown => "unknown"
  find_name a := by cases a <;> rfl
  label_eq_name a := by cases a <;> rfl

instance : Named FailureType where
  typeName := "FailureType"
  all := [.configError, .systemError, .manualCancellation, .refreshSchema, .heartbeatTimeout,
    .destinationTimeout, .transientError]
  name
    | .configError => "config_error"
    | .systemError => "system_error"
    | .manualCancellation => "manual_cancellation"
    | .refreshSchema => "refresh_schema"
    | .heartbeatTimeout => "heartbeat_timeout"
    | .destinationTimeout => "destination_timeout"
    | .transientError => "transient_error"
  label
    | .configError => "config_error"
    | .systemError => "system_error"
    | .manualCancellation => "manual_cancellation"
    | .refreshSchema => "refresh_schema"
    | .heartbeatTimeout => "heartbeat_timeout"
    | .destinationTimeout => "destination_timeout"
    | .transientError => "transient_error"
  find_name a := by cases a <;> rfl
  label_eq_name a := by cases a <;> rfl

def FailureReason.shape : Shape FailureReason where
  title := "FailureReason"
  types := _
  fields := .cons (.optional "failure_origin" (.named FailureOrigin)) <|
    .cons (.optional "failure_type" (.named FailureType)) <|
    .cons (.optional "external_message" .string) <|
    .cons (.optional "internal_message" .string) <|
    .cons (.optional "stacktrace" .string) <|
    .cons (.optional "timestamp" .int64) <|
    .cons (.optional "retryable" .bool) .nil
  make := fun (origin, type, externalMessage, internalMessage, stacktrace, timestamp, retryable,
      ()) =>
    ⟨origin, type, externalMessage, internalMessage, stacktrace, timestamp, retryable⟩
  unmake r := (r.origin, r.type, r.externalMessage, r.internalMessage, r.stacktrace, r.timestamp,
    r.retryable, ())
  make_unmake _ := rfl

def FailureReason.codec : Codec FailureReason := .record shape

def FailureSummary.shape : Shape FailureSummary where
  title := "AttemptFailureSummary"
  types := _
  fields := .cons (.withDefault "failures" FailureReason.codec.list []) <|
    .cons (.optional "partial_success" .bool) .nil
  make := fun (failures, partialSuccess, ()) => ⟨failures, partialSuccess⟩
  unmake s := (s.failures, s.partialSuccess, ())
  make_unmake _ := rfl

def FailureSummary.codec : Codec FailureSummary := .record shape

end JobReport
