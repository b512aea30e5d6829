import JobReport.Record.Named

/-!
# Enumerations of the views

The names that views show. They are versioned apart from those of the records; a value passes from
one side to the other only by its label.
-/

set_option autoImplicit false

namespace JobReport.View

inductive JobStatus where
  | pending
  | running
  | incomplete
  | failed
  | succeeded
  | cancelled
  deriving DecidableEq, Repr

inductive AttemptStatus where
  | running
  | failed
  | succeeded
  deriving DecidableEq, Repr

inductive ConfigType where
  | checkConnectionSource
  | checkConnectionDestination
  | discoverSchema
  | getSpec
  | sync
  | resetConnection
  | refresh
  | clear
  deriving DecidableEq, Repr

inductive FailureOrigin where
  | source
  | destination
  | replication
  | persistence
  | normalization
  | dbt
  | platform
  | unknown
  deriving DecidableEq, Repr

inductive FailureType where
  | configError
  | systemError
  | manualCancellation
  | refreshSchema
  | heartbeatTimeout
  | destinationTimeout
  | transientError
  deriving DecidableEq, Repr

instance : Named JobStatus where
  typeName := "JobStatus"
  all := [.pending, .running, .incomplete, .failed, .succeeded, .cancelled]
  name
    | .pending => "pending"
    | .running => "running"
    | .incomplete => "incomplete"
    | .failed => "failed"
    | .succeeded => "succeeded"
    | .cancelled => "cancelled"
  find_name a := by cases a <;> rfl

instance : Named AttemptStatus where
  typeName := "AttemptStatus"
  all := [.running, .failed, .succeeded]
  name
    | .running => "running"
    | .failed => "failed"
    | .succeeded => "succeeded"
  find_name a := by cases a <;> rfl

instance : Named ConfigType where
  typeName := "JobConfigType"
  all := [.checkConnectionSource, .checkConnectionDestination, .discoverSchema, .getSpec, .sync,
    .resetConnection, .refresh, .clear]
  name
    | .checkConnectionSource => "check_connection_source"
    | .checkConnectionDestination => "check_connection_destination"
    | .discoverSchema => "discover_schema"
    | .getSpec => "get_spec"
    | .sync => "sync"
    | .resetConnection => "reset_connection"
    | .refresh => "refresh"
    | .clear => "clear"
  find_name a := by cases a <;> rfl

instance : Named FailureOrigin where
  typeName := "FailureOrigin"
  all := [.source, .destination, .replication, .persistence, .normalization, .dbt, .platform,
    .unknown]
  name
    | .source => "source"
    | .destination => "destination"
    | .replication => "replication"
    | .persistence => "persistence"
    | .normalization => "normalization"
    | .dbt => "dbt"
    | .platform => "airbyte_platform"
    | .unknown => "unknown"
  find_name a := by cases a <;> rfl

instance : Named FailureType where
  typeName := "FailureType"
  all := [.configError, .systemError, .manualCancellation, .refreshSchema, .heartbeatTimeout,
    .destinationTimeout, .transientError]
  name
    | .configError => "config_error"
    | .systemError => "system_error"
    | .manualCancellation => "manual_cancellation"
    | .refreshSchema => "refresh_schema"
    | .heartbeatTimeout => "heartbeat_timeout"
    | .destinationTimeout => "destination_timeout"
    | .transientError => "transient_error"
  find_name a := by cases a <;> rfl

end JobReport.View
