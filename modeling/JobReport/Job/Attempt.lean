import JobReport.Job.Failure

/-!
# Attempts

One attempt at running a job, with the counters of a sync where it produced any.
-/

set_option autoImplicit false

namespace JobReport

/-- An attempt that is not started has been created, but not yet picked up. -/
inductive AttemptStatus where
  | notStarted
  | running
  | failed
  | succeeded
  deriving DecidableEq, Repr

structure SyncStats where
  bytesEmitted : Option UInt64
  recordsEmitted : Option UInt64
  sourceStateMessagesEmitted : Option UInt64
  recordsCommitted : Option UInt64
  deriving DecidableEq

structure StreamSyncStats where
  streamName : String
  streamSpace : Option String
  stats : SyncStats
  deriving DecidableEq

/-- The summary written when a sync attempt ends. The two counters of its own are those of old
records; the totals have taken their place. -/
structure SyncSummary where
  bytesSynced : Option UInt64
  recordsSynced : Option UInt64
  totalStats : Option SyncStats
  streamStats : Option (List StreamSyncStats)
  deriving DecidableEq

structure SyncOutput where
  summary : Option SyncSummary
  deriving DecidableEq

/-- The output of an attempt. Only jobs that sync have one of a sync. -/
structure AttemptOutput where
  sync : Option SyncOutput
  deriving DecidableEq

/-- Times are in seconds since the epoch. -/
structure Attempt where
  number : Int32
  jobId : Int64
  status : AttemptStatus
  output : Option AttemptOutput
  failureSummary : Option FailureSummary
  logPath : Option Path
  createdAt : Int64
  updatedAt : Int64
  endedAt : Option Int64
  deriving DecidableEq

/-- The sync summary of an attempt, if every link on the way to it is there. -/
def Attempt.syncSummary (a : Attempt) : Option SyncSummary := do
  let output ← a.output
  let sync ← output.sync
  sync.summary

instance : Named AttemptStatus where
  typeName := "AttemptStatus"
  all := [.notStarted, .running, .failed, .succeeded]
  name
    | .notStarted => "not_started"
    | .running => "running"
    | .failed => "failed"
    | .succeeded => "succeeded"
  label
    | .notStarted => "not_started"
    | .running => "running"
    | .failed => "failed"
    | .succeeded => "succeeded"
  find_name a := by cases a <;> rfl
  label_eq_name a := by cases a <;> rfl

def SyncStats.shape : Shape SyncStats where
  title := "SyncStats"
  types := _
  fields := .cons (.optional "bytes_emitted" .uint64) <|
    .cons (.optional "records_emitted" .uint64) <|
    .cons (.optional "source_state_messages_emitted" .uint64) <|
    .cons (.optional "records_committed" .uint64) .nil
  make := fun (bytesEmitted, recordsEmitted, sourceStateMessagesEmitted, recordsCommitted, ()) =>
    ⟨bytesEmitted, recordsEmitted, sourceStateMessagesEmitted, recordsCommitted⟩
  unmake s := (s.bytesEmitted, s.recordsEmitted, s.sourceStateMessagesEmitted,
    s.recordsCommitted, ())
  make_unmake _ := rfl

def SyncStats.codec : Codec SyncStats := .record shape

def StreamSyncStats.shape : Shape StreamSyncStats where
  title := "StreamSyncStats"
  types := _
  fields := .cons (.required "stream_name" .string) <|
    .cons (.sparse "stream_namespace" .string) <| .cons (.required "stats" SyncStats.codec) .nil
  make := fun (streamName, streamSpace, stats, ()) => ⟨streamName, streamSpace, stats⟩
  unmake s := (s.streamName, s.streamSpace, s.stats, ())
  make_unmake _ := rfl

def StreamSyncStats.codec : Codec StreamSyncStats := .record shape

def SyncSummary.shape : Shape SyncSummary where
  title := "StandardSyncSummary"
  types := _
  fields := .cons (.optional "bytes_synced" .uint64) <|
    .cons (.optional "records_synced" .uint64) <|
    .cons (.optional "total_stats" SyncStats.codec) <|
    .cons (.optional "stream_stats" StreamSyncStats.codec.list) .nil
  make := fun (bytesSynced, recordsSynced, totalStats, streamStats, ()) =>
    ⟨bytesSynced, recordsSynced, totalStats, streamStats⟩
  unmake s := (s.bytesSynced, s.recordsSynced, s.totalStats, s.streamStats, ())
  make_unmake _ := rfl

def SyncSummary.codec : Codec SyncSummary := .record shape

def SyncOutput.shape : Shape SyncOutput where
  title := "StandardSyncOutput"
  types := _
  fields := .cons (.optional "standard_sync_summary" SyncSummary.codec) .nil
  make := fun (summary, ()) => ⟨summary⟩
  unmake o := (o.summary, ())
  make_unmake _ := rfl

def SyncOutput.codec : Codec SyncOutput := .record shape

def AttemptOutput.shape : Shape AttemptOutput where
  title := "JobOutput"
  types := _
  fields := .cons (.optional "sync" SyncOutput.codec) .nil
  make := fun (sync, ()) => ⟨sync⟩
  unmake o := (o.sync, ())
  make_unmake _ := rfl

def AttemptOutput.codec : Codec AttemptOutput := .record shape

def Attempt.shape : Shape Attempt where
  title := "Attempt"
  types := _
  fields := .cons (.required "attempt_number" .int32) <|
    .cons (.required "job_id" .int64) <|
    .cons (.required "status" (.named AttemptStatus)) <|
    .cons (.optional "output" AttemptOutput.codec) <|
    .cons (.optional "failure_summary" FailureSummary.codec) <|
    .cons (.optional "log_path" .path) <|
    .cons (.required "created_at_in_second" .int64) <|
    .cons (.required "updated_at_in_second" .int64) <|
    .cons (.optional "ended_at_in_second" .int64) .nil
  make := fun (number, jobId, status, output, failureSummary, logPath, createdAt, updatedAt,
      endedAt, ()) =>
    ⟨number, jobId, status, output, failureSummary, logPath, createdAt, updatedAt, endedAt⟩
  unmake a := (a.number, a.jobId, a.status, a.output, a.failureSummary, a.logPath, a.createdAt,
    a.updatedAt, a.endedAt, ())
  make_unmake _ := rfl

def Attempt.codec : Codec Attempt := .record shape

end JobReport
