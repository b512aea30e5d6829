import JobReport.Record.Shape
import JobReport.View.Names

/-!
# Views of attempts

What a reader is shown of an attempt. Where a record has nothing to show, the view has null, which
is not the same as zero.
-/

set_option autoImplicit false

namespace JobReport.View

structure Stats where
  bytesEmitted : Option UInt64
  recordsEmitted : Option UInt64
  stateMessagesEmitted : Option UInt64
  recordsCommitted : Option UInt64
  deriving DecidableEq

structure StreamStats where
  streamName : String
  streamSpace : Option String
  stats : Stats
  deriving DecidableEq

/-- A cause of a failure; its time, in milliseconds since the epoch, is always known. -/
structure FailureReason where
  origin : Option FailureOrigin
  type : Option FailureType
  externalMessage : Option String
  internalMessage : Option String
  stacktrace : Option String
  timestamp : Int64
  retryable : Option Bool
  deriving DecidableEq

structure FailureSummary where
  failures : List FailureReason
  partialSuccess : Option Bool
  deriving DecidableEq

/-- The two counters of its own repeat those of the totals for old readers. -/
structure Attempt where
  id : Int64
  status : AttemptStatus
  bytesSynced : Option UInt64
  recordsSynced : Option UInt64
  totalStats : Option Stats
  streamStats : Option (List StreamStats)
  createdAt : Int64
  updatedAt : Int64
  endedAt : Option Int64
  failureSummary : Option FailureSummary
  deriving DecidableEq

structure Log where
  lines : List String
  deriving DecidableEq, Repr

/-- An attempt, with its log where that was asked for. -/
structure AttemptInfo where
  attempt : Attempt
  logs : Option Log
  deriving DecidableEq

def Stats.shape : Shape Stats where
  title := "AttemptStats"
  types := _
  fields := .cons (.nullable "bytes_emitted" .uint64) <|
    .cons (.nullable "records_emitted" .uint64) <|
    .cons (.nullable "state_messages_emitted" .uint64) <|
    .cons (.nullable "records_committed" .uint64) .nil
  make := fun (bytesEmitted, recordsEmitted, stateMessagesEmitted, recordsCommitted, ()) =>
    ⟨bytesEmitted, recordsEmitted, stateMessagesEmitted, recordsCommitted⟩
  unmake s := (s.bytesEmitted, s.recordsEmitted, s.stateMessagesEmitted, s.recordsCommitted, ())
  make_unmake _ := rfl

def Stats.codec : Codec Stats := .record shape

def StreamStats.shape : Shape StreamStats where
  title := "AttemptStreamStats"
  types := _
  fields := .cons (.required "stream_name" .string) <|
    .cons (.nullable "stream_namespace" .string) <| .cons (.required "stats" Stats.codec) .nil
  make := fun (streamName, streamSpace, stats, ()) => ⟨streamName, streamSpace, stats⟩
  unmake s := (s.streamName, s.streamSpace, s.stats, ())
  make_unmake _ := rfl

def StreamStats.codec : Codec StreamStats := .record shape

def FailureReason.shape : Shape FailureReason where
  title := "FailureReasonView"
  types := _
  fields := .cons (.nullable "failure_origin" (.named FailureOrigin)) <|
    .cons (.nullable "failure_type" (.named FailureType)) <|
    .cons (.nullable "external_message" .string) <|
    .cons (.nullable "internal_message" .string) <|
    .cons (.nullable "stacktrace" .string) <|
    .cons (.required "timestamp" .int64) <|
    .cons (.nullable "retryable" .bool) .nil
  make := fun (origin, type, externalMessage, internalMessage, stacktrace, timestamp, retryable,
      ()) =>
    ⟨origin, type, externalMessage, internalMessage, stacktrace, timestamp, retryable⟩
  unmake r := (r.origin, r.type, r.externalMessage, r.internalMessage, r.stacktrace, r.timestamp,
    r.retryable, ())
  make_unmake _ := rfl

def FailureReason.codec : Codec FailureReason := .record shape

def FailureSummary.shape : Shape FailureSummary where
  title := "AttemptFailureSummaryView"
  types := _
  fields := .cons (.required "failures" FailureReason.codec.list) <|
    .cons (.nullable "partial_success" .bool) .nil
  make := fun (failures, partialSuccess, ()) => ⟨failures, partialSuccess⟩
  unmake s := (s.failures, s.partialSuccess, ())
  make_unmake _ := rfl

def FailureSummary.codec : Codec FailureSummary := .record shape

def Attempt.shape : Shape Attempt where
  title := "AttemptView"
  types := _
  fields := .cons (.required "id" .int64) <|
    .cons (.required "status" (.named AttemptStatus)) <|
    .cons (.nullable "bytes_synced" .uint64) <|
    .cons (.nullable "records_synced" .uint64) <|
    .cons (.nullable "total_stats" Stats.codec) <|
    .cons (.nullable "stream_stats" StreamStats.codec.list) <|
    .cons (.required "created_at" .int64) <|
    .cons (.required "updated_at" .int64) <|
    .cons (.nullable "ended_at" .int64) <|
    .cons (.nullable "failure_summary" FailureSummary.codec) .nil
  make := fun (id, status, bytesSynced, recordsSynced, totalStats, streamStats, createdAt,
      updatedAt, endedAt, failureSummary, ()) =>
    ⟨id, status, bytesSynced, recordsSynced, totalStats, streamStats, createdAt, updatedAt,
      endedAt, failureSummary⟩
  unmake a := (a.id, a.status, a.bytesSynced, a.recordsSynced, a.totalStats, a.streamStats,
    a.createdAt, a.updatedAt, a.endedAt, a.failureSummary, ())
  make_unmake _ := rfl

def Attempt.codec : Codec Attempt := .record shape

def Log.shape : Shape Log where
  title := "LogView"
  types := _
  fields := .cons (.required "log_lines" Codec.string.list) .nil
  make := fun (lines, ()) => ⟨lines⟩
  unmake l := (l.lines, ())
  make_unmake _ := rfl

def Log.codec : Codec Log := .record shape

def AttemptInfo.shape : Shape AttemptInfo where
  title := "AttemptInfoView"
  types := _
  fields := .cons (.required "attempt" Attempt.codec) <| .cons (.nullable "logs" Log.codec) .nil
  make := fun (attempt, logs, ()) => ⟨attempt, logs⟩
  unmake a := (a.attempt, a.logs, ())
  make_unmake _ := rfl

def AttemptInfo.codec : Codec AttemptInfo := .record shape

end JobReport.View
