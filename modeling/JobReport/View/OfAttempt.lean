import JobReport.Job.Attempt
import JobReport.View.Attempt
import JobReport.View.Error

/-!
# From attempts to their views

Counters are shown where the record has them and nowhere else. A failure without a time of its own
takes the time of the record that carries it.
-/

set_option autoImplicit false

namespace JobReport.View

def Stats.ofSync (s : SyncStats) : Stats :=
  ⟨s.bytesEmitted, s.recordsEmitted, s.sourceStateMessagesEmitted, s.recordsCommitted⟩

def StreamStats.ofSync (s : StreamSyncStats) : StreamStats :=
  ⟨s.streamName, s.streamSpace, .ofSync s.stats⟩

/-- The counters over all streams of an attempt. -/
def totalStats (a : JobReport.Attempt) : Option Stats := do
  let summary ← a.syncSummary
  let total ← summary.totalStats
  some (.ofSync total)

/-- The counters of each stream, in the recorded order. -/
def streamStats (a : JobReport.Attempt) : Option (List StreamStats) := do
  let summary ← a.syncSummary
  let streams ← summary.streamStats
  some (streams.map .ofSync)

/-- The bytes and records that old readers look for beside the totals. -/
def legacyCounts (total : Option Stats) : Option UInt64 × Option UInt64 :=
  (total.bind (·.bytesEmitted), total.bind (·.recordsEmitted))

/-- The nearest integer of 64 bits. -/
def clamp64 (n : Int) : Int64 :=
  Int64.ofInt (max (-0x8000_0000_0000_0000) (min n 0x7fff_ffff_ffff_ffff))

def milliseconds (seconds : Int64) : Int64 := clamp64 (1000 * seconds.toInt)

def FailureReason.ofRecord (fallbackSeconds : Int64) (r : JobReport.FailureReason) :
    Except ViewError FailureReason := do
  let origin ← r.origin.mapM cross
  let type ← r.type.mapM cross
  pure ⟨origin, type, r.externalMessage, r.internalMessage, r.stacktrace,
    r.timestamp.getD (milliseconds fallbackSeconds), r.retryable⟩

def FailureSummary.ofRecord (fallbackSeconds : Int64) (s : JobReport.FailureSummary) :
    Except ViewError FailureSummary := do
  let failures ← s.failures.mapM (FailureReason.ofRecord fallbackSeconds)
  pure ⟨failures, s.partialSuccess⟩

def Attempt.ofRecord (a : JobReport.Attempt) : Except ViewError Attempt := do
  let total := View.totalStats a
  let status ← cross a.status
  let failureSummary ← a.failureSummary.mapM (FailureSummary.ofRecord a.updatedAt)
  pure {
    id := Int64.ofInt a.number.toInt
    status
    bytesSynced := (legacyCounts total).1
    recordsSynced := (legacyCounts total).2
    totalStats := total
    streamStats := View.streamStats a
    createdAt := a.createdAt
    updatedAt := a.updatedAt
    endedAt := a.endedAt
    failureSummary }

/-- The info of an attempt whose log nobody asked for. -/
def AttemptInfo.ofRecord (a : JobReport.Attempt) : Except ViewError AttemptInfo := do
  let attempt ← Attempt.ofRecord a
  pure ⟨attempt, none⟩

end JobReport.View
