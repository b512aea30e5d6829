import JobReport.Proofs.Spelling

/-!
# Statistics are shown as they are recorded

The counters of an attempt stand at the end of a way of several links. Where all of them are there,
each counter is shown in its own place, as a number or as absent, whichever it is in the record.
Where one is missing there is nothing to show, and nothing is written as null, not as zero or as a
list without elements.
-/

set_option autoImplicit false

namespace JobReport

inductive Counter where
  | bytesEmitted
  | recordsEmitted
  | stateMessagesEmitted
  | recordsCommitted
  deriving DecidableEq, Repr

namespace Counter

def name : Counter → String
  | .bytesEmitted => "bytes_emitted"
  | .recordsEmitted => "records_emitted"
  | .stateMessagesEmitted => "state_messages_emitted"
  | .recordsCommitted => "records_committed"

def recorded (s : SyncStats) : Counter → Option UInt64
  | .bytesEmitted => s.bytesEmitted
  | .recordsEmitted => s.recordsEmitted
  | .stateMessagesEmitted => s.sourceStateMessagesEmitted
  | .recordsCommitted => s.recordsCommitted

def shown (s : View.Stats) : Counter → Option UInt64
  | .bytesEmitted => s.bytesEmitted
  | .recordsEmitted => s.recordsEmitted
  | .stateMessagesEmitted => s.stateMessagesEmitted
  | .recordsCommitted => s.recordsCommitted

def written : Option UInt64 → Json
  | none => .null
  | some n => .int (.ofUInt64 n)

end Counter

/-! ## What is recorded -/

namespace Attempt

/-- Whether every link on the way from an attempt to its summary is there. -/
def Reaches (a : Attempt) (summary : SyncSummary) : Prop :=
  ∃ output sync, a.output = some output ∧ output.sync = some sync ∧ sync.summary = some summary

/-- Whether an attempt has this at the end of the way, as a part of its summary. -/
def Has {α : Type} (a : Attempt) (part : SyncSummary → Option α) (recorded : α) : Prop :=
  ∃ summary, a.Reaches summary ∧ part summary = some recorded

theorem reaches_iff {a : Attempt} {summary : SyncSummary} :
    a.Reaches summary ↔ a.syncSummary = some summary := by
  simp only [syncSummary, Option.bind_eq_bind, Option.bind_eq_some_iff, Reaches]
  constructor
  · rintro ⟨output, sync, houtput, hsync, hsummary⟩
    exact ⟨output, houtput, sync, hsync, hsummary⟩
  · rintro ⟨output, houtput, sync, hsync, hsummary⟩
    exact ⟨output, sync, houtput, hsync, hsummary⟩

end Attempt

namespace View

/-! ## What a view shows of it -/

/-- Whether counters are shown as they are recorded, each as itself. -/
def Stats.Tells (v : Stats) (s : SyncStats) : Prop := ∀ k : Counter, k.shown v = k.recorded s

/-- Whether a stream is shown with its own counters. -/
structure StreamStats.Tells (v : StreamStats) (s : StreamSyncStats) : Prop where
  name : v.streamName = s.streamName
  space : v.streamSpace = s.streamSpace
  stats : v.stats.Tells s.stats

/-- Whether a part of the summary is shown exactly when the attempt has it, and tells what it
does. -/
structure ShowsPart {α β : Type} (a : JobReport.Attempt) (part : SyncSummary → Option α)
    (tells : β → α → Prop) (shown : Option β) : Prop where
  isSome_iff : shown.isSome ↔ ∃ recorded, a.Has part recorded
  tells : ∀ v ∈ shown, ∃ recorded, a.Has part recorded ∧ tells v recorded

/-- Whether the statistics of an attempt are shown that are recorded, and no others. -/
structure Attempt.TellsStats (v : Attempt) (a : JobReport.Attempt) : Prop where
  total : ShowsPart a (·.totalStats) Stats.Tells v.totalStats
  streams : ShowsPart a (·.streamStats) (List.Forall₂ StreamStats.Tells) v.streamStats
  synced : ∀ shown ∈ v.totalStats,
    v.bytesSynced = shown.bytesEmitted ∧ v.recordsSynced = shown.recordsEmitted
  unsynced : v.totalStats = none → v.bytesSynced = none ∧ v.recordsSynced = none

/-- Whether the statistics in a view are written as what they are, and as null where there are
none. -/
structure Attempt.WritesStats (v : Attempt) : Prop where
  bytesSynced : (codec.encode v).at? ["bytes_synced"] = some (Counter.written v.bytesSynced)
  recordsSynced : (codec.encode v).at? ["records_synced"] = some (Counter.written v.recordsSynced)
  total_null : (codec.encode v).at? ["total_stats"] = some .null ↔ v.totalStats = none
  total (k : Counter) : (codec.encode v).at? ["total_stats", k.name] =
    v.totalStats.map fun s => Counter.written (k.shown s)
  streams_null : (codec.encode v).at? ["stream_stats"] = some .null ↔ v.streamStats = none
  streams (i : Nat) (k : Counter) : (codec.encode v).at? ["stream_stats", i, "stats", k.name] =
    (v.streamStats.bind (·[i]?)).map fun s => Counter.written (k.shown s.stats)
  spaces (i : Nat) : (codec.encode v).at? ["stream_stats", i, "stream_namespace"] =
    (v.streamStats.bind (·[i]?)).map fun s => s.streamSpace.elim .null .str

section

variable {a : JobReport.Attempt} {v : Attempt}

theorem stats_tells (s : SyncStats) : (Stats.ofSync s).Tells s := by
  intro k
  cases k <;> rfl

theorem streamStats_tells (s : StreamSyncStats) : (StreamStats.ofSync s).Tells s :=
  ⟨rfl, rfl, stats_tells s.stats⟩

theorem showsPart_make {α β : Type} {part : SyncSummary → Option α} {tells : β → α → Prop}
    {make : α → β} (h : ∀ recorded, tells (make recorded) recorded) :
    ShowsPart a part tells
      (a.syncSummary.bind fun summary => (part summary).bind fun recorded =>
        some (make recorded)) := by
  have hshown : ∀ v, (a.syncSummary.bind fun summary => (part summary).bind fun recorded =>
      some (make recorded)) = some v ↔ ∃ recorded, a.Has part recorded ∧ make recorded = v := by
    intro v
    simp only [Option.bind_eq_some_iff, Option.some.injEq, JobReport.Attempt.Has,
      JobReport.Attempt.reaches_iff]
    constructor
    · rintro ⟨summary, hsummary, recorded, hrecorded, hv⟩
      exact ⟨recorded, ⟨summary, hsummary, hrecorded⟩, hv⟩
    · rintro ⟨recorded, ⟨summary, hsummary, hrecorded⟩, hv⟩
      exact ⟨summary, hsummary, recorded, hrecorded, hv⟩
  constructor
  · simp only [Option.isSome_iff_exists, hshown]
    constructor
    · rintro ⟨_, recorded, hhas, _⟩
      exact ⟨recorded, hhas⟩
    · rintro ⟨recorded, hhas⟩
      exact ⟨_, recorded, hhas, rfl⟩
  · intro v hv
    obtain ⟨recorded, hhas, rfl⟩ := (hshown v).1 hv
    exact ⟨recorded, hhas, h recorded⟩

theorem attempt_tellsStats (h : Attempt.ofRecord a = .ok v) : v.TellsStats a := by
  simp only [Attempt.ofRecord, except_bind_ok_iff] at h
  obtain ⟨_, _, _, _, h⟩ := h
  cases h
  refine ⟨showsPart_make stats_tells, showsPart_make fun streams => ?_, ?_, ?_⟩
  · rw [List.forall₂_map_left_iff, List.forall₂_same]
    exact fun s _ => streamStats_tells s
  · intro shown hshown
    change (legacyCounts (totalStats a)).1 = _ ∧ (legacyCounts (totalStats a)).2 = _
    rw [show totalStats a = some shown from hshown]
    exact ⟨rfl, rfl⟩
  · intro hnone
    change (legacyCounts (totalStats a)).1 = _ ∧ (legacyCounts (totalStats a)).2 = _
    rw [show totalStats a = none from hnone]
    exact ⟨rfl, rfl⟩

/-! ## How it is written -/

theorem encode_option_uint64 (o : Option UInt64) :
    Codec.uint64.option.encode o = Counter.written o := by
  cases o <;> rfl

theorem encode_option_eq_null {α : Type} {c : Codec α} (h : ∀ a, c.encode a ≠ .null)
    (o : Option α) : some (c.option.encode o) = some .null ↔ o = none := by
  cases o with
  | none => exact ⟨fun _ => rfl, fun _ => rfl⟩
  | some a => exact ⟨fun heq => absurd (Option.some.inj heq) (h a), nofun⟩

theorem Stats.at?_counter (s : Stats) (k : Counter) :
    (codec.encode s).at? [k.name] = some (Counter.written (k.shown s)) := by
  cases k <;> exact congrArg some (encode_option_uint64 _)

theorem StreamStats.at?_counter (s : StreamStats) (k : Counter) :
    (codec.encode s).at? ["stats", k.name] = some (Counter.written (k.shown s.stats)) :=
  s.stats.at?_counter k

theorem StreamStats.at?_space (s : StreamStats) :
    (codec.encode s).at? ["stream_namespace"] = some (s.streamSpace.elim .null .str) := by
  obtain ⟨_, space, _⟩ := s
  cases space <;> rfl

/-- What is found in the tree of each stream is found in that of the attempt, under its place. -/
theorem attempt_at?_stream (v : Attempt) (i : Nat) (path : List Json.Step) :
    (Attempt.codec.encode v).at? ("stream_stats" :: i :: path) =
      (v.streamStats.bind (·[i]?)).bind fun s => (StreamStats.codec.encode s).at? path := by
  change (StreamStats.codec.list.option.encode v.streamStats).at? (i :: path) = _
  cases v.streamStats with
  | none => rfl
  | some ss => exact Json.at?_list StreamStats.codec ss i path

theorem attempt_writesStats (v : Attempt) : v.WritesStats where
  bytesSynced := congrArg some (encode_option_uint64 v.bytesSynced)
  recordsSynced := congrArg some (encode_option_uint64 v.recordsSynced)
  total_null := encode_option_eq_null (c := Stats.codec) (fun _ => nofun) v.totalStats
  total k := by
    change (Stats.codec.option.encode v.totalStats).at? [k.name] = _
    simp only [Json.at?_option, Stats.at?_counter, Option.map_eq_bind, Function.comp_def]
  streams_null := encode_option_eq_null (c := StreamStats.codec.list) (fun _ => nofun) v.streamStats
  streams i k := by
    simp only [attempt_at?_stream, StreamStats.at?_counter, Option.map_eq_bind, Function.comp_def]
  spaces i := by
    simp only [attempt_at?_stream, StreamStats.at?_space, Option.map_eq_bind, Function.comp_def]

end

/-- The statistics in the view of an attempt are those of its record: they are there when every link
of the way to them is there, stream by stream in the recorded order, each counter as itself, and the
two counters for old readers repeat the totals. What is absent is written as null. -/
theorem stats_as_recorded {a : JobReport.Attempt} {v : Attempt} (h : Attempt.ofRecord a = .ok v) :
    v.TellsStats a ∧ v.WritesStats :=
  ⟨attempt_tellsStats h, attempt_writesStats v⟩

/-- An attempt with totals of which one is not known, and with two streams of one name. Its own
counters say something else. -/
def countedAttempt : JobReport.Attempt where
  number := 1
  jobId := 1
  status := .succeeded
  output := some ⟨some ⟨some ⟨some 7, some 8, some ⟨some 30, none, some 0, some 3⟩, some [
    ⟨"users", some "public", ⟨some 20, some 2, none, some 2⟩⟩,
    ⟨"users", none, ⟨some 10, some 1, some 0, none⟩⟩]⟩⟩⟩
  failureSummary := none
  logPath := none
  createdAt := 1
  updatedAt := 2
  endedAt := none

theorem stats_as_recorded_countedAttempt : ∃ v : Attempt,
    Attempt.ofRecord countedAttempt = .ok v ∧ v.bytesSynced = some 30 ∧ v.recordsSynced = none ∧
      v.TellsStats countedAttempt ∧ v.WritesStats := by
  have h : Attempt.ofRecord countedAttempt = .ok {
      id := 1
      status := .succeeded
      bytesSynced := some 30
      recordsSynced := none
      totalStats := some ⟨some 30, none, some 0, some 3⟩
      streamStats := some [
        ⟨"users", some "public", ⟨some 20, some 2, none, some 2⟩⟩,
        ⟨"users", none, ⟨some 10, some 1, some 0, none⟩⟩]
      createdAt := 1
      updatedAt := 2
      endedAt := none
      failureSummary := none } := rfl
  exact ⟨_, h, rfl, rfl, stats_as_recorded h⟩

end View

end JobReport
