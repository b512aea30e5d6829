import JobReport.Proofs.Builders

/-!
# What no view can show

A record holds more than any view may tell: schemas and modes of streams, images of connectors, the
selection of a clear, the paths of logs, counters that the totals have replaced. Blanking all that
changes no view that needs nothing but the record. So of two records that differ only there a reader
sees the same, be it a view or an error.
-/

set_option autoImplicit false

namespace JobReport

/-! ## The visible part of a record -/

/-- Streams are known by name alone. -/
def ConfiguredStream.visible (s : ConfiguredStream) : ConfiguredStream where
  stream := { s.stream with jsonSchema := .null }
  syncMode := none
  destinationSyncMode := none

def Catalog.visible (c : Catalog) : Catalog := ⟨c.streams.map (·.visible)⟩

/-- Of a refresh only the streams are known; an entry that names none might as well be missing. -/
def RefreshEntry.visible? (entry : RefreshEntry) : Option RefreshEntry :=
  entry.descriptor.map fun descriptor => ⟨some descriptor, none⟩

/-- A reset tells what it removes, a clear does not. -/
def JobConfig.visible : JobConfig → JobConfig
  | .checkConnectionSource _ => .checkConnectionSource ⟨""⟩
  | .checkConnectionDestination _ => .checkConnectionDestination ⟨""⟩
  | .discoverSchema _ => .discoverSchema ⟨""⟩
  | .getSpec _ => .getSpec ⟨""⟩
  | .sync config => .sync ⟨config.catalog.map (·.visible)⟩
  | .resetConnection config =>
    .resetConnection { config with catalog := config.catalog.map (·.visible) }
  | .refresh config =>
    .refresh ⟨config.catalog.map (·.visible), config.streams.filterMap (·.visible?)⟩
  | .clear config => .clear ⟨config.catalog.map (·.visible), none⟩

/-- The totals are known, the counters beside them are not. -/
def SyncSummary.visible (s : SyncSummary) : SyncSummary :=
  { s with bytesSynced := none, recordsSynced := none }

def AttemptOutput.visible (o : AttemptOutput) : AttemptOutput :=
  ⟨o.sync.map fun sync => ⟨sync.summary.map (·.visible)⟩⟩

def Attempt.visible (a : Attempt) : Attempt :=
  { a with jobId := 0, output := a.output.map (·.visible), logPath := none }

def Job.visible (job : Job) : Job :=
  { job with config := job.config.visible, attempts := job.attempts.map (·.visible) }

/-! ## It is all that a view tells -/

theorem JobConfig.type_visible (config : JobConfig) : config.visible.type = config.type := by
  cases config <;> rfl

theorem JobConfig.catalog_visible (config : JobConfig) :
    config.visible.catalog = config.catalog.map (·.visible) := by
  cases config <;> rfl

theorem RefreshEntry.descriptors_visible (entries : List RefreshEntry) :
    (entries.filterMap (·.visible?)).filterMap (·.descriptor) =
      entries.filterMap (·.descriptor) := by
  rw [List.filterMap_filterMap]
  apply List.filterMap_congr
  intro entry _
  rw [visible?, Option.bind_map]
  cases entry.descriptor <;> rfl

theorem Attempt.syncSummary_visible (a : Attempt) :
    a.visible.syncSummary = a.syncSummary.map (·.visible) := by
  rcases a with ⟨_, _, _, _ | ⟨_ | ⟨_ | _⟩⟩⟩ <;> rfl

theorem Job.sortedAttempts_visible (job : Job) :
    job.visible.sortedAttempts = job.sortedAttempts.map (·.visible) := by
  -- blanking keeps the numbers, so it does not matter which comes first
  unfold sortedAttempts
  rw [List.map_mergeSort]
  · rfl
  · intro a _ b _
    rfl

namespace View

theorem enabledStreams_visible (config : JobConfig) :
    enabledStreams config.visible = enabledStreams config := by
  unfold enabledStreams
  rw [config.catalog_visible]
  cases config.catalog with
  | none => rfl
  | some catalog => exact List.map_map

theorem resetConfig_visible (config : JobConfig) :
    ResetConfig.ofRecord? config.visible = ResetConfig.ofRecord? config := by
  cases config <;> rfl

theorem refreshConfig_visible (config : JobConfig) :
    RefreshConfig.ofRecord? config.visible = RefreshConfig.ofRecord? config := by
  cases config with
  | refresh config =>
    simp only [JobConfig.visible, RefreshConfig.ofRecord?, RefreshEntry.descriptors_visible]
  | checkConnectionSource | checkConnectionDestination | discoverSchema | getSpec | sync
  | resetConnection | clear => rfl

theorem job_visible (job : JobReport.Job) : Job.ofRecord job.visible = Job.ofRecord job := by
  simp only [Job.ofRecord, JobReport.Job.configType, JobReport.Job.visible,
    JobConfig.type_visible, enabledStreams_visible, resetConfig_visible, refreshConfig_visible]

theorem totalStats_visible (a : JobReport.Attempt) : totalStats a.visible = totalStats a := by
  unfold totalStats
  rw [a.syncSummary_visible]
  cases a.syncSummary <;> rfl

theorem streamStats_visible (a : JobReport.Attempt) : streamStats a.visible = streamStats a := by
  unfold streamStats
  rw [a.syncSummary_visible]
  cases a.syncSummary <;> rfl

theorem attempt_visible (a : JobReport.Attempt) :
    Attempt.ofRecord a.visible = Attempt.ofRecord a := by
  simp only [Attempt.ofRecord, totalStats_visible, streamStats_visible]
  rfl

theorem jobWithAttempts_visible (job : JobReport.Job) :
    JobWithAttempts.ofRecord job.visible = JobWithAttempts.ofRecord job := by
  have h : Attempt.ofRecord ∘ (·.visible) = Attempt.ofRecord := funext attempt_visible
  simp only [JobWithAttempts.ofRecord, job.sortedAttempts_visible, List.mapM_map, h, job_visible]

theorem jobInfo_visible (job : JobReport.Job) :
    JobInfo.ofRecord job.visible = JobInfo.ofRecord job := by
  rw [jobInfo_eq_toInfo, jobWithAttempts_visible, jobInfo_eq_toInfo]

end View

/-- Records that are alike in their visible parts have the same views and the same errors. -/
theorem views_eq_of_visible_eq {job job' : Job} (h : job.visible = job'.visible) :
    View.Job.ofRecord job = View.Job.ofRecord job' ∧
    View.JobInfoLight.ofRecord job = View.JobInfoLight.ofRecord job' ∧
    View.JobOptional.ofRecord? (some job) = View.JobOptional.ofRecord? (some job') ∧
    View.JobWithAttempts.ofRecord job = View.JobWithAttempts.ofRecord job' ∧
    View.JobInfo.ofRecord job = View.JobInfo.ofRecord job' := by
  have hjob : View.Job.ofRecord job = View.Job.ofRecord job' := by
    rw [← View.job_visible, h, View.job_visible]
  refine ⟨hjob, ?_, ?_, ?_, ?_⟩
  · rw [View.JobInfoLight.ofRecord, hjob, View.JobInfoLight.ofRecord]
  · simp only [View.JobOptional.ofRecord?, Option.mapM_some, hjob]
  · rw [← View.jobWithAttempts_visible, h, View.jobWithAttempts_visible]
  · rw [← View.jobInfo_visible, h, View.jobInfo_visible]

/-- A refresh of two streams, one of them without a name, with all that no view shows. -/
def detailedJob : Job where
  id := 1
  scope := "connection"
  config := .refresh {
    catalog := some ⟨[{
      stream := ⟨"users", none, .ofJson (.obj [("type", .str "object")])⟩
      syncMode := some "incremental"
      destinationSyncMode := some "append" }]⟩
    streams := [⟨none, some .merge⟩, ⟨some ⟨"users", none⟩, some .truncate⟩] }
  status := .succeeded
  createdAt := 1
  updatedAt := 2
  startedAt := none
  attempts := [{
    number := 1
    jobId := 1
    status := .succeeded
    output := some ⟨some ⟨some ⟨some 10, some 1, some ⟨some 20, some 2, none, none⟩, none⟩⟩⟩
    failureSummary := none
    logPath := some ⟨"a.log"⟩
    createdAt := 1
    updatedAt := 2
    endedAt := none }]

/-- The same refresh with other details. -/
def otherwiseDetailedJob : Job :=
  { detailedJob with
    config := .refresh {
      catalog := some ⟨[⟨⟨"users", none, .null⟩, none, some "overwrite"⟩]⟩
      streams := [⟨some ⟨"users", none⟩, none⟩] }
    attempts := detailedJob.attempts.map fun a => { a with
      jobId := 7
      output := some ⟨some ⟨some ⟨none, some 3, some ⟨some 20, some 2, none, none⟩, none⟩⟩⟩
      logPath := none } }

theorem views_eq_of_visible_eq_detailedJob : detailedJob ≠ otherwiseDetailedJob ∧
    detailedJob.visible = otherwiseDetailedJob.visible ∧
    View.Job.ofRecord detailedJob = View.Job.ofRecord otherwiseDetailedJob ∧
    View.JobInfoLight.ofRecord detailedJob = View.JobInfoLight.ofRecord otherwiseDetailedJob ∧
    View.JobOptional.ofRecord? (some detailedJob) =
      View.JobOptional.ofRecord? (some otherwiseDetailedJob) ∧
    View.JobWithAttempts.ofRecord detailedJob =
      View.JobWithAttempts.ofRecord otherwiseDetailedJob ∧
    View.JobInfo.ofRecord detailedJob = View.JobInfo.ofRecord otherwiseDetailedJob := by
  have h : detailedJob.visible = otherwiseDetailedJob.visible := rfl
  exact ⟨by decide, h, views_eq_of_visible_eq h⟩

end JobReport
