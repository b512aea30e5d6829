import JobReport.Proofs.Unstarted

/-!
# What a retry can mend

The log of the attempt at which a view ended may be there another time; a status that the views do
not have stays. But the error tells only of that attempt. A later one that was never started keeps
the view from ever being built, and while an earlier log is missing it is not seen.
-/

set_option autoImplicit false

namespace JobReport.Converter

/-- Whether there is a store under which the view of a job with all logs can be built. -/
def Showable (c : Converter Id) (job : Job) : Prop :=
  ∃ (store : LogStore Id) (info : View.JobInfo),
    ({ c with store } : Converter Id).fullInfo job = .ok info

/-- The store that has an empty log under every path. -/
def everyLog : LogStore Id := fun _ _ => pure (.ok [])

variable {c : Converter Id} {job : Job} {e : ViewError}

/-- Only an attempt that was never started keeps a job from being shown under any store. -/
theorem showable_iff : c.Showable job ↔ ∀ a ∈ job.attempts, a.status ≠ .notStarted := by
  constructor
  · rintro ⟨store, info, h⟩ a ha
    exact View.started_of_jobInfo (View.jobInfo_of_fullInfo h) a (List.mem_mergeSort.2 ha)
  · intro hstarted
    cases hinfo : View.JobInfo.ofRecord job with
    | error e =>
      obtain ⟨a, ha, hs⟩ := (View.failsIff_jobInfo job).1.1 ⟨e, hinfo⟩
      exact absurd hs (hstarted a ha)
    | ok info =>
      have hlogs : ∀ a ∈ job.attempts, ∀ path, a.logPath = some path →
          ∃ lines, ({ c with store := everyLog } : Converter Id).answer path = .ok lines :=
        fun _ _ _ _ => ⟨[], rfl⟩
      exact ⟨everyLog, View.fullInfo_of_jobInfo hlogs hinfo⟩

/-- An error can be retried when the attempt that it tells of was started. -/
theorem isRetryable_iff {a : Attempt} (h : c.infoOf a = .error e) :
    e.isRetryable = true ↔ a.status ≠ .notStarted := by
  rw [infoOf_error_iff] at h
  split at h
  · rename_i hs
    rw [h]
    exact ⟨nofun, fun hne => absurd hs hne⟩
  · rename_i hs
    obtain ⟨path, _, cause, _, rfl⟩ := h
    exact ⟨fun _ => hs, fun _ => rfl⟩

theorem started_of_stopsAt {a : Attempt} (h : c.stopsAt a = false) : a.status ≠ .notStarted := by
  simp only [stopsAt, Bool.or_eq_false_iff, decide_eq_false_iff_not] at h
  exact h.1

/-- An error that cannot be retried is final. One that can be is so only of the attempt that it
tells of: under some store the view can be built just when, beyond that, no later attempt is one
that was never started. -/
theorem retry_unless_hidden (h : c.fullInfo job = .error e) :
    ∃ before a after, job.sortedAttempts = before ++ a :: after ∧
      (∀ b ∈ before, c.stopsAt b = false) ∧ c.infoOf a = .error e ∧
      (e.isRetryable = true ↔ a.status ≠ .notStarted) ∧
      (c.Showable job ↔ e.isRetryable = true ∧ ∀ b ∈ after, b.status ≠ .notStarted) := by
  obtain ⟨before, a, after, hsplit, hbefore, ha⟩ := (fullInfo_error_iff c).1 h
  have hretry := isRetryable_iff ha
  refine ⟨before, a, after, hsplit, hbefore, ha, hretry, ?_⟩
  have hmem : ∀ b, b ∈ job.attempts ↔ b ∈ before ++ a :: after := by
    intro b
    rw [← hsplit]
    exact List.mem_mergeSort.symm
  rw [showable_iff, hretry]
  simp only [hmem, List.forall_mem_append, List.forall_mem_cons]
  exact ⟨fun hall => hall.2, fun hrest => ⟨fun b hb => started_of_stopsAt (hbefore b hb), hrest⟩⟩

/-- An attempt whose log is missing, and after it one that was never started. -/
def hidingJob : Job where
  id := 1
  scope := "connection"
  config := .sync ⟨none⟩
  status := .running
  createdAt := 1
  updatedAt := 2
  startedAt := none
  attempts := [attempt 1 .failed (some ⟨"a.log"⟩), attempt 2 .notStarted none]
where
  attempt (number : Int32) (status : AttemptStatus) (logPath : Option Path) : Attempt :=
    ⟨number, 1, status, none, none, logPath, 1, 2, none⟩

/-- The converter whose store has no logs. -/
def withoutLogs : Converter Id := ⟨.memory [], ⟨.docker, ⟨⟨"/"⟩, 1000⟩, .ofList []⟩⟩

theorem withoutLogs_hidingJob : withoutLogs.fullInfo hidingJob =
    .error (.logFetch ⟨"a.log"⟩ ⟨⟨"a.log"⟩, .noSuchLog⟩) := by
  have hsorted : hidingJob.sortedAttempts = hidingJob.attempts :=
    List.mergeSort_of_pairwise (by decide)
  rw [fullInfo, jobInfo, hsorted]
  rfl

/-- The error for the missing log says that a retry could succeed, but none ever can. -/
theorem retryable_not_showable : ∃ e, withoutLogs.fullInfo hidingJob = .error e ∧
    ¬ (e.isRetryable = true ↔ withoutLogs.Showable hidingJob) := by
  refine ⟨_, withoutLogs_hidingJob, ?_⟩
  rw [showable_iff]
  decide

theorem retry_unless_hidden_hidingJob :
    ∃ e, withoutLogs.fullInfo hidingJob = .error e ∧ ∃ before a after,
      hidingJob.sortedAttempts = before ++ a :: after ∧
      (∀ b ∈ before, withoutLogs.stopsAt b = false) ∧ withoutLogs.infoOf a = .error e ∧
      (e.isRetryable = true ↔ a.status ≠ .notStarted) ∧
      (withoutLogs.Showable hidingJob ↔
        e.isRetryable = true ∧ ∀ b ∈ after, b.status ≠ .notStarted) :=
  ⟨_, withoutLogs_hidingJob, retry_unless_hidden withoutLogs_hidingJob⟩

end JobReport.Converter
