import JobReport.Proofs.Traversal
import JobReport.View.OfJob

/-!
# Which records have a view

Every name of the records is known to the views but one: an attempt that was never started has no
status there. So a job always has a view, and an attempt has one exactly when it was started.
-/

set_option autoImplicit false

namespace JobReport

namespace View

theorem cross_jobStatus (s : JobReport.JobStatus) : ∃ t : JobStatus, cross s = .ok t := by
  cases s <;> exact ⟨_, rfl⟩

theorem cross_configType (t : JobReport.ConfigType) : ∃ u : ConfigType, cross t = .ok u := by
  cases t <;> exact ⟨_, rfl⟩

theorem cross_failureOrigin (o : JobReport.FailureOrigin) :
    ∃ p : FailureOrigin, cross o = .ok p := by
  cases o <;> exact ⟨_, rfl⟩

theorem cross_failureType (t : JobReport.FailureType) : ∃ u : FailureType, cross t = .ok u := by
  cases t <;> exact ⟨_, rfl⟩

/-- The one value that the records have and the views have not. -/
theorem cross_notStarted :
    (cross JobReport.AttemptStatus.notStarted : Except ViewError AttemptStatus) =
      .error (.unmapped "AttemptStatus" "not_started") := rfl

theorem cross_started {s : JobReport.AttemptStatus} (h : s ≠ .notStarted) :
    ∃ t : AttemptStatus, cross s = .ok t := by
  cases s with
  | notStarted => exact absurd rfl h
  | running => exact ⟨_, rfl⟩
  | failed => exact ⟨_, rfl⟩
  | succeeded => exact ⟨_, rfl⟩

theorem failureReason_ok (seconds : Int64) (r : JobReport.FailureReason) :
    ∃ v, FailureReason.ofRecord seconds r = .ok v := by
  obtain ⟨origin, ho⟩ := option_mapM_ok cross_failureOrigin r.origin
  obtain ⟨type, ht⟩ := option_mapM_ok cross_failureType r.type
  rw [FailureReason.ofRecord, ho, ht]
  exact ⟨_, rfl⟩

theorem failureSummary_ok (seconds : Int64) (s : JobReport.FailureSummary) :
    ∃ v, FailureSummary.ofRecord seconds s = .ok v := by
  obtain ⟨failures, hf⟩ : ∃ failures, s.failures.mapM (FailureReason.ofRecord seconds) =
      .ok failures := list_mapM_ok fun r _ => failureReason_ok seconds r
  refine ⟨⟨failures, s.partialSuccess⟩, ?_⟩
  rw [FailureSummary.ofRecord, hf]
  rfl

theorem attempt_notStarted {a : JobReport.Attempt} (h : a.status = .notStarted) :
    Attempt.ofRecord a = .error (.unmapped "AttemptStatus" "not_started") := by
  rw [Attempt.ofRecord, h, cross_notStarted]
  rfl

theorem attempt_started {a : JobReport.Attempt} (h : a.status ≠ .notStarted) :
    ∃ v, Attempt.ofRecord a = .ok v := by
  obtain ⟨status, hs⟩ := cross_started h
  obtain ⟨summary, hf⟩ := option_mapM_ok (failureSummary_ok a.updatedAt) a.failureSummary
  rw [Attempt.ofRecord, hs, hf]
  exact ⟨_, rfl⟩

theorem job_ok (job : JobReport.Job) : ∃ v, Job.ofRecord job = .ok v := by
  obtain ⟨configType, ht⟩ := cross_configType job.configType
  obtain ⟨status, hs⟩ := cross_jobStatus job.status
  rw [Job.ofRecord, ht, hs]
  exact ⟨_, rfl⟩

end View

end JobReport
