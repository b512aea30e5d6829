import JobReport.Proofs.Builders

/-!
# What makes a view fail

An attempt that was never started has no view, and nothing else in a record keeps a view from being
built. So the view of a job without its attempts is always there, and those with its attempts are
there when all of them were started. Beyond that only the fetching of a log can fail.
-/

set_option autoImplicit false

namespace JobReport

namespace View

variable {α β ι : Type}

/-- Whether a view fails exactly under a condition, and then for want of a status, which no later
call can mend. -/
def FailsIff (view : Except ViewError α) (p : Prop) : Prop :=
  ((∃ e, view = .error e) ↔ p) ∧
    ∀ e, view = .error e → e = .unmapped "AttemptStatus" "not_started" ∧ e.isRetryable = false

theorem failsIff_attempt (a : JobReport.Attempt) :
    FailsIff (Attempt.ofRecord a) (a.status = .notStarted) := by
  by_cases h : a.status = .notStarted
  · have herror := attempt_notStarted h
    refine ⟨⟨fun _ => h, fun _ => ⟨_, herror⟩⟩, ?_⟩
    intro e he
    rw [herror] at he
    cases he
    exact ⟨rfl, rfl⟩
  · obtain ⟨v, hv⟩ := attempt_started h
    rw [hv]
    exact ⟨⟨nofun, fun h' => absurd h' h⟩, nofun⟩

theorem FailsIff.map {view : Except ViewError α} {p : Prop} (h : FailsIff view p) (f : α → β) :
    FailsIff (view.map f) p := by
  simpa only [FailsIff, except_map_error_iff] using h

theorem failsIff_attemptInfo (a : JobReport.Attempt) :
    FailsIff (AttemptInfo.ofRecord a) (a.status = .notStarted) := by
  rw [attemptInfo_ofRecord]
  exact (failsIff_attempt a).map _

/-- A list of views fails when one of them does. -/
theorem FailsIff.mapM {f : ι → Except ViewError α} {p : ι → Prop}
    (h : ∀ a, FailsIff (f a) (p a)) (as : List ι) : FailsIff (as.mapM f) (∃ a ∈ as, p a) := by
  refine ⟨⟨?_, ?_⟩, ?_⟩
  · rintro ⟨e, he⟩
    obtain ⟨before, a, after, rfl, _, ha⟩ := list_mapM_error_iff.1 he
    exact ⟨a, by simp, (h a).1.1 ⟨e, ha⟩⟩
  · rintro ⟨a, ha, hp⟩
    obtain ⟨e, he⟩ := (h a).1.2 hp
    cases hall : as.mapM f with
    | error e' => exact ⟨e', rfl⟩
    | ok vs =>
      obtain ⟨v, hv⟩ := list_mapM_mem hall a ha
      rw [he] at hv
      cases hv
  · intro e he
    obtain ⟨before, a, after, rfl, _, ha⟩ := list_mapM_error_iff.1 he
    exact (h a).2 e ha

variable (job : JobReport.Job)

theorem failsIff_jobWithAttempts :
    FailsIff (JobWithAttempts.ofRecord job) (∃ a ∈ job.attempts, a.status = .notStarted) := by
  obtain ⟨view, hview⟩ := job_ok job
  have hall := (FailsIff.mapM failsIff_attempt job.sortedAttempts).map (JobWithAttempts.mk view)
  simp only [JobReport.Job.sortedAttempts, List.mem_mergeSort] at hall
  rw [jobWithAttempts_ofRecord hview]
  exact hall

theorem failsIff_jobInfo :
    FailsIff (JobInfo.ofRecord job) (∃ a ∈ job.attempts, a.status = .notStarted) := by
  rw [jobInfo_eq_toInfo]
  exact (failsIff_jobWithAttempts job).map _

theorem jobOptional_ok (found : Option JobReport.Job) :
    ∃ view, JobOptional.ofRecord? found = .ok view := by
  obtain ⟨view, hview⟩ := option_mapM_ok job_ok found
  refine ⟨⟨view⟩, ?_⟩
  rw [JobOptional.ofRecord?, hview]
  rfl

end View

namespace Converter

variable (c : Converter Id) {e : ViewError}

/-- The view of a job that ran while its caller waited. -/
def synchronousView (job : SynchronousJob) : Except ViewError View.SynchronousJob :=
  (c.synchronousJob job).run.run

/-- Whether an error is that of the log under a path, as the store told it. -/
def IsLogFault (e : ViewError) (path : Option Path) : Prop :=
  ∃ p ∈ path, ∃ cause, c.answer p = .error cause ∧ e = .logFetch p cause

theorem log_error_iff {path : Option Path} :
    (c.log path).run.run = .error e ↔ c.IsLogFault e path := by
  cases path with
  | none => simp [log, IsLogFault]
  | some p =>
    rw [log_some]
    cases h : c.answer p with
    | ok lines => simp [IsLogFault, h]
    | error cause => simp [IsLogFault, h, eq_comm]

theorem infoOf_started {a : Attempt} {view : View.Attempt}
    (h : View.Attempt.ofRecord a = .ok view) :
    c.infoOf a = (c.log a.logPath).run.run.map fun logs => ⟨view, some logs⟩ := by
  simp only [infoOf, attemptInfo, h, pureView_ok, pure_bind, bind_pure_comp, ExceptT.run_map,
    Id.run_map]

theorem infoOf_error_iff {a : Attempt} :
    c.infoOf a = .error e ↔
      if a.status = .notStarted then e = .unmapped "AttemptStatus" "not_started"
      else c.IsLogFault e a.logPath := by
  by_cases h : a.status = .notStarted
  · rw [if_pos h]
    simp [infoOf, attemptInfo, View.attempt_notStarted h, eq_comm]
  · obtain ⟨view, hview⟩ := View.attempt_started h
    rw [if_neg h, infoOf_started c hview, except_map_error_iff, log_error_iff]

/-- All in the view of a synchronous job but its log is there whatever the store answers. -/
theorem synchronousView_eq (job : SynchronousJob) : ∃ view : View.SynchronousJob,
    ∀ c : Converter Id,
      c.synchronousView job = (c.log job.logPath).run.run.map fun logs => { view with logs } := by
  obtain ⟨configType, ht⟩ := View.cross_configType job.configType
  obtain ⟨reason, hr⟩ := option_mapM_ok (View.failureReason_ok job.endedAt) job.failureReason
  refine ⟨⟨job.id, configType, job.configId.text, job.createdAt, job.endedAt, job.succeeded,
    job.connectorConfigurationUpdated, ⟨[]⟩, reason⟩, fun c => ?_⟩
  simp only [synchronousView, synchronousJob, ht, hr, pureView_ok, pure_bind, bind_pure_comp,
    ExceptT.run_map, Id.run_map]

/-- Only its log can keep a synchronous job from being shown. -/
theorem synchronousView_error_iff {job : SynchronousJob} :
    c.synchronousView job = .error e ↔ c.IsLogFault e job.logPath := by
  obtain ⟨_, hview⟩ := synchronousView_eq job
  rw [hview, except_map_error_iff, log_error_iff]

/-- The full info of a job fails with the error of the first attempt that cannot be shown. -/
theorem fullInfo_error_iff {job : Job} :
    c.fullInfo job = .error e ↔ ∃ before a after, job.sortedAttempts = before ++ a :: after ∧
      (∀ b ∈ before, c.stopsAt b = false) ∧ c.infoOf a = .error e := by
  obtain ⟨view, hview⟩ := View.job_ok job
  rw [fullInfo_eq c job hview, except_map_error_iff, list_mapM_error_iff]
  have hshown : ∀ b : Attempt, (∃ info, c.infoOf b = .ok info) ↔ c.stopsAt b = false := by
    intro b
    constructor
    · rintro ⟨info, hinfo⟩
      cases hstop : c.stopsAt b with
      | false => rfl
      | true =>
        obtain ⟨e', he'⟩ := infoOf_error c hstop
        rw [hinfo] at he'
        cases he'
    · intro hgo
      exact (infoOf_shows c hgo).imp fun _ h => h.1
  simp only [hshown]

theorem fullInfo_error {job : Job} (h : c.fullInfo job = .error e) :
    ∃ a ∈ job.attempts,
      if a.status = .notStarted then e = .unmapped "AttemptStatus" "not_started"
      else c.IsLogFault e a.logPath := by
  obtain ⟨before, a, after, hsplit, _, ha⟩ := (fullInfo_error_iff c).1 h
  refine ⟨a, ?_, (infoOf_error_iff c).1 ha⟩
  have hmem : a ∈ job.sortedAttempts := by simp [hsplit]
  exact List.mem_mergeSort.1 hmem

end Converter

/-- The views of a job without its attempts are always there. The view of an attempt fails exactly
when it was never started, and the views of a job with its attempts when one of them was not.
Failures are always shown. With logs, the only other error is that of a log. -/
theorem fails_iff_notStarted (job : Job) :
    (∃ view, View.Job.ofRecord job = .ok view) ∧
    (∃ view, View.JobInfoLight.ofRecord job = .ok view) ∧
    (∀ found, ∃ view, View.JobOptional.ofRecord? found = .ok view) ∧
    (∀ a, View.FailsIff (View.Attempt.ofRecord a) (a.status = .notStarted) ∧
      View.FailsIff (View.AttemptInfo.ofRecord a) (a.status = .notStarted)) ∧
    View.FailsIff (View.JobWithAttempts.ofRecord job) (∃ a ∈ job.attempts, a.status = .notStarted) ∧
    View.FailsIff (View.JobInfo.ofRecord job) (∃ a ∈ job.attempts, a.status = .notStarted) ∧
    (∀ seconds (reason : Option FailureReason),
      ∃ view, reason.mapM (View.FailureReason.ofRecord seconds) = .ok view) ∧
    (∀ seconds (summary : Option FailureSummary),
      ∃ view, summary.mapM (View.FailureSummary.ofRecord seconds) = .ok view) ∧
    ∀ (c : Converter Id) e,
      (∀ a, c.infoOf a = .error e ↔
        if a.status = .notStarted then e = .unmapped "AttemptStatus" "not_started"
        else c.IsLogFault e a.logPath) ∧
      (c.fullInfo job = .error e → ∃ a ∈ job.attempts,
        if a.status = .notStarted then e = .unmapped "AttemptStatus" "not_started"
        else c.IsLogFault e a.logPath) ∧
      ∀ s, c.synchronousView s = .error e ↔ c.IsLogFault e s.logPath := by
  obtain ⟨view, hview⟩ := View.job_ok job
  refine ⟨⟨view, hview⟩, ?_, View.jobOptional_ok,
    fun a => ⟨View.failsIff_attempt a, View.failsIff_attemptInfo a⟩,
    View.failsIff_jobWithAttempts job, View.failsIff_jobInfo job,
    fun seconds => option_mapM_ok (View.failureReason_ok seconds),
    fun seconds => option_mapM_ok (View.failureSummary_ok seconds), fun c e => ⟨?_, ?_, ?_⟩⟩
  · refine ⟨⟨view⟩, ?_⟩
    rw [View.JobInfoLight.ofRecord, hview]
    rfl
  · exact fun _ => c.infoOf_error_iff
  · exact c.fullInfo_error
  · exact fun _ => c.synchronousView_error_iff

end JobReport
