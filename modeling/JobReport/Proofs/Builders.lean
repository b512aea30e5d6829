import JobReport.Proofs.Fetching

/-!
# All views of a job are views of one another

The views of a job are built in three ways: from the record alone, by attempts, and by attempts
with their logs. They show the same job, the same attempts in the same order, and fail together.
-/

set_option autoImplicit false

namespace JobReport.View

def AttemptInfo.withoutLogs (info : AttemptInfo) : AttemptInfo := { info with logs := none }

def JobInfo.withoutLogs (info : JobInfo) : JobInfo :=
  { info with attempts := info.attempts.map (·.withoutLogs) }

/-- The same attempts, each without a log. -/
def JobWithAttempts.toInfo (v : JobWithAttempts) : JobInfo := ⟨v.job, v.attempts.map (⟨·, none⟩)⟩

variable {job : JobReport.Job} {view : Job}

theorem attemptInfo_ofRecord (a : JobReport.Attempt) :
    AttemptInfo.ofRecord a = (Attempt.ofRecord a).map (⟨·, none⟩) := by
  rw [AttemptInfo.ofRecord]
  cases Attempt.ofRecord a with
  | error e => rfl
  | ok v => rfl

theorem jobWithAttempts_ofRecord (h : Job.ofRecord job = .ok view) :
    JobWithAttempts.ofRecord job =
      (job.sortedAttempts.mapM Attempt.ofRecord).map (JobWithAttempts.mk view) := by
  rw [JobWithAttempts.ofRecord, h]
  cases job.sortedAttempts.mapM Attempt.ofRecord with
  | error e => rfl
  | ok v => rfl

theorem jobInfo_ofRecord (h : Job.ofRecord job = .ok view) :
    JobInfo.ofRecord job =
      (job.sortedAttempts.mapM AttemptInfo.ofRecord).map (JobInfo.mk view) := by
  rw [JobInfo.ofRecord, h]
  cases job.sortedAttempts.mapM AttemptInfo.ofRecord with
  | error e => rfl
  | ok v => rfl

theorem jobInfo_eq_toInfo (job : JobReport.Job) :
    JobInfo.ofRecord job = (JobWithAttempts.ofRecord job).map (·.toInfo) := by
  obtain ⟨view, hview⟩ := job_ok job
  have h : job.sortedAttempts.mapM AttemptInfo.ofRecord =
      (job.sortedAttempts.mapM Attempt.ofRecord).map (List.map (⟨·, none⟩)) := by
    rw [← list_mapM_map]
    exact congrArg (job.sortedAttempts.mapM ·) (funext attemptInfo_ofRecord)
  rw [jobInfo_ofRecord hview, jobWithAttempts_ofRecord hview, h]
  cases job.sortedAttempts.mapM Attempt.ofRecord with
  | error e => rfl
  | ok v => rfl

/-- The info of an attempt with its log says all that the one without says. -/
theorem attemptInfo_of_shows {c : Converter Id} {a : JobReport.Attempt} {info : AttemptInfo}
    (h : c.Shows a info) : AttemptInfo.ofRecord a = .ok info.withoutLogs := by
  rw [attemptInfo_ofRecord, h.1]
  rfl

theorem jobInfo_of_fullInfo {c : Converter Id} {info : JobInfo} (h : c.fullInfo job = .ok info) :
    JobInfo.ofRecord job = .ok info.withoutLogs := by
  obtain ⟨view, hview⟩ := job_ok job
  rw [Converter.fullInfo_eq c job hview] at h
  cases hinfos : job.sortedAttempts.mapM c.infoOf with
  | error e =>
    rw [hinfos] at h
    cases h
  | ok infos =>
    rw [hinfos] at h
    cases h
    have hall : job.sortedAttempts.mapM AttemptInfo.ofRecord =
        .ok (infos.map (·.withoutLogs)) := by
      rw [list_mapM_ok_iff, List.forall₂_map_right_iff]
      exact (list_mapM_ok_iff.1 hinfos).imp fun _ _ ha =>
        attemptInfo_of_shows (Converter.shows_of_infoOf c ha)
    rw [jobInfo_ofRecord hview, hall]
    rfl

theorem started_of_jobInfo {info : JobInfo} (h : JobInfo.ofRecord job = .ok info) :
    ∀ a ∈ job.sortedAttempts, a.status ≠ .notStarted := by
  obtain ⟨view, hview⟩ := job_ok job
  rw [jobInfo_ofRecord hview] at h
  cases hinfos : job.sortedAttempts.mapM AttemptInfo.ofRecord with
  | error e =>
    rw [hinfos] at h
    cases h
  | ok infos =>
    intro a ha hs
    obtain ⟨info, hinfo⟩ := list_mapM_mem hinfos a ha
    rw [attemptInfo_ofRecord, attempt_notStarted hs] at hinfo
    cases hinfo

/-- Where the info without logs can be built, only a log can keep the full info from it. -/
theorem fullInfo_of_jobInfo {c : Converter Id} {info : JobInfo}
    (hlogs : ∀ a ∈ job.attempts, ∀ path, a.logPath = some path → ∃ lines, c.answer path = .ok lines)
    (h : JobInfo.ofRecord job = .ok info) : ∃ full, c.fullInfo job = .ok full := by
  have hgo : ∀ a ∈ job.sortedAttempts, c.stopsAt a = false := by
    intro a ha
    simp only [Converter.stopsAt, Bool.or_eq_false_iff, decide_eq_false_iff_not]
    constructor
    · exact started_of_jobInfo h a ha
    · cases hp : a.logPath with
      | none => rfl
      | some path =>
        obtain ⟨lines, hlines⟩ := hlogs a (List.mem_mergeSort.1 ha) path hp
        simp [hlines, Except.isOk, Except.toBool]
  obtain ⟨view, infos, _, _, hfull⟩ := Converter.fullInfoNoting_ok c job hgo
  rw [Converter.fullInfoNoting_eq, Prod.mk.injEq] at hfull
  exact ⟨_, hfull.1⟩

theorem jobWithAttempts_ok {v : JobWithAttempts} (h : JobWithAttempts.ofRecord job = .ok v) :
    Job.ofRecord job = .ok v.job ∧
      job.sortedAttempts.mapM Attempt.ofRecord = .ok v.attempts := by
  simp only [JobWithAttempts.ofRecord, except_bind_ok_iff] at h
  obtain ⟨attempts, hattempts, shown, hshown, h⟩ := h
  cases h
  exact ⟨hshown, hattempts⟩

theorem jobWithAttempts_job {v : JobWithAttempts} (hview : Job.ofRecord job = .ok view)
    (h : JobWithAttempts.ofRecord job = .ok v) : v.job = view := by
  have hjob := (jobWithAttempts_ok h).1
  rw [hview] at hjob
  exact (Except.ok.inj hjob).symm

theorem jobInfo_job {info : JobInfo} (hview : Job.ofRecord job = .ok view)
    (h : JobInfo.ofRecord job = .ok info) : info.job = view := by
  rw [jobInfo_eq_toInfo, except_map_ok_iff] at h
  obtain ⟨v, hall, rfl⟩ := h
  exact jobWithAttempts_job hview hall

/-- All views of a job show the same job. Those with attempts show the same attempts and fail with
the same error. The full info is the one without logs but for the logs, and only they can make it
fail where that one does not. -/
theorem views_of_one_another (job : JobReport.Job) :
    (∃ view,
      Job.ofRecord job = .ok view ∧
      JobInfoLight.ofRecord job = .ok ⟨view⟩ ∧
      JobOptional.ofRecord? (some job) = .ok ⟨some view⟩ ∧
      (∀ v, JobWithAttempts.ofRecord job = .ok v → v.job = view) ∧
      (∀ info, JobInfo.ofRecord job = .ok info → info.job = view) ∧
      ∀ (c : Converter Id) full, c.fullInfo job = .ok full → full.job = view) ∧
    JobInfo.ofRecord job = (JobWithAttempts.ofRecord job).map (·.toInfo) ∧
    ∀ c : Converter Id,
      (∀ full, c.fullInfo job = .ok full →
        JobInfo.ofRecord job = .ok full.withoutLogs ∧
        ∀ source destination version,
          JobDebug.ofInfo full source destination version =
            JobDebug.ofInfo full.withoutLogs source destination version) ∧
      (∀ info, JobInfo.ofRecord job = .ok info →
        (∀ a ∈ job.attempts, ∀ path, a.logPath = some path →
          ∃ lines, c.answer path = .ok lines) →
        ∃ full, c.fullInfo job = .ok full ∧ full.withoutLogs = info) ∧
      ∀ e, JobInfo.ofRecord job = .error e → ∃ e', c.fullInfo job = .error e' := by
  obtain ⟨view, hview⟩ := job_ok job
  refine ⟨⟨view, hview, ?_, ?_, fun v h => jobWithAttempts_job hview h,
    fun info h => jobInfo_job hview h, fun c full h => ?_⟩, jobInfo_eq_toInfo job,
    fun c => ⟨?_, ?_, ?_⟩⟩
  · rw [JobInfoLight.ofRecord, hview]
    rfl
  · rw [JobOptional.ofRecord?, Option.mapM_some, hview]
    rfl
  · have hjob := jobInfo_job hview (jobInfo_of_fullInfo h)
    exact hjob
  · intro full h
    exact ⟨jobInfo_of_fullInfo h, fun _ _ _ => rfl⟩
  · intro info h hlogs
    obtain ⟨full, hfull⟩ := fullInfo_of_jobInfo hlogs h
    refine ⟨full, hfull, ?_⟩
    rw [jobInfo_of_fullInfo hfull] at h
    exact Except.ok.inj h
  · intro e h
    cases hfull : c.fullInfo job with
    | error e' => exact ⟨e', rfl⟩
    | ok full =>
      rw [jobInfo_of_fullInfo hfull] at h
      cases h

end JobReport.View
