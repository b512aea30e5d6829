import JobReport.Proofs.Failures
import JobReport.Proofs.Uuid

/-!
# Synchronous jobs are shown unless their log is not there

Of a job that ran while its caller waited, only the log is fetched, and only it can be missing. All
else in the view is told by the record, whatever the caller got as output.
-/

set_option autoImplicit false

namespace JobReport

/-- Whether a view tells what the record of a synchronous job does, with these lines for its log. -/
structure View.SynchronousJob.Tells (view : View.SynchronousJob) (job : JobReport.SynchronousJob)
    (lines : List String) : Prop where
  logs : view.logs.lines = lines
  configId : Uuid.parse? view.configId = some job.configId
  failureReason : Option.Rel (fun v r => v.Tells job.endedAt r) view.failureReason
    job.failureReason

namespace Converter

/-- The view of a synchronous job, and the paths asked for on the way to it. -/
def synchronousNoting (c : Converter Id) (job : SynchronousJob) :
    Except ViewError View.SynchronousJob × List Path :=
  ((c.noting.synchronousJob job).run.run []).run

/-- The same for a response. -/
def responseNoting {α : Type} (c : Converter Id) (r : SynchronousResponse α) :
    Except ViewError View.SynchronousJob × List Path :=
  ((c.noting.synchronousResponse r).run.run []).run

/-- Whether these are the lines of the log under a path, a record without a path having none. -/
def Fetches (c : Converter Id) (path : Option Path) (lines : List String) : Prop :=
  match path with
  | none => lines = []
  | some path => c.answer path = .ok lines

section

variable (c : Converter Id) (job : SynchronousJob)

/-- Taking notes changes nothing in the view, and its own log is all that a job asks for. -/
theorem synchronousNoting_eq :
    c.synchronousNoting job = (c.synchronousView job, job.logPath.toList) := by
  obtain ⟨configType, ht⟩ := View.cross_configType job.configType
  obtain ⟨reason, hr⟩ := option_mapM_ok (View.failureReason_ok job.endedAt) job.failureReason
  simp only [synchronousNoting, synchronousView, synchronousJob, ht, hr, pureView_ok, pure_bind,
    bind_pure_comp, ExceptT.run_map, StateT.run_map, Id.run_map, noting_log]
  rfl

theorem log_ok_iff {path : Option Path} {log : View.Log} :
    (c.log path).run.run = .ok log ↔ c.Fetches path log.lines := by
  cases path with
  | none =>
    change Except.ok (View.Log.mk []) = .ok log ↔ log.lines = []
    obtain ⟨lines⟩ := log
    simp [eq_comm]
  | some path =>
    rw [log_some, Fetches]
    obtain ⟨lines⟩ := log
    cases c.answer path <;> simp

variable {c job}

theorem synchronousView_tells {view : View.SynchronousJob} (h : c.synchronousView job = .ok view) :
    ∃ lines, c.Fetches job.logPath lines ∧ view.Tells job lines := by
  simp only [synchronousView, synchronousJob, run_bind_ok_iff, run_pureView, log_ok_iff] at h
  obtain ⟨_, _, reason, hreason, logs, hlogs, h⟩ := h
  cases h
  exact ⟨logs.lines, hlogs, rfl, Uuid.parse?_text job.configId,
    option_mapM_rel (fun _ _ => View.failureReason_tells) hreason⟩

theorem isLogFault_isRetryable {e : ViewError} {path : Option Path} (h : c.IsLogFault e path) :
    e.isRetryable = true := by
  obtain ⟨_, _, _, _, rfl⟩ := h
  rfl

/-- A store that fails on the log of a job is the one reason not to show it. -/
theorem synchronousView_fails_iff : (∃ e, c.synchronousView job = .error e) ↔
    ∃ path ∈ job.logPath, ∃ cause, c.answer path = .error cause := by
  simp only [synchronousView_error_iff]
  constructor
  · rintro ⟨_, path, hpath, cause, hcause, _⟩
    exact ⟨path, hpath, cause, hcause⟩
  · rintro ⟨path, hpath, cause, hcause⟩
    exact ⟨.logFetch path cause, path, hpath, cause, hcause, rfl⟩

/-- When a job was created is shown and plays no other part. -/
theorem synchronousView_createdAt (createdAt : Int64) :
    c.synchronousView { job with createdAt } =
      (c.synchronousView job).map fun view => { view with createdAt } := by
  simp only [synchronousView, synchronousJob, run_bind]
  cases (pureView (m := Id) (View.cross (ε := View.ConfigType) job.configType)).run.run with
  | error e => rfl
  | ok configType =>
    cases (pureView (m := Id)
        (job.failureReason.mapM (View.FailureReason.ofRecord job.endedAt))).run.run with
    | error e => rfl
    | ok reason => cases (c.log job.logPath).run.run <;> rfl

/-- The view for a response is that of its record, and asks for the same. -/
theorem responseNoting_eq {α : Type} (r : SynchronousResponse α) :
    c.responseNoting r = c.synchronousNoting r.job := rfl

end

/-- A synchronous job asks for its own log and for nothing else. Its view fails just when the store
fails on that log, with an error that a retry can mend; otherwise it shows the lines of the log, the
id of its configuration, and its failure in the time at which it ended, not that at which it was
created. The output that comes with the record in a response changes neither the view nor what is
asked for. -/
theorem synchronous_asks_own_log (c : Converter Id) (job : SynchronousJob) :
    c.synchronousNoting job = (c.synchronousView job, job.logPath.toList) ∧
    ((∃ e, c.synchronousView job = .error e) ↔
      ∃ path ∈ job.logPath, ∃ cause, c.answer path = .error cause) ∧
    (∀ e, c.synchronousView job = .error e → c.IsLogFault e job.logPath ∧ e.isRetryable = true) ∧
    (∀ view, c.synchronousView job = .ok view →
      ∃ lines, c.Fetches job.logPath lines ∧ view.Tells job lines) ∧
    (∀ createdAt, c.synchronousView { job with createdAt } =
      (c.synchronousView job).map fun view => { view with createdAt }) ∧
    ∀ {α β : Type} (r : SynchronousResponse α) (r' : SynchronousResponse β),
      r.job = job → r'.job = job →
        c.responseNoting r = c.synchronousNoting job ∧
          c.responseNoting r' = c.responseNoting r := by
  refine ⟨synchronousNoting_eq c job, synchronousView_fails_iff, ?_, ?_,
    synchronousView_createdAt, ?_⟩
  · intro e he
    have hfault := (synchronousView_error_iff c).1 he
    exact ⟨hfault, isLogFault_isRetryable hfault⟩
  · exact fun _ => synchronousView_tells
  · rintro α β r r' rfl hjob
    rw [responseNoting_eq, responseNoting_eq, hjob]
    exact ⟨rfl, rfl⟩

/-- A check with a log, and a time of its end that its failure has to borrow. -/
def loggedCheck : SynchronousJob := { failedCheck with logPath := some ⟨"check.log"⟩ }

/-- The converter whose store has that log. -/
def withCheckLog : Converter Id :=
  { withoutLogs with store := .memory [("check.log", ["started", "failed"])] }

theorem synchronous_asks_own_log_loggedCheck :
    (∃ e, withoutLogs.synchronousView loggedCheck = .error e ∧
      withoutLogs.IsLogFault e loggedCheck.logPath ∧ e.isRetryable = true) ∧
    ∃ view, withCheckLog.synchronousView loggedCheck = .ok view ∧
      ∃ lines, withCheckLog.Fetches loggedCheck.logPath lines ∧ view.Tells loggedCheck lines := by
  have hmissing : withoutLogs.synchronousView loggedCheck =
      .error (.logFetch ⟨"check.log"⟩ ⟨⟨"check.log"⟩, .noSuchLog⟩) := rfl
  have hshown : withCheckLog.synchronousView loggedCheck = .ok {
      id := loggedCheck.id
      configType := .checkConnectionSource
      configId := loggedCheck.configId.text
      createdAt := 1
      endedAt := 2
      succeeded := false
      connectorConfigurationUpdated := false
      logs := ⟨["started", "failed"]⟩
      failureReason := some ⟨some .source, some .configError, none, none, none, 2000, none⟩ } := rfl
  exact ⟨⟨_, hmissing, (synchronous_asks_own_log _ _).2.2.1 _ hmissing⟩,
    ⟨_, hshown, (synchronous_asks_own_log _ _).2.2.2.1 _ hshown⟩⟩

end Converter

end JobReport
