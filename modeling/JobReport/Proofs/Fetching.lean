import JobReport.Proofs.Crossing
import JobReport.View.WithLogs

/-!
# What a view with logs comes to

The attempts of a job are worked through by number. The first that was never started, or whose log
the store fails on, decides the error and ends the asking for logs; without one, every attempt is
shown with the log under its own path.
-/

set_option autoImplicit false

namespace JobReport.Converter

/-- The converter whose store notes the paths that it is asked for. -/
def noting (c : Converter Id) : Converter (StateT (List Path) Id) := ⟨c.store.noting, c.context⟩

def answer (c : Converter Id) (path : Path) : Except LogError (List String) :=
  (c.store c.context path).run

/-- The view of an attempt with its log. -/
def infoOf (c : Converter Id) (a : Attempt) : Except ViewError View.AttemptInfo :=
  (c.attemptInfo a).run.run

def fullInfo (c : Converter Id) (job : Job) : Except ViewError View.JobInfo :=
  (c.jobInfo job).run.run

/-- The view of a job with all logs, and the paths asked for on the way to it. -/
def fullInfoNoting (c : Converter Id) (job : Job) : Except ViewError View.JobInfo × List Path :=
  ((c.noting.jobInfo job).run.run []).run

/-- Whether the view of a job ends at an attempt. -/
def stopsAt (c : Converter Id) (a : Attempt) : Bool :=
  a.status = .notStarted || a.logPath.any fun path => !(c.answer path).isOk

/-- An attempt is shown by its own view and the lines under its own path. -/
def Shows (c : Converter Id) (a : Attempt) (info : View.AttemptInfo) : Prop :=
  View.Attempt.ofRecord a = .ok info.attempt ∧
    ∃ lines, info.logs = some ⟨lines⟩ ∧
      match a.logPath with
      | none => lines = []
      | some path => c.answer path = .ok lines

def asked (a : Attempt) : List Path :=
  if a.status = .notStarted then [] else a.logPath.toList

variable (c : Converter Id) (a : Attempt) (job : Job)

theorem run_mapM {α β ε : Type} (g : α → ExceptT ε Id β) (as : List α) :
    (as.mapM g).run.run = as.mapM fun a => (g a).run.run := by
  induction as with
  | nil => rfl
  | cons a as ih =>
    rw [List.mapM_cons, List.mapM_cons, ← ih]
    cases ha : (g a).run.run with
    | error e =>
      simp only [ExceptT.run_bind, Id.run_bind, ha]
      rfl
    | ok b =>
      simp only [ExceptT.run_bind, Id.run_bind, ha]
      cases (as.mapM g).run.run with
      | error e => rfl
      | ok bs => rfl

section

variable {m : Type → Type} [Monad m] {α : Type}

@[simp] theorem pureView_ok (v : α) :
    (pureView (.ok v) : ExceptT ViewError m α) = pure v := rfl

@[simp] theorem pureView_error (e : ViewError) :
    (pureView (.error e) : ExceptT ViewError m α) = throw e := rfl

theorem run_pureView (a : Except ViewError α) :
    (pureView a : ExceptT ViewError Id α).run.run = a := rfl

end

theorem log_some (path : Path) : (c.log (some path)).run.run =
    match c.answer path with
    | .ok lines => .ok ⟨lines⟩
    | .error e => .error (.logFetch path e) := by
  simp only [log, fetch, answer, ExceptT.run_bind, ExceptT.run_lift, Id.run_bind, Id.run_map]
  cases (c.store c.context path).run with
  | error e => rfl
  | ok lines => rfl

theorem noting_log (path : Option Path) (s : List Path) :
    ((c.noting.log path).run.run s).run = ((c.log path).run.run, s ++ path.toList) := by
  cases path with
  | none => simp [log]
  | some path =>
    rw [log_some]
    simp only [log, fetch, noting, LogStore.noting, answer, ExceptT.run_bind, ExceptT.run_lift]
    cases h : (c.store c.context path).run with
    | error e => simp [h]
    | ok lines => simp [h]

theorem noting_attemptInfo (s : List Path) :
    ((c.noting.attemptInfo a).run.run s).run = (c.infoOf a, s ++ asked a) := by
  by_cases h : a.status = .notStarted
  · simp [attemptInfo, infoOf, asked, View.attempt_notStarted h, h]
  · obtain ⟨v, hv⟩ := View.attempt_started h
    simp [attemptInfo, infoOf, asked, hv, h, noting_log]

theorem fullInfo_eq {view : View.Job} (h : View.Job.ofRecord job = .ok view) :
    c.fullInfo job = (job.sortedAttempts.mapM c.infoOf).map (View.JobInfo.mk view) := by
  simp only [fullInfo, jobInfo, h, pureView_ok, pure_bind, bind_pure_comp, ExceptT.run_map,
    Id.run_map, run_mapM]
  rfl

/-- Taking notes changes nothing in the view. -/
theorem fullInfoNoting_eq : c.fullInfoNoting job =
    (c.fullInfo job, (reached c.infoOf job.sortedAttempts).flatMap asked) := by
  obtain ⟨view, hview⟩ := View.job_ok job
  have hrun := run_mapM_noting (noting_attemptInfo c) job.sortedAttempts []
  rw [fullInfo_eq c job hview]
  simp only [fullInfoNoting, jobInfo, hview, pureView_ok, pure_bind, bind_pure_comp,
    ExceptT.run_map, StateT.run_map, hrun]
  rfl

/-- An attempt at which the view ends says why. -/
theorem infoOf_stops {a : Attempt} (h : c.stopsAt a = true) :
    if a.status = .notStarted then
      c.infoOf a = .error (.unmapped "AttemptStatus" "not_started")
    else ∃ path e, a.logPath = some path ∧ c.answer path = .error e ∧
      c.infoOf a = .error (.logFetch path e) := by
  split
  · rename_i hs
    simp [infoOf, attemptInfo, View.attempt_notStarted hs]
  · rename_i hs
    obtain ⟨v, hv⟩ := View.attempt_started hs
    cases hp : a.logPath with
    | none => simp [stopsAt, hs, hp] at h
    | some path =>
      cases he : c.answer path with
      | ok lines => simp [stopsAt, hs, hp, he, Except.isOk, Except.toBool] at h
      | error e =>
        refine ⟨path, e, rfl, he, ?_⟩
        simp only [infoOf, attemptInfo, hv, hp, pureView_ok, pure_bind, bind_pure_comp,
          ExceptT.run_map, Id.run_map, log_some, he]
        rfl

theorem infoOf_error {a : Attempt} (h : c.stopsAt a = true) : ∃ e, c.infoOf a = .error e := by
  have hstop := infoOf_stops c h
  split at hstop
  · exact ⟨_, hstop⟩
  · obtain ⟨path, e, _, _, hinfo⟩ := hstop
    exact ⟨_, hinfo⟩

/-- An attempt at which the view does not end is shown as it should be. -/
theorem infoOf_shows {a : Attempt} (h : c.stopsAt a = false) :
    ∃ info, c.infoOf a = .ok info ∧ c.Shows a info := by
  simp only [stopsAt, Bool.or_eq_false_iff, decide_eq_false_iff_not] at h
  obtain ⟨hs, hl⟩ := h
  obtain ⟨v, hv⟩ := View.attempt_started hs
  cases hp : a.logPath with
  | none =>
    refine ⟨⟨v, some ⟨[]⟩⟩, ?_, hv, [], rfl, by rw [hp]⟩
    simp [infoOf, attemptInfo, hv, hp, log]
  | some path =>
    cases he : c.answer path with
    | error e => simp [hp, he, Except.isOk, Except.toBool] at hl
    | ok lines =>
      refine ⟨⟨v, some ⟨lines⟩⟩, ?_, hv, lines, rfl, by rw [hp]; exact he⟩
      simp only [infoOf, attemptInfo, hv, hp, pureView_ok, pure_bind, bind_pure_comp,
        ExceptT.run_map, Id.run_map, log_some, he]
      rfl

theorem shows_of_infoOf {a : Attempt} {info : View.AttemptInfo} (h : c.infoOf a = .ok info) :
    c.Shows a info := by
  cases hstop : c.stopsAt a with
  | true =>
    obtain ⟨e, he⟩ := infoOf_error c hstop
    rw [h] at he
    cases he
  | false =>
    obtain ⟨info', hinfo, hshows⟩ := infoOf_shows c hstop
    rw [h] at hinfo
    cases hinfo
    exact hshows

theorem flatMap_asked {as : List Attempt} (h : ∀ a ∈ as, c.stopsAt a = false) :
    as.flatMap asked = as.filterMap (·.logPath) := by
  induction as with
  | nil => rfl
  | cons a as ih =>
    have ha := h a (by simp)
    simp only [stopsAt, Bool.or_eq_false_iff, decide_eq_false_iff_not] at ha
    rw [List.flatMap_cons, ih fun b hb => h b (by simp [hb]), asked, if_neg ha.1]
    cases hp : a.logPath with
    | none => simp [hp]
    | some path => simp [hp]

theorem fullInfoNoting_ok (h : ∀ a ∈ job.sortedAttempts, c.stopsAt a = false) :
    ∃ view infos,
      View.Job.ofRecord job = .ok view ∧
      List.Forall₂ c.Shows job.sortedAttempts infos ∧
      c.fullInfoNoting job = (.ok ⟨view, infos⟩, job.sortedAttempts.filterMap (·.logPath)) := by
  obtain ⟨view, hview⟩ := View.job_ok job
  have hok : ∀ a ∈ job.sortedAttempts, ∃ info, c.infoOf a = .ok info := fun a ha =>
    (infoOf_shows c (h a ha)).imp fun _ h => h.1
  obtain ⟨infos, hinfos⟩ := list_mapM_ok hok
  refine ⟨view, infos, hview, ?_, ?_⟩
  · exact (list_mapM_ok_iff.1 hinfos).imp fun _ _ h => shows_of_infoOf c h
  · rw [fullInfoNoting_eq, fullInfo_eq c job hview, hinfos, reached_all hok, flatMap_asked c h]
    rfl

theorem fullInfoNoting_error {before : List Attempt} {a : Attempt} {after : List Attempt}
    {e : ViewError} (hsplit : job.sortedAttempts = before ++ a :: after)
    (hbefore : ∀ b ∈ before, c.stopsAt b = false) (ha : c.infoOf a = .error e) :
    c.fullInfoNoting job = (.error e, before.filterMap (·.logPath) ++ asked a) := by
  obtain ⟨view, hview⟩ := View.job_ok job
  have hok : ∀ b ∈ before, ∃ info, c.infoOf b = .ok info := fun b hb =>
    (infoOf_shows c (hbefore b hb)).imp fun _ h => h.1
  rw [fullInfoNoting_eq, fullInfo_eq c job hview, hsplit, list_mapM_error hok ha,
    reached_error hok ha, List.flatMap_append, flatMap_asked c hbefore]
  simp [Except.map]

/-- The view with all logs is decided by the first attempt at which it ends. Without one, every
attempt is shown in its place. Logs are asked for up to there, and in the same order. -/
theorem full_info_first_stop :
    (c.fullInfoNoting job).1 = c.fullInfo job ∧
    match job.sortedAttempts.findIdx? c.stopsAt with
    | none => ∃ view infos,
        View.Job.ofRecord job = .ok view ∧
        List.Forall₂ c.Shows job.sortedAttempts infos ∧
        c.fullInfoNoting job = (.ok ⟨view, infos⟩, job.sortedAttempts.filterMap (·.logPath))
    | some k => ∃ a,
        job.sortedAttempts[k]? = some a ∧
        if a.status = .notStarted then
          c.fullInfoNoting job =
            (.error (.unmapped "AttemptStatus" "not_started"),
              (job.sortedAttempts.take k).filterMap (·.logPath))
        else ∃ path e,
          a.logPath = some path ∧
          c.answer path = .error e ∧
          c.fullInfoNoting job =
            (.error (.logFetch path e),
              (job.sortedAttempts.take k).filterMap (·.logPath) ++ [path]) := by
  refine ⟨by rw [fullInfoNoting_eq], ?_⟩
  cases hk : job.sortedAttempts.findIdx? c.stopsAt with
  | none => exact fullInfoNoting_ok c job (List.findIdx?_eq_none_iff.1 hk)
  | some k =>
    obtain ⟨a, after, hsplit, hget, hstop, hbefore⟩ := findIdx?_split hk
    have hwhy := infoOf_stops c hstop
    refine ⟨a, hget, ?_⟩
    split at hwhy
    · rename_i hs
      rw [if_pos hs, fullInfoNoting_error c job hsplit hbefore hwhy, asked, if_pos hs,
        List.append_nil]
    · rename_i hs
      obtain ⟨path, e, hp, he, hinfo⟩ := hwhy
      rw [if_neg hs]
      refine ⟨path, e, hp, he, ?_⟩
      rw [fullInfoNoting_error c job hsplit hbefore hinfo, asked, if_neg hs, hp]
      rfl

end JobReport.Converter
