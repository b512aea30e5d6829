import JobReport.Proofs.Retrying

/-!
# Names on both sides

A value passes from the records to the views by its label, which is also its name, and both sides
are written with names. So wherever the tree of a view has the name of such a value, the tree of the
record has the same text, and where one has null the other has it too.
-/

set_option autoImplicit false

namespace JobReport

namespace Json

inductive Step where
  | member (name : String)
  | element (index : Nat)
  deriving DecidableEq, Repr

instance : Coe String Step := ⟨.member⟩

instance : Coe Nat Step := ⟨.element⟩

def at? : Json → List Step → Option Json
  | j, [] => some j
  | .obj ms, .member name :: path => (ms.lookup name).bind fun j => j.at? path
  | .arr js, .element i :: path => js[i]?.bind fun j => j.at? path
  | _, _ :: _ => none

/-- Whether two trees have the same thing, each under its own path. -/
def Agree (shown : Json) (path : List Step) (record : Json) (path' : List Step)
    (found : Option Json) : Prop :=
  shown.at? path = found ∧ record.at? path' = found

theorem at?_list {α : Type} (c : Codec α) (as : List α) (i : Nat) (path : List Step) :
    (c.list.encode as).at? (i :: path) = as[i]?.bind fun a => (c.encode a).at? path := by
  rw [Codec.list, at?, List.getElem?_map, Option.bind_map]
  rfl

theorem at?_option {α : Type} (c : Codec α) (o : Option α) (name : String) (path : List Step) :
    (c.option.encode o).at? (name :: path) = o.bind fun a => (c.encode a).at? (name :: path) := by
  cases o with
  | none => rfl
  | some a => rfl

/-- The way to an element of a list in a record of its own that may be absent. -/
theorem at?_nested {α β γ : Type} (outer : Codec α) (middle : Codec β) (inner : Codec γ)
    {part : α → Option β} {items : β → List γ} {first second : String}
    (hpart : ∀ a path, (outer.encode a).at? (first :: path) =
      (middle.option.encode (part a)).at? path)
    (hitems : ∀ b path, (middle.encode b).at? (second :: path) =
      (inner.list.encode (items b)).at? path) (a : α) (k : Nat) (path : List Step) :
    (outer.encode a).at? (first :: second :: k :: path) =
      (part a).bind fun b => (items b)[k]?.bind fun c => (inner.encode c).at? path := by
  rw [hpart, at?_option]
  congr 1
  funext b
  rw [hitems, at?_list]

end Json

namespace Named

variable {ι ε : Type} [Named ι] [Named ε]

def spelling : Option ι → Json
  | none => .null
  | some a => .str (name a)

theorem encode_option_named (o : Option ι) : (Codec.named ι).option.encode o = spelling o := by
  cases o with
  | none => rfl
  | some a => rfl

/-- A member that is a value by name, if there is one. -/
theorem at?_named {α : Type} (c : Codec α) {value : α → Option ι} {member : String}
    (h : ∀ a, (c.encode a).at? [member] = some ((Codec.named ι).option.encode (value a))) (a : α) :
    (c.encode a).at? [member] = some (spelling (value a)) := by
  rw [h, encode_option_named]

theorem name_of_cross {a : ι} {b : ε} (h : View.cross a = .ok b) : name b = name a := by
  unfold View.cross at h
  split at h
  · rename_i hlabel
    cases h
    exact (name_of_ofName? hlabel).trans (label_eq_name a)
  · cases h

theorem map_name_of_cross {o : Option ι} {p : Option ε} (h : o.mapM View.cross = .ok p) :
    p.map name = o.map name := by
  cases o with
  | none =>
    cases h
    rfl
  | some a =>
    rw [Option.mapM_some] at h
    obtain ⟨b, hb, rfl⟩ := except_map_ok_iff.1 h
    exact congrArg some (name_of_cross hb)

theorem spelling_eq (o : Option ι) : spelling o = (o.map name).elim .null .str := by
  cases o <;> rfl

theorem spelling_of_cross {o : Option ι} {p : Option ε} (h : o.mapM View.cross = .ok p) :
    spelling p = spelling o := by
  rw [spelling_eq, spelling_eq, map_name_of_cross h]

end Named

open Json Named

/-! ## Where the names are written -/

def Attempt.reason? (a : Attempt) (k : Nat) : Option FailureReason :=
  a.failureSummary.bind (·.failures[k]?)

/-- The same job with its attempts stored by number. -/
def Job.byNumber (job : Job) : Job := { job with attempts := job.sortedAttempts }

def Job.reason? (job : Job) (i k : Nat) : Option FailureReason :=
  job.sortedAttempts[i]?.bind (·.reason? k)

def reasonPath (i k : Nat) (member : String) : List Step :=
  ["attempts", i, "failure_summary", "failures", k, member]

theorem Attempt.at?_reason (a : Attempt) (k : Nat) (path : List Step) :
    (codec.encode a).at? ("failure_summary" :: "failures" :: k :: path) =
      a.failureSummary.bind fun s => s.failures[k]?.bind fun r =>
        (FailureReason.codec.encode r).at? path :=
  at?_nested codec FailureSummary.codec FailureReason.codec (fun _ _ => rfl) (fun _ _ => rfl)
    a k path

theorem Job.at?_configType (job : Job) :
    (codec.encode job).at? ["config", "config_type"] = some (.str (name job.configType)) := by
  obtain ⟨id, scope, config⟩ := job
  cases config <;> rfl

theorem Job.at?_attempts (job : Job) (i : Nat) (path : List Step) :
    (codec.encode job).at? ("attempts" :: i :: path) =
      job.attempts[i]?.bind fun a => (Attempt.codec.encode a).at? path :=
  at?_list Attempt.codec job.attempts i path

theorem Job.at?_reason (job : Job) (i k : Nat) (member : String) :
    (codec.encode job.byNumber).at? (reasonPath i k member) =
      (job.reason? i k).bind fun r => (FailureReason.codec.encode r).at? [member] := by
  rw [reasonPath, at?_attempts, reason?, Option.bind_assoc]
  congr 1
  funext a
  rw [Attempt.at?_reason, Attempt.reason?, Option.bind_assoc]

theorem SynchronousJob.at?_reason (job : SynchronousJob) (member : String) :
    (codec.encode job).at? ["failure_reason", member] =
      job.failureReason.bind fun r => (FailureReason.codec.encode r).at? [member] :=
  at?_option FailureReason.codec job.failureReason member []

namespace View

theorem JobWithAttempts.at?_attempts (view : JobWithAttempts) (i : Nat) (path : List Step) :
    (codec.encode view).at? ("attempts" :: i :: path) =
      view.attempts[i]?.bind fun a => (Attempt.codec.encode a).at? path :=
  at?_list Attempt.codec view.attempts i path

theorem SynchronousJob.at?_reason (view : SynchronousJob) (member : String) :
    (codec.encode view).at? ["failure_reason", member] =
      view.failureReason.bind fun r => (FailureReason.codec.encode r).at? [member] :=
  at?_option FailureReason.codec view.failureReason member []

/-! ## What a view says in the words of its record -/

/-- The names in the view of a job are those in its record, each attempt found by its number. -/
structure JobWithAttempts.Spells (view : JobWithAttempts) (job : JobReport.Job) : Prop where
  configType : Agree (codec.encode view) ["job", "config_type"]
    (JobReport.Job.codec.encode job) ["config", "config_type"] (some (.str (name job.configType)))
  status : Agree (codec.encode view) ["job", "status"]
    (JobReport.Job.codec.encode job) ["status"] (some (.str (name job.status)))
  attemptStatus (i : Nat) : Agree (codec.encode view) ["attempts", i, "status"]
    (JobReport.Job.codec.encode job.byNumber) ["attempts", i, "status"]
    (job.sortedAttempts[i]?.map fun a => .str (name a.status))
  failureOrigin (i k : Nat) : Agree (codec.encode view) (reasonPath i k "failure_origin")
    (JobReport.Job.codec.encode job.byNumber) (reasonPath i k "failure_origin")
    ((job.reason? i k).map (spelling ·.origin))
  failureType (i k : Nat) : Agree (codec.encode view) (reasonPath i k "failure_type")
    (JobReport.Job.codec.encode job.byNumber) (reasonPath i k "failure_type")
    ((job.reason? i k).map (spelling ·.type))

/-- The names in the view of a job that ran while its caller waited are those in its record. -/
structure SynchronousJob.Spells (view : SynchronousJob) (job : JobReport.SynchronousJob) :
    Prop where
  configType : Agree (codec.encode view) ["config_type"]
    (JobReport.SynchronousJob.codec.encode job) ["config_type"] (some (.str (name job.configType)))
  failureOrigin : Agree (codec.encode view) ["failure_reason", "failure_origin"]
    (JobReport.SynchronousJob.codec.encode job) ["failure_reason", "failure_origin"]
    (job.failureReason.map (spelling ·.origin))
  failureType : Agree (codec.encode view) ["failure_reason", "failure_type"]
    (JobReport.SynchronousJob.codec.encode job) ["failure_reason", "failure_type"]
    (job.failureReason.map (spelling ·.type))

/-- A member of a reason has one meaning in the record and in the view. -/
structure MemberOf (member : String) (value : JobReport.FailureReason → Json) : Prop where
  recorded (r : JobReport.FailureReason) :
    (JobReport.FailureReason.codec.encode r).at? [member] = some (value r)
  shown {seconds : Int64} {r : JobReport.FailureReason} {v : FailureReason} :
    FailureReason.ofRecord seconds r = .ok v →
      (FailureReason.codec.encode v).at? [member] = some (value r)

theorem failureReason_spelling {seconds : Int64} {r : JobReport.FailureReason} {v : FailureReason}
    (h : FailureReason.ofRecord seconds r = .ok v) :
    spelling v.origin = spelling r.origin ∧ spelling v.type = spelling r.type := by
  simp only [FailureReason.ofRecord, except_bind_ok_iff] at h
  obtain ⟨origin, horigin, type, htype, h⟩ := h
  cases h
  exact ⟨spelling_of_cross horigin, spelling_of_cross htype⟩

theorem memberOf_origin : MemberOf "failure_origin" (spelling ·.origin) where
  recorded := at?_named _ fun _ => rfl
  shown h := by rw [← (failureReason_spelling h).1, at?_named _ fun _ => rfl]

theorem memberOf_type : MemberOf "failure_type" (spelling ·.type) where
  recorded := at?_named _ fun _ => rfl
  shown h := by rw [← (failureReason_spelling h).2, at?_named _ fun _ => rfl]

section

variable {job : JobReport.Job} {view : JobWithAttempts} {member : String}
  {value : JobReport.FailureReason → Json}

theorem MemberOf.recorded_bind (hm : MemberOf member value) (o : Option JobReport.FailureReason) :
    (o.bind fun r => (JobReport.FailureReason.codec.encode r).at? [member]) = o.map value := by
  simp only [hm.recorded, Option.map_eq_bind, Function.comp_def]

theorem MemberOf.same (hm : MemberOf member value) (seconds : Int64) (r : JobReport.FailureReason)
    (v : FailureReason) (h : FailureReason.ofRecord seconds r = .ok v) :
    (FailureReason.codec.encode v).at? [member] =
      (JobReport.FailureReason.codec.encode r).at? [member] :=
  (hm.shown h).trans (hm.recorded r).symm

theorem attempt_at?_status (a : JobReport.Attempt) (v : Attempt) (h : Attempt.ofRecord a = .ok v) :
    (Attempt.codec.encode v).at? ["status"] =
      (JobReport.Attempt.codec.encode a).at? ["status"] := by
  simp only [Attempt.ofRecord, except_bind_ok_iff] at h
  obtain ⟨status, hstatus, summary, _, h⟩ := h
  cases h
  change some (Json.str (name status)) = some (.str (name a.status))
  rw [name_of_cross hstatus]

/-- What is the same for a reason and its view is the same for all reasons of an attempt. -/
theorem attempt_at?_reason (hm : MemberOf member value) (k : Nat) (a : JobReport.Attempt)
    (v : Attempt) (h : Attempt.ofRecord a = .ok v) :
    (Attempt.codec.encode v).at? ["failure_summary", "failures", k, member] =
      (JobReport.Attempt.codec.encode a).at? ["failure_summary", "failures", k, member] := by
  simp only [Attempt.ofRecord, except_bind_ok_iff] at h
  obtain ⟨status, _, summary, hsummary, h⟩ := h
  cases h
  rw [at?_nested Attempt.codec FailureSummary.codec FailureReason.codec (fun _ _ => rfl)
    (fun _ _ => rfl), JobReport.Attempt.at?_reason]
  apply option_mapM_bind ?_ hsummary
  intro s w hw
  obtain ⟨reasons, hreasons, hpair⟩ := except_bind_ok_iff.1 hw
  cases hpair
  exact list_mapM_getElem?_bind (hm.same _) hreasons k

theorem job_names {shown : Job} (h : Job.ofRecord job = .ok shown) :
    name shown.configType = name job.configType ∧ name shown.status = name job.status := by
  simp only [Job.ofRecord, except_bind_ok_iff] at h
  obtain ⟨configType, htype, status, hstatus, h⟩ := h
  cases h
  exact ⟨name_of_cross htype, name_of_cross hstatus⟩

/-- What is the same for an attempt and its view is the same for all attempts of a job. -/
theorem attempts_agree (h : JobWithAttempts.ofRecord job = .ok view) {path : List Step}
    (hpath : ∀ a v, Attempt.ofRecord a = .ok v →
      (Attempt.codec.encode v).at? path = (JobReport.Attempt.codec.encode a).at? path)
    {i : Nat} {found : Option Json}
    (hfound : (JobReport.Job.codec.encode job.byNumber).at? ("attempts" :: i :: path) = found) :
    Agree (JobWithAttempts.codec.encode view) ("attempts" :: i :: path)
      (JobReport.Job.codec.encode job.byNumber) ("attempts" :: i :: path) found := by
  refine ⟨?_, hfound⟩
  rw [← hfound, JobWithAttempts.at?_attempts, JobReport.Job.at?_attempts]
  exact list_mapM_getElem?_bind hpath (jobWithAttempts_ok h).2 i

theorem reasons_agree (h : JobWithAttempts.ofRecord job = .ok view) (hm : MemberOf member value)
    (i k : Nat) : Agree (JobWithAttempts.codec.encode view) (reasonPath i k member)
      (JobReport.Job.codec.encode job.byNumber) (reasonPath i k member)
      ((job.reason? i k).map value) := by
  apply attempts_agree h (attempt_at?_reason hm k)
  rw [← hm.recorded_bind, ← JobReport.Job.at?_reason, reasonPath]

theorem jobWithAttempts_spells (h : JobWithAttempts.ofRecord job = .ok view) :
    view.Spells job where
  configType := by
    refine ⟨?_, JobReport.Job.at?_configType job⟩
    rw [← (job_names (jobWithAttempts_ok h).1).1]
    rfl
  status := by
    refine ⟨?_, rfl⟩
    rw [← (job_names (jobWithAttempts_ok h).1).2]
    rfl
  attemptStatus i := by
    apply attempts_agree h attempt_at?_status
    rw [JobReport.Job.at?_attempts, Option.map_eq_bind]
    rfl
  failureOrigin := reasons_agree h memberOf_origin
  failureType := reasons_agree h memberOf_type

end

section

variable {c : Converter Id} {job : JobReport.SynchronousJob} {view : SynchronousJob}

theorem synchronousView_ok (h : c.synchronousView job = .ok view) :
    cross job.configType = .ok view.configType ∧
      job.failureReason.mapM (FailureReason.ofRecord job.endedAt) = .ok view.failureReason := by
  simp only [Converter.synchronousView, Converter.synchronousJob, run_bind_ok_iff,
    Converter.run_pureView] at h
  obtain ⟨configType, htype, reason, hreason, logs, _, h⟩ := h
  cases h
  exact ⟨htype, hreason⟩

theorem synchronousReason_agrees (h : c.synchronousView job = .ok view) {member : String}
    {value : JobReport.FailureReason → Json} (hm : MemberOf member value) :
    Agree (SynchronousJob.codec.encode view) ["failure_reason", member]
      (JobReport.SynchronousJob.codec.encode job) ["failure_reason", member]
      (job.failureReason.map value) := by
  rw [← hm.recorded_bind]
  refine ⟨?_, JobReport.SynchronousJob.at?_reason job member⟩
  rw [SynchronousJob.at?_reason]
  exact option_mapM_bind (hm.same _) (synchronousView_ok h).2

theorem synchronousJob_spells (h : c.synchronousView job = .ok view) : view.Spells job where
  configType := by
    refine ⟨?_, rfl⟩
    rw [← name_of_cross (synchronousView_ok h).1]
    rfl
  failureOrigin := synchronousReason_agrees h memberOf_origin
  failureType := synchronousReason_agrees h memberOf_type

end

end View

/-- Wherever the view of a job shows a value by name, the record has the same name, each attempt by
its number. So it is with the view of a job that ran while its caller waited. -/
theorem names_cross_unchanged :
    (∀ (job : Job) (view : View.JobWithAttempts),
      View.JobWithAttempts.ofRecord job = .ok view → view.Spells job) ∧
    ∀ (c : Converter Id) (job : SynchronousJob) (view : View.SynchronousJob),
      c.synchronousView job = .ok view → view.Spells job :=
  ⟨fun _ _ h => View.jobWithAttempts_spells h, fun _ _ _ h => View.synchronousJob_spells h⟩

/-- A job whose second attempt is stored first. The first one failed for two reasons, each told in
part. -/
def retriedJob : Job where
  id := 1
  scope := "connection"
  config := .clear ⟨none, none⟩
  status := .incomplete
  createdAt := 1
  updatedAt := 2
  startedAt := none
  attempts := [
    ⟨2, 1, .running, none, none, none, 1, 2, none⟩,
    ⟨1, 1, .failed, none, some ⟨[
      ⟨some .platform, none, none, none, none, none, none⟩,
      ⟨none, some .heartbeatTimeout, none, none, none, none, none⟩], none⟩, none, 1, 2, none⟩]

def failedCheck : SynchronousJob where
  id := ⟨List.replicate 32 0, rfl⟩
  configType := .checkConnectionSource
  configId := ⟨List.replicate 32 0, rfl⟩
  createdAt := 1
  endedAt := 2
  succeeded := false
  connectorConfigurationUpdated := false
  logPath := none
  failureReason := some ⟨some .source, some .configError, none, none, none, none, none⟩

theorem names_cross_unchanged_retriedJob :
    (∃ view, View.JobWithAttempts.ofRecord retriedJob = .ok view ∧ view.Spells retriedJob) ∧
    ∃ view, Converter.withoutLogs.synchronousView failedCheck = .ok view ∧
      view.Spells failedCheck := by
  have hsorted : retriedJob.sortedAttempts = retriedJob.attempts.reverse := by
    simp [Job.sortedAttempts, retriedJob, List.mergeSort]
  have hjob : View.JobWithAttempts.ofRecord retriedJob = .ok {
      job := ⟨1, .clear, "connection", [], none, none, 1, 2, none, .incomplete⟩
      attempts := [
        ⟨1, .failed, none, none, none, none, 1, 2, none, some ⟨[
          ⟨some .platform, none, none, none, none, 2000, none⟩,
          ⟨none, some .heartbeatTimeout, none, none, none, 2000, none⟩], none⟩⟩,
        ⟨2, .running, none, none, none, none, 1, 2, none, none⟩] } := by
    rw [View.JobWithAttempts.ofRecord, hsorted]
    rfl
  have hcheck : Converter.withoutLogs.synchronousView failedCheck = .ok {
      id := failedCheck.id
      configType := .checkConnectionSource
      configId := failedCheck.configId.text
      createdAt := 1
      endedAt := 2
      succeeded := false
      connectorConfigurationUpdated := false
      logs := ⟨[]⟩
      failureReason := some ⟨some .source, some .configError, none, none, none, 2000, none⟩ } := rfl
  exact ⟨⟨_, hjob, names_cross_unchanged.1 _ _ hjob⟩,
    ⟨_, hcheck, names_cross_unchanged.2 _ _ _ hcheck⟩⟩

end JobReport
