import JobReport.Proofs.Unstarted

/-!
# Shorter tails of the same logs

With logs in files, all that counts of what a store is told is the root of the logs and how many
lines are shown. A lower limit takes lines off the front of each log; whether a view can be built,
why not, and all else in it stay the same.
-/

set_option autoImplicit false

namespace JobReport

namespace Text

theorem lastOf_lastOf {α : Type} {n m : Nat} (h : n ≤ m) (xs : List α) :
    lastOf n (lastOf m xs) = lastOf n xs := by
  rw [lastOf, lastOf, lastOf, List.length_drop, List.drop_drop]
  congr 1
  omega

theorem lastOf_suffix {α : Type} (n : Nat) (xs : List α) : lastOf n xs <:+ xs :=
  List.drop_suffix ..

theorem length_lastOf {α : Type} (n : Nat) (xs : List α) :
    (lastOf n xs).length = min n xs.length := by
  rw [lastOf, List.length_drop]
  omega

end Text

namespace View

/-- A log with its last lines alone, at most `limit` of them. -/
def Log.lastLines (limit : UInt64) (log : Log) : Log := ⟨Text.lastOf limit.toNat log.lines⟩

/-- The same attempt with the last lines of its log alone. -/
def AttemptInfo.lastLines (limit : UInt64) (info : AttemptInfo) : AttemptInfo :=
  { info with logs := info.logs.map (·.lastLines limit) }

/-- The same job with the last lines of all logs alone. -/
def JobInfo.lastLines (limit : UInt64) (info : JobInfo) : JobInfo :=
  { info with attempts := info.attempts.map (·.lastLines limit) }

/-- The same job with the last lines of its log alone. -/
def SynchronousJob.lastLines (limit : UInt64) (view : SynchronousJob) : SynchronousJob :=
  { view with logs := view.logs.lastLines limit }

end View

namespace Converter

/-- Whether one converter has the logs of another, but only their last lines. -/
def Shortens (short long : Converter Id) (limit : UInt64) : Prop :=
  ∀ path, short.answer path = (long.answer path).map (Text.lastOf limit.toNat)

/-- With logs in files, of what the store is told only the root and the limit count. -/
theorem shortens_files (read : FileReader Id) {root : Path} {n m : UInt64} (h : n ≤ m)
    (environment environment' : WorkerEnvironment) (flags flags' : FeatureFlags) :
    Shortens ⟨.files read, environment, ⟨root, n⟩, flags⟩
      ⟨.files read, environment', ⟨root, m⟩, flags'⟩ n := by
  intro path
  simp only [answer, LogStore.files, Id.run_bind]
  cases (read (root.join path)).run with
  | error cause => rfl
  | ok bytes =>
    have htail : LogStore.tail n.toNat bytes =
        Text.lastOf n.toNat (LogStore.tail m.toNat bytes) :=
      (Text.lastOf_lastOf (UInt64.le_iff_toNat_le.1 h) _).symm
    exact congrArg Except.ok htail

variable {short long : Converter Id} {limit : UInt64}

theorem log_shortened (h : Shortens short long limit) (path : Option Path) :
    (short.log path).run.run = (long.log path).run.run.map (·.lastLines limit) := by
  cases path with
  | none =>
    change Except.ok _ = Except.ok (View.Log.mk (Text.lastOf limit.toNat []))
    rw [Text.lastOf, List.drop_nil]
  | some path =>
    rw [log_some, log_some, h path]
    cases long.answer path with
    | error cause => rfl
    | ok lines => rfl

theorem infoOf_shortened (h : Shortens short long limit) (a : Attempt) :
    short.infoOf a = (long.infoOf a).map (·.lastLines limit) := by
  cases hview : View.Attempt.ofRecord a with
  | error e => simp [infoOf, attemptInfo, hview, Except.map]
  | ok view =>
    rw [infoOf_started short hview, infoOf_started long hview, log_shortened h]
    cases (long.log a.logPath).run.run with
    | error e => rfl
    | ok logs => rfl

theorem fullInfo_shortened (h : Shortens short long limit) (job : Job) :
    short.fullInfo job = (long.fullInfo job).map (·.lastLines limit) := by
  obtain ⟨view, hview⟩ := View.job_ok job
  rw [fullInfo_eq short job hview, fullInfo_eq long job hview,
    funext (infoOf_shortened h), list_mapM_map]
  cases job.sortedAttempts.mapM long.infoOf with
  | error e => rfl
  | ok infos => rfl

theorem synchronousView_shortened (h : Shortens short long limit) (job : SynchronousJob) :
    short.synchronousView job = (long.synchronousView job).map (·.lastLines limit) := by
  obtain ⟨view, hview⟩ := synchronousView_eq job
  rw [hview, hview, log_shortened h]
  cases (long.log job.logPath).run.run with
  | error e => rfl
  | ok logs => rfl

/-- Two tail limits, two worker environments and two sets of flags, but the same files and the same
root: each view can be built with both or with neither, and then for the same reason. With the lower
limit it has the last lines of the same logs, and is the same in all else. -/
theorem tail_only_truncates (read : FileReader Id) (root : Path) {n m : UInt64} (h : n ≤ m)
    (environment environment' : WorkerEnvironment) (flags flags' : FeatureFlags) :
    let short : Converter Id := ⟨.files read, environment, ⟨root, n⟩, flags⟩
    let long : Converter Id := ⟨.files read, environment', ⟨root, m⟩, flags'⟩
    (∀ job, short.fullInfo job = (long.fullInfo job).map (·.lastLines n)) ∧
    (∀ job, short.synchronousView job = (long.synchronousView job).map (·.lastLines n)) ∧
    (∀ path, (short.log path).run.run = (long.log path).run.run.map (·.lastLines n)) ∧
    ∀ log : View.Log, (log.lastLines n).lines <:+ log.lines ∧
      (log.lastLines n).lines.length = min n.toNat log.lines.length := by
  intro short long
  have hshort : Shortens short long n :=
    shortens_files read h environment environment' flags flags'
  exact ⟨fullInfo_shortened hshort, synchronousView_shortened hshort, log_shortened hshort,
    fun log => ⟨Text.lastOf_suffix _ _, Text.length_lastOf _ _⟩⟩

/-- A log of three lines, seen from the root of the logs. -/
def threeLines : FileReader Id := fun path =>
  match path.text with
  | "/logs/a.log" => .ok "one\ntwo\r\nthree".toUTF8.data.toList
  | _ => .error .notFound

def loggedJob : Job where
  id := 1
  scope := "connection"
  config := .sync ⟨none⟩
  status := .succeeded
  createdAt := 1
  updatedAt := 2
  startedAt := none
  attempts := [⟨1, 1, .succeeded, none, none, some ⟨"a.log"⟩, 1, 2, none⟩]

/-- The converter that shows at most as many lines of each log. -/
def showing (limit : UInt64) (environment : WorkerEnvironment) (flags : List String) :
    Converter Id :=
  ⟨.files threeLines, environment, ⟨⟨"/logs"⟩, limit⟩, .ofList flags⟩

theorem tail_only_truncates_threeLines : (1 : UInt64) ≤ 2 ∧
    ((showing 2 .kubernetes ["structured"]).fullInfo loggedJob).map
      (fun info => info.attempts.map (·.logs)) = .ok [some ⟨["two", "three"]⟩] ∧
    (showing 1 .docker []).fullInfo loggedJob =
      ((showing 2 .kubernetes ["structured"]).fullInfo loggedJob).map (·.lastLines 1) := by
  have h : (1 : UInt64) ≤ 2 := by decide
  obtain ⟨hinfo, _⟩ := tail_only_truncates threeLines ⟨"/logs"⟩ h .docker .kubernetes (.ofList [])
    (.ofList ["structured"])
  exact ⟨h, by decide +kernel, hinfo loggedJob⟩

end Converter

end JobReport
