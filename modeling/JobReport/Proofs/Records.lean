import JobReport.Job.Basic
import JobReport.Job.Synchronous
import JobReport.Proofs.Record.Depths
import JobReport.Proofs.Record.Shapes

/-!
# The records of jobs come back

Field by field, the values of each record come back, and are nested no deeper than they were read
or than the record is by itself. Schemas and outputs, which can be any documents, are the only
values of which something is asked.
-/

set_option autoImplicit false

namespace JobReport

open Codec

theorem FailureReason.faithful : FailureReason.codec.Faithful :=
  .record (by decide) fun _ => ⟨Faithful.option (.named _) _, Faithful.option (.named _) _,
    Faithful.option .string _, Faithful.option .string _, Faithful.option .string _,
    Faithful.option .int64 _, Faithful.option .bool _, trivial⟩

theorem FailureReason.bounded : FailureReason.codec.Bounded 1 :=
  .record (fun _ => rfl) ⟨.optional .named, .optional .named, .optional .string,
    .optional .string, .optional .string, .optional .integer, .optional .bool, trivial⟩

theorem FailureSummary.faithful : FailureSummary.codec.Faithful :=
  .record (by decide) fun _ => ⟨FailureReason.faithful.list.returns _, Faithful.option .bool _,
    trivial⟩

theorem FailureSummary.bounded : FailureSummary.codec.Bounded 3 :=
  .record (fun _ => rfl) ⟨.withDefault FailureReason.bounded.list (by decide), .optional .bool,
    trivial⟩

theorem SyncStats.faithful : SyncStats.codec.Faithful :=
  .record (by decide) fun _ => ⟨Faithful.option .uint64 _, Faithful.option .uint64 _,
    Faithful.option .uint64 _, Faithful.option .uint64 _, trivial⟩

theorem SyncStats.bounded : SyncStats.codec.Bounded 1 :=
  .record (fun _ => rfl) ⟨.optional .integer, .optional .integer, .optional .integer,
    .optional .integer, trivial⟩

theorem StreamSyncStats.faithful : StreamSyncStats.codec.Faithful :=
  .record (by decide) fun _ => ⟨Faithful.string.returns _, Faithful.option .string _,
    SyncStats.faithful.returns _, trivial⟩

theorem StreamSyncStats.bounded : StreamSyncStats.codec.Bounded 2 :=
  .record (fun _ => rfl) ⟨.required .string, .sparse .string, .required SyncStats.bounded, trivial⟩

theorem SyncSummary.faithful : SyncSummary.codec.Faithful :=
  .record (by decide) fun _ => ⟨Faithful.option .uint64 _, Faithful.option .uint64 _,
    SyncStats.faithful.option _, StreamSyncStats.faithful.list.option _, trivial⟩

theorem SyncSummary.bounded : SyncSummary.codec.Bounded 4 :=
  .record (fun _ => rfl) ⟨.optional .integer, .optional .integer,
    .optional (SyncStats.bounded.mono (by decide)), .optional StreamSyncStats.bounded.list, trivial⟩

theorem SyncOutput.faithful : SyncOutput.codec.Faithful :=
  .record (by decide) fun _ => ⟨SyncSummary.faithful.option _, trivial⟩

theorem SyncOutput.bounded : SyncOutput.codec.Bounded 5 :=
  .record (fun _ => rfl) ⟨.optional SyncSummary.bounded, trivial⟩

theorem AttemptOutput.faithful : AttemptOutput.codec.Faithful :=
  .record (by decide) fun _ => ⟨SyncOutput.faithful.option _, trivial⟩

theorem AttemptOutput.bounded : AttemptOutput.codec.Bounded 6 :=
  .record (fun _ => rfl) ⟨.optional SyncOutput.bounded, trivial⟩

theorem Attempt.faithful : Attempt.codec.Faithful :=
  .record (by decide) fun _ => ⟨Faithful.int32.returns _, Faithful.int64.returns _,
    (Faithful.named _).returns _, AttemptOutput.faithful.option _, FailureSummary.faithful.option _,
    Faithful.option .path _, Faithful.int64.returns _, Faithful.int64.returns _,
    Faithful.option .int64 _, trivial⟩

theorem Attempt.bounded : Attempt.codec.Bounded 7 :=
  .record (fun _ => rfl) ⟨.required .integer, .required .integer, .required .named,
    .optional AttemptOutput.bounded, .optional (FailureSummary.bounded.mono (by decide)),
    .optional .path, .required .integer, .required .integer, .optional .integer, trivial⟩

theorem StreamDescriptor.faithful : StreamDescriptor.codec.Faithful :=
  .record (by decide) fun _ => ⟨Faithful.string.returns _, Faithful.option .string _, trivial⟩

theorem StreamDescriptor.bounded : StreamDescriptor.codec.Bounded 1 :=
  .record (fun _ => rfl) ⟨.required .string, .sparse .string, trivial⟩

theorem SourceStream.returns {s : SourceStream} (h : s.jsonSchema.json.FloatFree) :
    SourceStream.codec.Returns s :=
  .record (by decide) ⟨Faithful.string.returns _, Faithful.option .string _, .document h, trivial⟩

theorem SourceStream.bounded : SourceStream.codec.Bounded 1 :=
  .record (fun _ => rfl) ⟨.required .string, .sparse .string,
    .withDefault .document (Nat.le_refl _), trivial⟩

theorem ConfiguredStream.returns {s : ConfiguredStream} (h : s.stream.jsonSchema.json.FloatFree) :
    ConfiguredStream.codec.Returns s :=
  .record (by decide) ⟨SourceStream.returns h, Faithful.option .string _, Faithful.option .string _,
    trivial⟩

theorem ConfiguredStream.bounded : ConfiguredStream.codec.Bounded 2 :=
  .record (fun _ => rfl) ⟨.required SourceStream.bounded, .sparse .string, .sparse .string, trivial⟩

/-- Whether no schema of a catalog has a floating-point number. -/
def Catalog.FloatFree (c : Catalog) : Prop := ∀ s ∈ c.streams, s.stream.jsonSchema.json.FloatFree

theorem Catalog.returns {c : Catalog} (h : c.FloatFree) : Catalog.codec.Returns c :=
  .record (by decide) ⟨.list fun s hs => ConfiguredStream.returns (h s hs), trivial⟩

theorem Catalog.bounded : Catalog.codec.Bounded 4 :=
  .record (fun _ => rfl) ⟨.withDefault ConfiguredStream.bounded.list (by decide), trivial⟩

theorem ResetSelection.faithful : ResetSelection.codec.Faithful :=
  .record (by decide) fun _ => ⟨StreamDescriptor.faithful.list.returns _, trivial⟩

theorem ResetSelection.bounded : ResetSelection.codec.Bounded 3 :=
  .record (fun _ => rfl) ⟨.withDefault StreamDescriptor.bounded.list (by decide), trivial⟩

theorem RefreshEntry.faithful : RefreshEntry.codec.Faithful :=
  .record (by decide) fun _ => ⟨StreamDescriptor.faithful.option _, Faithful.option (.named _) _,
    trivial⟩

theorem RefreshEntry.bounded : RefreshEntry.codec.Bounded 2 :=
  .record (fun _ => rfl) ⟨.optional (StreamDescriptor.bounded.mono (by decide)), .sparse .named,
    trivial⟩

namespace JobConfig

/-- Whether no schema of the catalog, if there is one, has a floating-point number. -/
def FloatFree (c : JobConfig) : Prop := ∀ catalog ∈ c.catalog, catalog.FloatFree

theorem returns_catalog {catalog : Option Catalog} (h : ∀ c ∈ catalog, c.FloatFree) :
    catalogField.codec.Returns catalog :=
  .option fun c hc => ⟨Catalog.returns (h c hc), nofun⟩

theorem names_nodup (t : ConfigType) :
    (family.tag :: (family.shape t).fields.names).Nodup := by
  cases t <;> decide

theorem returns {c : JobConfig} (h : c.FloatFree) : codec.Returns c := by
  apply Returns.convert _ (ofMember_toMember c)
  apply Returns.tagged (names_nodup _)
  cases c with
  | checkConnectionSource config => exact ⟨Faithful.string.returns _, trivial⟩
  | checkConnectionDestination config => exact ⟨Faithful.string.returns _, trivial⟩
  | discoverSchema config => exact ⟨Faithful.string.returns _, trivial⟩
  | getSpec config => exact ⟨Faithful.string.returns _, trivial⟩
  | sync config => exact ⟨returns_catalog h, trivial⟩
  | resetConnection config =>
    exact ⟨returns_catalog h, ResetSelection.faithful.option _, trivial⟩
  | refresh config => exact ⟨returns_catalog h, RefreshEntry.faithful.list.returns _, trivial⟩
  | clear config => exact ⟨returns_catalog h, ResetSelection.faithful.option _, trivial⟩

theorem bounded_catalog : catalogField.Bounded 4 := .optional Catalog.bounded

theorem connector_bounded : (Codec.record ConnectorConfig.shape).Bounded 5 :=
  .record (fun _ => rfl) ⟨.required .string, trivial⟩

theorem reset_bounded : (Codec.record ResetConfig.shape).Bounded 5 :=
  .record (fun _ => rfl) ⟨bounded_catalog, .optional (ResetSelection.bounded.mono (by decide)),
    trivial⟩

theorem family_bounded : family.Bounded 5 := by
  intro t
  cases t with
  | checkConnectionSource | checkConnectionDestination | discoverSchema | getSpec =>
    exact connector_bounded
  | sync => exact .record (fun _ => rfl) ⟨bounded_catalog, trivial⟩
  | resetConnection | clear => exact reset_bounded
  | refresh =>
    exact .record (fun _ => rfl) ⟨bounded_catalog,
      .withDefault (RefreshEntry.bounded.list.mono (by decide)) (by decide), trivial⟩

theorem toMember_ofMember (m : family.Member) : toMember (ofMember m) = m := by
  obtain ⟨t, config⟩ := m
  cases t <;> rfl

theorem bounded : codec.Bounded 5 :=
  .convert (Family.bounded_tagged family_bounded) toMember_ofMember

end JobConfig

def Job.FloatFree (job : Job) : Prop := job.config.FloatFree

theorem Job.returns {job : Job} (h : job.FloatFree) : Job.codec.Returns job :=
  .record (by decide) ⟨Faithful.int64.returns _, Faithful.string.returns _, JobConfig.returns h,
    (Faithful.named _).returns _, Faithful.int64.returns _, Faithful.int64.returns _,
    Faithful.option .int64 _, Attempt.faithful.list.returns _, trivial⟩

theorem Job.bounded : Job.codec.Bounded 9 :=
  .record (fun _ => rfl) ⟨.required .integer, .required .string,
    .required (JobConfig.bounded.mono (by decide)), .required .named, .required .integer,
    .required .integer, .optional .integer, .withDefault Attempt.bounded.list (by decide), trivial⟩

theorem SynchronousJob.faithful : SynchronousJob.codec.Faithful :=
  .record (by decide) fun _ => ⟨Faithful.uuid.returns _, (Faithful.named _).returns _,
    Faithful.uuid.returns _, Faithful.int64.returns _, Faithful.int64.returns _,
    Faithful.bool.returns _, Faithful.bool.returns _, Faithful.option .path _,
    FailureReason.faithful.option _, trivial⟩

theorem SynchronousJob.bounded : SynchronousJob.codec.Bounded 2 :=
  .record (fun _ => rfl) ⟨.required .uuid, .required .named, .required .uuid, .required .integer,
    .required .integer, .required .bool, .withDefault .bool (Nat.zero_le _), .optional .path,
    .optional FailureReason.bounded, trivial⟩

namespace SynchronousResponse

/-- Whether the output, if there is one, has no floating-point number and is not null. -/
def FloatFree (r : SynchronousResponse Document) : Prop :=
  ∀ output ∈ r.output, output.json.FloatFree ∧ output.json ≠ .null

theorem returns {r : SynchronousResponse Document} (h : r.FloatFree) :
    (codec .document).Returns r :=
  .record (by decide) ⟨.option fun output houtput =>
    ⟨.document (h output houtput).1, (h output houtput).2⟩, SynchronousJob.faithful.returns _,
    trivial⟩

theorem bounded : (codec .document).Bounded 3 :=
  .record (fun _ => rfl) ⟨.optional .document, .required SynchronousJob.bounded, trivial⟩

end SynchronousResponse

end JobReport
