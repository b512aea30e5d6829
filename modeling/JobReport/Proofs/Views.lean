import JobReport.Proofs.Record.Sorted
import JobReport.View.Debug
import JobReport.View.Synchronous

/-!
# The views come back

Field by field, each view is found again in its sorted tree, which is nested no deeper than the
view is by itself. Nothing is asked of a view: none holds a document.
-/

set_option autoImplicit false

namespace JobReport.View

open Codec

theorem Stats.sortable : Stats.codec.Sortable 1 :=
  .record (by decide) fun _ => ⟨Sortable.uint64.option _, Sortable.uint64.option _,
    Sortable.uint64.option _, Sortable.uint64.option _, trivial⟩

theorem StreamStats.sortable : StreamStats.codec.Sortable 2 :=
  .record (by decide) fun _ => ⟨Sortable.string.sorts _, Sortable.string.option _,
    Stats.sortable.sorts _, trivial⟩

theorem FailureReason.sortable : FailureReason.codec.Sortable 1 :=
  .record (by decide) fun _ => ⟨Sortable.named.option _, Sortable.named.option _,
    Sortable.string.option _, Sortable.string.option _, Sortable.string.option _,
    Sortable.int64.sorts _, Sortable.bool.option _, trivial⟩

theorem FailureSummary.sortable : FailureSummary.codec.Sortable 3 :=
  .record (by decide) fun _ => ⟨FailureReason.sortable.list.sorts _, Sortable.bool.option _,
    trivial⟩

theorem Attempt.sortable : Attempt.codec.Sortable 4 :=
  .record (by decide) fun _ => ⟨Sortable.int64.sorts _, Sortable.named.sorts _,
    Sortable.uint64.option _, Sortable.uint64.option _,
    (Stats.sortable.mono (by decide)).option _, StreamStats.sortable.list.option _,
    Sortable.int64.sorts _, Sortable.int64.sorts _, Sortable.int64.option _,
    FailureSummary.sortable.option _, trivial⟩

theorem Log.sortable : Log.codec.Sortable 2 :=
  .record (by decide) fun _ => ⟨Sortable.string.list.sorts _, trivial⟩

theorem AttemptInfo.sortable : AttemptInfo.codec.Sortable 5 :=
  .record (by decide) fun _ => ⟨Attempt.sortable.sorts _,
    (Log.sortable.mono (by decide)).option _, trivial⟩

theorem StreamDescriptor.sortable : StreamDescriptor.codec.Sortable 1 :=
  .record (by decide) fun _ => ⟨Sortable.string.sorts _, Sortable.string.option _, trivial⟩

theorem ResetConfig.sortable : ResetConfig.codec.Sortable 3 :=
  .record (by decide) fun _ => ⟨StreamDescriptor.sortable.list.sorts _, trivial⟩

theorem RefreshConfig.sortable : RefreshConfig.codec.Sortable 3 :=
  .record (by decide) fun _ => ⟨StreamDescriptor.sortable.list.sorts _, trivial⟩

theorem Job.sortable : Job.codec.Sortable 4 :=
  .record (by decide) fun _ => ⟨Sortable.int64.sorts _, Sortable.named.sorts _,
    Sortable.string.sorts _, (StreamDescriptor.sortable.list.mono (by decide)).sorts _,
    ResetConfig.sortable.option _, RefreshConfig.sortable.option _, Sortable.int64.sorts _,
    Sortable.int64.sorts _, Sortable.int64.option _, Sortable.named.sorts _, trivial⟩

theorem JobWithAttempts.sortable : JobWithAttempts.codec.Sortable 6 :=
  .record (by decide) fun _ => ⟨(Job.sortable.mono (by decide)).sorts _,
    Attempt.sortable.list.sorts _, trivial⟩

theorem JobInfo.sortable : JobInfo.codec.Sortable 7 :=
  .record (by decide) fun _ => ⟨(Job.sortable.mono (by decide)).sorts _,
    AttemptInfo.sortable.list.sorts _, trivial⟩

theorem JobInfoLight.sortable : JobInfoLight.codec.Sortable 5 :=
  .record (by decide) fun _ => ⟨Job.sortable.sorts _, trivial⟩

theorem SynchronousJob.sortable : SynchronousJob.codec.Sortable 3 :=
  .record (by decide) fun _ => ⟨Sortable.uuid.sorts _, Sortable.named.sorts _,
    Sortable.string.sorts _, Sortable.int64.sorts _, Sortable.int64.sorts _, Sortable.bool.sorts _,
    Sortable.bool.sorts _, Log.sortable.sorts _,
    (FailureReason.sortable.mono (by decide)).option _, trivial⟩

theorem SourceDefinition.sortable : SourceDefinition.codec.Sortable 1 :=
  .record (by decide) fun _ => ⟨Sortable.uuid.sorts _, Sortable.string.sorts _,
    Sortable.string.sorts _, Sortable.string.sorts _, Sortable.string.option _, trivial⟩

theorem DestinationDefinition.sortable : DestinationDefinition.codec.Sortable 1 :=
  .record (by decide) fun _ => ⟨Sortable.uuid.sorts _, Sortable.string.sorts _,
    Sortable.string.sorts _, Sortable.string.sorts _, Sortable.string.option _, trivial⟩

theorem JobDebug.sortable : JobDebug.codec.Sortable 2 :=
  .record (by decide) fun _ => ⟨Sortable.int64.sorts _, Sortable.named.sorts _,
    Sortable.string.sorts _, Sortable.named.sorts _, Sortable.string.sorts _,
    SourceDefinition.sortable.sorts _, DestinationDefinition.sortable.sorts _, trivial⟩

end JobReport.View
