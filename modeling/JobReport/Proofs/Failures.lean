import JobReport.Proofs.Spelling
import Mathlib.Algebra.Group.Int.Defs

/-!
# Failures are shown one for one

Each reason of a failure has its view in the same place, which says what the reason says. A reason
that has no time of its own is given that of its record, in milliseconds; where 64 bits do not hold
them it is the nearest time that they hold, so later records never have earlier times.
-/

set_option autoImplicit false

namespace JobReport.View

/-! ## Seconds in milliseconds -/

theorem toInt_clamp64 (n : Int) : (clamp64 n).toInt = max (-2 ^ 63) (min n (2 ^ 63 - 1)) :=
  Int64.toInt_ofInt_of_le (by omega) (by omega)

theorem toInt_milliseconds (seconds : Int64) :
    (milliseconds seconds).toInt = max (-2 ^ 63) (min (1000 * seconds.toInt) (2 ^ 63 - 1)) :=
  toInt_clamp64 _

/-! ## Reasons and their views -/

/-- Whether a view says what a reason says, with the seconds to go by if that has no time. -/
structure FailureReason.Tells (v : FailureReason) (seconds : Int64)
    (r : JobReport.FailureReason) : Prop where
  origin : v.origin.map Named.name = r.origin.map Named.name
  type : v.type.map Named.name = r.type.map Named.name
  externalMessage : v.externalMessage = r.externalMessage
  internalMessage : v.internalMessage = r.internalMessage
  stacktrace : v.stacktrace = r.stacktrace
  retryable : v.retryable = r.retryable
  ownTime : ∀ time, r.timestamp = some time → v.timestamp = time
  recordTime : r.timestamp = none →
    v.timestamp.toInt = max (-2 ^ 63) (min (1000 * seconds.toInt) (2 ^ 63 - 1))

/-- A view that is there, or why it cannot be built; a view of nothing is left out. -/
def present? {α : Type} : Except ViewError (Option α) → Option (Except ViewError α)
  | .ok none => none
  | .ok (some v) => some (.ok v)
  | .error e => some (.error e)

section

variable {seconds later : Int64} {r : JobReport.FailureReason} {v w : FailureReason}

theorem failureReason_tells (h : FailureReason.ofRecord seconds r = .ok v) :
    v.Tells seconds r := by
  simp only [FailureReason.ofRecord, except_bind_ok_iff] at h
  obtain ⟨origin, horigin, type, htype, h⟩ := h
  cases h
  refine ⟨Named.map_name_of_cross horigin, Named.map_name_of_cross htype, rfl, rfl, rfl, rfl,
    ?_, ?_⟩
  · intro time htime
    rw [htime]
    rfl
  · intro hnone
    rw [hnone]
    exact toInt_milliseconds seconds

theorem FailureReason.Tells.monotone (h : seconds ≤ later) (hv : v.Tells seconds r)
    (hw : w.Tells later r) : v.timestamp ≤ w.timestamp := by
  cases htime : r.timestamp with
  | some time =>
    rw [hv.ownTime time htime, hw.ownTime time htime]
    exact Int64.le_refl time
  | none =>
    rw [Int64.le_iff_toInt_le] at h ⊢
    rw [hv.recordTime htime, hw.recordTime htime]
    omega

theorem FailureReason.Tells.exact (hlower : -9223372036854775 ≤ seconds.toInt)
    (hupper : seconds.toInt ≤ 9223372036854775) (hv : v.Tells seconds r)
    (htime : r.timestamp = none) : v.timestamp.toInt = 1000 * seconds.toInt := by
  rw [hv.recordTime htime]
  omega

theorem failureSummary_parts {summary : JobReport.FailureSummary} {view : FailureSummary}
    (h : FailureSummary.ofRecord seconds summary = .ok view) :
    summary.failures.mapM (FailureReason.ofRecord seconds) = .ok view.failures ∧
      view.partialSuccess = summary.partialSuccess := by
  obtain ⟨failures, hfailures, h⟩ := except_bind_ok_iff.1 h
  cases h
  exact ⟨hfailures, rfl⟩

end

/-- No reason that is there is left out for want of a view. -/
theorem mapM_present? {α β : Type} (f : α → Except ViewError β) (as : List α) :
    (as.filterMap fun a => present? ((some a).mapM f)).mapM id = as.mapM f := by
  have hpresent : ∀ a, present? ((some a).mapM f) = some (f a) := by
    intro a
    rw [Option.mapM_some]
    cases f a <;> rfl
  simp only [hpresent, List.filterMap_eq_map', List.mapM_map]
  rfl

/-- The view of a failure can be built, and has one view for each reason, in order, none of which is
left out. Each tells what its reason does. The seconds of the record are told without loss where
64 bits hold them in milliseconds, and from a later record no reason has an earlier time. -/
theorem failures_one_for_one (seconds : Int64) (summary : JobReport.FailureSummary) :
    ∃ view, FailureSummary.ofRecord seconds summary = .ok view ∧
      view.partialSuccess = summary.partialSuccess ∧
      List.Forall₂ (fun r v => v.Tells seconds r) summary.failures view.failures ∧
      (summary.failures.filterMap fun r =>
        present? ((some r).mapM (FailureReason.ofRecord seconds))).mapM id = .ok view.failures ∧
      (-9223372036854775 ≤ seconds.toInt → seconds.toInt ≤ 9223372036854775 →
        List.Forall₂ (fun r v => r.timestamp = none → v.timestamp.toInt = 1000 * seconds.toInt)
          summary.failures view.failures) ∧
      ∀ later laterView, seconds ≤ later → FailureSummary.ofRecord later summary = .ok laterView →
        List.Forall₂ (fun v w => v.timestamp ≤ w.timestamp) view.failures laterView.failures := by
  obtain ⟨view, hview⟩ := failureSummary_ok seconds summary
  obtain ⟨hfailures, hpartial⟩ := failureSummary_parts hview
  have htells : List.Forall₂ (fun r v => v.Tells seconds r) summary.failures view.failures :=
    (list_mapM_ok_iff.1 hfailures).imp fun _ _ => failureReason_tells
  refine ⟨view, hview, hpartial, htells, ?_, ?_, ?_⟩
  · rw [mapM_present?]
    exact hfailures
  · intro hlower hupper
    exact htells.imp fun _ _ hv => hv.exact hlower hupper
  · intro later laterView hlater h
    apply list_mapM_forall₂ _ hfailures (failureSummary_parts h).1
    intro r v w hv hw
    exact (failureReason_tells hv).monotone hlater (failureReason_tells hw)

example : milliseconds 9223372036854776 = Int64.maxValue := by decide

example : milliseconds (-9223372036854775) = -9223372036854775000 := by decide

end JobReport.View
