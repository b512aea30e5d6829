import JobReport.Proofs.Builders
import Mathlib.Data.List.Basic

/-!
# Attempts by number

The attempts of a job are put in order of their numbers, those of equal number staying as they are
stored. Nothing more is left of the stored order in any view, in any error or in what a store is
asked for.
-/

set_option autoImplicit false

namespace JobReport

namespace Attempt

/-- The attempts of a number, as they stand in a list. -/
def numbered (n : Int32) (as : List Attempt) : List Attempt := as.filter (·.number = n)

/-- Whether a list holds the attempts of another by number, and those of equal number in the same
order as there. -/
structure StablySorts (sorted as : List Attempt) : Prop where
  perm : sorted.Perm as
  increasing : sorted.Pairwise (·.number ≤ ·.number)
  stable : ∀ n, numbered n sorted = numbered n as

variable {a : Attempt} {as bs : List Attempt} {n : Int32}

theorem mem_numbered : a ∈ numbered n as ↔ a ∈ as ∧ a.number = n := by
  simp [numbered]

theorem numbered_cons_self (a : Attempt) (as : List Attempt) :
    numbered a.number (a :: as) = a :: numbered a.number as := by
  simp [numbered]

theorem pairwise_numbered (n : Int32) (as : List Attempt) :
    (numbered n as).Pairwise (·.number ≤ ·.number) := by
  apply List.pairwise_of_forall_mem_list
  intro a ha b hb
  rw [(mem_numbered.1 ha).2, (mem_numbered.1 hb).2]
  exact Int32.le_refl n

theorem mem_iff_of_numbered_eq (h : ∀ n, numbered n as = numbered n bs) : a ∈ as ↔ a ∈ bs := by
  have ha : a ∈ numbered a.number as ↔ a ∈ numbered a.number bs := by rw [h]
  simpa [mem_numbered] using ha

theorem head_le_of_mem {b : Attempt} (h : (a :: as).Pairwise (·.number ≤ ·.number))
    (hb : b ∈ a :: as) : a.number ≤ b.number := by
  rcases List.mem_cons.1 hb with rfl | hb
  · exact Int32.le_refl _
  · exact (List.pairwise_cons.1 h).1 b hb

/-- By number, attempts can only be in one order that keeps those of equal number as they are. -/
theorem eq_of_numbered_eq (has : as.Pairwise (·.number ≤ ·.number))
    (hbs : bs.Pairwise (·.number ≤ ·.number)) (h : ∀ n, numbered n as = numbered n bs) :
    as = bs := by
  induction as generalizing bs with
  | nil =>
    cases bs with
    | nil => rfl
    | cons b bs => exact absurd ((mem_iff_of_numbered_eq h).2 List.mem_cons_self) (by simp)
  | cons a as ih =>
    cases bs with
    | nil => exact absurd ((mem_iff_of_numbered_eq h).1 List.mem_cons_self) (by simp)
    | cons b bs =>
      have hle := head_le_of_mem has ((mem_iff_of_numbered_eq h).2 List.mem_cons_self)
      have hge := head_le_of_mem hbs ((mem_iff_of_numbered_eq h).1 List.mem_cons_self)
      have hheads := h a.number
      rw [numbered_cons_self, Int32.le_antisymm hle hge, numbered_cons_self] at hheads
      obtain ⟨rfl, _⟩ := List.cons.inj hheads
      have htails : ∀ n, numbered n as = numbered n bs := by
        intro n
        have hn := h n
        simp only [numbered, List.filter_cons] at hn ⊢
        split at hn
        · exact (List.cons.inj hn).2
        · exact hn
      rw [ih has.of_cons hbs.of_cons htails]

end Attempt

namespace Job

open Attempt

variable (job : Job)

theorem sortedAttempts_pairwise :
    job.sortedAttempts.Pairwise (·.number ≤ ·.number) := by
  have hsorted : job.sortedAttempts.Pairwise fun a b => decide (a.number ≤ b.number) := by
    apply List.pairwise_mergeSort
    · simpa using fun a b c => Int32.le_trans
    · simpa using fun a b => Int32.le_total ..
  simpa using hsorted

/-- Sorting keeps the attempts of one number, since they are in order already. -/
theorem numbered_sortedAttempts (n : Int32) :
    numbered n job.sortedAttempts = numbered n job.attempts := by
  have hsub : (numbered n job.attempts).Sublist job.sortedAttempts := by
    apply List.sublist_mergeSort
    · simpa using fun a b c => Int32.le_trans
    · simpa using fun a b => Int32.le_total ..
    · simpa using pairwise_numbered n job.attempts
    · exact List.filter_sublist
  have hperm : (numbered n job.sortedAttempts).Perm (numbered n job.attempts) :=
    (List.mergeSort_perm _ _).filter _
  have hfilter := hsub.filter (·.number = n)
  rw [numbered, List.filter_filter] at hfilter
  simp only [Bool.and_self] at hfilter
  exact (hfilter.eq_of_length hperm.length_eq.symm).symm

theorem stablySorts_iff {as : List Attempt} :
    StablySorts as job.attempts ↔ as = job.sortedAttempts := by
  constructor
  · intro h
    exact eq_of_numbered_eq h.increasing job.sortedAttempts_pairwise fun n => by
      rw [h.stable n, numbered_sortedAttempts]
  · rintro rfl
    exact ⟨List.mergeSort_perm _ _, job.sortedAttempts_pairwise, job.numbered_sortedAttempts⟩

/-- Attempts that are stored in another order are put in the same one by number. -/
theorem sortedAttempts_congr {as : List Attempt}
    (hnumbered : ∀ n, numbered n as = numbered n job.attempts) :
    ({ job with attempts := as } : Job).sortedAttempts = job.sortedAttempts := by
  apply eq_of_numbered_eq
  · exact sortedAttempts_pairwise _
  · exact sortedAttempts_pairwise _
  · intro n
    rw [numbered_sortedAttempts, numbered_sortedAttempts]
    exact hnumbered n

end Job

/-- Whether ids are the numbers of the attempts of a job, in increasing order. -/
def Job.NumberedBy (job : Job) (ids : List Int64) : Prop :=
  ids.map (·.toInt) = job.sortedAttempts.map (·.number.toInt) ∧ ids.Pairwise (· ≤ ·)

theorem Job.numberedBy_of_eq {job : Job} {ids : List Int64}
    (h : ids.map (·.toInt) = job.sortedAttempts.map (·.number.toInt)) : job.NumberedBy ids := by
  refine ⟨h, ?_⟩
  have hsorted : (job.sortedAttempts.map (·.number.toInt)).Pairwise (· ≤ ·) := by
    rw [List.pairwise_map]
    exact job.sortedAttempts_pairwise.imp Int32.le_iff_toInt_le.1
  rw [← h, List.pairwise_map] at hsorted
  exact hsorted.imp Int64.le_iff_toInt_le.2

namespace View

variable {job : JobReport.Job}

theorem attempt_id {a : JobReport.Attempt} {v : Attempt} (h : Attempt.ofRecord a = .ok v) :
    v.id.toInt = a.number.toInt := by
  rw [Attempt.ofRecord] at h
  simp only [except_bind_ok_iff] at h
  obtain ⟨_, _, _, _, h⟩ := h
  cases h
  have hlower := a.number.le_toInt
  have hupper := a.number.toInt_lt
  exact Int64.toInt_ofInt_of_le (by omega) (by omega)

theorem jobWithAttempts_numberedBy {v : JobWithAttempts}
    (h : JobWithAttempts.ofRecord job = .ok v) : job.NumberedBy (v.attempts.map (·.id)) := by
  apply Job.numberedBy_of_eq
  have hids : List.Forall₂ Eq (job.sortedAttempts.map (·.number.toInt))
      (v.attempts.map (·.id.toInt)) := by
    rw [List.forall₂_map_left_iff, List.forall₂_map_right_iff]
    exact (list_mapM_ok_iff.1 (jobWithAttempts_ok h).2).imp fun _ _ ha => (attempt_id ha).symm
  rw [List.forall₂_eq_eq_eq] at hids
  rw [hids, List.map_map]
  rfl

theorem jobInfo_numberedBy {info : JobInfo} (h : JobInfo.ofRecord job = .ok info) :
    job.NumberedBy (info.attempts.map (·.attempt.id)) := by
  rw [jobInfo_eq_toInfo, except_map_ok_iff] at h
  obtain ⟨v, hv, rfl⟩ := h
  simpa [JobWithAttempts.toInfo, Function.comp_def] using jobWithAttempts_numberedBy hv

theorem fullInfo_numberedBy {c : Converter Id} {info : JobInfo} (h : c.fullInfo job = .ok info) :
    job.NumberedBy (info.attempts.map (·.attempt.id)) := by
  have hids := jobInfo_numberedBy (jobInfo_of_fullInfo h)
  simpa [JobInfo.withoutLogs, AttemptInfo.withoutLogs, Function.comp_def] using hids

end View

/-- The attempts of a job are put in the one order that is by number and keeps those of equal
number as they are stored. A job that stores its attempts otherwise, but those of each number in the
same order, has the same views and errors and asks for the same logs. The ids shown are the
numbers of the attempts. -/
theorem attempts_by_number (job : Job) :
    (∀ as, Attempt.StablySorts as job.attempts ↔ as = job.sortedAttempts) ∧
    (∀ as, (∀ n, Attempt.numbered n as = Attempt.numbered n job.attempts) →
      let other := { job with attempts := as }
      View.JobWithAttempts.ofRecord other = View.JobWithAttempts.ofRecord job ∧
      View.JobInfo.ofRecord other = View.JobInfo.ofRecord job ∧
      (∀ c : Converter Id, c.fullInfoNoting other = c.fullInfoNoting job) ∧
      ∀ (m : Type → Type) [Monad m] (c : Converter m), c.jobInfo other = c.jobInfo job) ∧
    (∀ v, View.JobWithAttempts.ofRecord job = .ok v → job.NumberedBy (v.attempts.map (·.id))) ∧
    (∀ info, View.JobInfo.ofRecord job = .ok info →
      job.NumberedBy (info.attempts.map (·.attempt.id))) ∧
    ∀ (c : Converter Id) info, c.fullInfo job = .ok info →
      job.NumberedBy (info.attempts.map (·.attempt.id)) := by
  refine ⟨fun _ => job.stablySorts_iff, fun as has => ?_, fun _ => View.jobWithAttempts_numberedBy,
    fun _ => View.jobInfo_numberedBy, fun _ _ => View.fullInfo_numberedBy⟩
  have hsorted := job.sortedAttempts_congr has
  have hview : View.Job.ofRecord { job with attempts := as } = View.Job.ofRecord job := rfl
  have hfull : ∀ (m : Type → Type) [Monad m] (c : Converter m),
      c.jobInfo { job with attempts := as } = c.jobInfo job := by
    intro m _ c
    rw [Converter.jobInfo, Converter.jobInfo, hview, hsorted]
  refine ⟨?_, ?_, ?_, hfull⟩
  · rw [View.JobWithAttempts.ofRecord, View.JobWithAttempts.ofRecord, hview, hsorted]
  · rw [View.JobInfo.ofRecord, View.JobInfo.ofRecord, hview, hsorted]
  · intro c
    rw [Converter.fullInfoNoting, Converter.fullInfoNoting, hfull]

end JobReport
