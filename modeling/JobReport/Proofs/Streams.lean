import JobReport.Proofs.Traversal
import JobReport.View.OfJob

/-!
# The streams of a job

A configuration is asked for its streams in three ways: which it works on, which a view shows as
reset and which as refreshed. The three agree on the streams, but not on what it means to have none:
a refresh without streams is shown as if it were no refresh, a reset is shown when it has a
selection, however small, and a clear is never shown. The streams of the catalog are shown whatever
the others are.
-/

set_option autoImplicit false

namespace JobReport

/-- The descriptors of a refresh in order. An entry without one is passed over. -/
inductive Describes : List RefreshEntry → List StreamDescriptor → Prop
  | nil : Describes [] []
  | described {entry : RefreshEntry} {entries : List RefreshEntry} {d : StreamDescriptor}
    {ds : List StreamDescriptor} (h : entry.descriptor = some d) (rest : Describes entries ds) :
    Describes (entry :: entries) (d :: ds)
  | passedOver {entry : RefreshEntry} {entries : List RefreshEntry} {ds : List StreamDescriptor}
    (h : entry.descriptor = none) (rest : Describes entries ds) : Describes (entry :: entries) ds

/-- What a configuration works on, what is reset by it and what is refreshed by it. -/
inductive Selects : JobConfig → Option (List StreamDescriptor) → Option (List StreamDescriptor) →
    Option (List StreamDescriptor) → Prop
  | refresh {config : RefreshConfig} {ds : List StreamDescriptor} (h : Describes config.streams ds)
    (hne : ds ≠ []) : Selects (.refresh config) (some ds) none (some ds)
  | refreshOfNone {config : RefreshConfig} (h : Describes config.streams []) :
    Selects (.refresh config) (some []) none none
  | reset {config : ResetConfig} {selection : ResetSelection}
    (h : config.selection = some selection) :
    Selects (.resetConnection config) (some selection.streams) (some selection.streams) none
  | resetUnselected {config : ResetConfig} (h : config.selection = none) :
    Selects (.resetConnection config) (some []) none none
  | clear {config : ResetConfig} {selection : ResetSelection}
    (h : config.selection = some selection) :
    Selects (.clear config) (some selection.streams) none none
  | clearUnselected {config : ResetConfig} (h : config.selection = none) :
    Selects (.clear config) (some []) none none
  | other {config : JobConfig} (h : config.type ∉ [.refresh, .resetConnection, .clear]) :
    Selects config none none none

/-- The catalog of a configuration; only four types can have one. -/
inductive Carries : JobConfig → Option Catalog → Prop
  | sync (config : SyncConfig) : Carries (.sync config) config.catalog
  | resetConnection (config : ResetConfig) : Carries (.resetConnection config) config.catalog
  | refresh (config : RefreshConfig) : Carries (.refresh config) config.catalog
  | clear (config : ResetConfig) : Carries (.clear config) config.catalog
  | other {config : JobConfig} (h : config.type ∉ [.sync, .resetConnection, .refresh, .clear]) :
    Carries config none

theorem describes_iff {entries : List RefreshEntry} {ds : List StreamDescriptor} :
    Describes entries ds ↔ ds = entries.filterMap (·.descriptor) := by
  constructor
  · intro h
    induction h with
    | nil => rfl
    | described h _ ih => rw [List.filterMap_cons_some h, ih]
    | passedOver h _ ih => rw [List.filterMap_cons_none h, ih]
  · rintro rfl
    induction entries with
    | nil => exact .nil
    | cons entry entries ih =>
      cases h : entry.descriptor with
      | none =>
        rw [List.filterMap_cons_none h]
        exact .passedOver h ih
      | some d =>
        rw [List.filterMap_cons_some h]
        exact .described h ih

section

variable {config : JobConfig} {associated reset refreshed : Option (List StreamDescriptor)}

theorem Selects.isSome_iff (h : Selects config associated reset refreshed) :
    associated.isSome ↔ config.type ∈ [.refresh, .clear, .resetConnection] := by
  cases h with
  | other h => simpa [and_comm, and_assoc] using h
  | refresh | refreshOfNone | reset | resetUnselected | clear | clearUnselected =>
    simp [JobConfig.type]

theorem Selects.not_both (h : Selects config associated reset refreshed) :
    reset = none ∨ refreshed = none := by
  cases h <;> simp

end

namespace View

/-- Whether streams are shown with the names and namespaces that they are recorded with. -/
def SameStreams (shown : List StreamDescriptor) (recorded : List JobReport.StreamDescriptor) :
    Prop :=
  List.Forall₂ (fun v d => v.name = d.name ∧ v.space = d.space) shown recorded

theorem sameStreams_map (ds : List JobReport.StreamDescriptor) :
    SameStreams (ds.map .ofRecord) ds := by
  rw [SameStreams, List.forall₂_map_left_iff, List.forall₂_same]
  exact fun d _ => ⟨rfl, rfl⟩

/-- Whether a configuration is shown to reset and to refresh what it does. -/
structure ShowsStreams (config : JobConfig)
    (reset refreshed : Option (List JobReport.StreamDescriptor)) : Prop where
  selects : Selects config config.associatedStreams reset refreshed
  reset : Option.Rel SameStreams ((ResetConfig.ofRecord? config).map (·.streams)) reset
  refreshed : Option.Rel SameStreams ((RefreshConfig.ofRecord? config).map (·.streams)) refreshed

theorem refreshConfig_of_describes {config : JobReport.RefreshConfig}
    {ds : List JobReport.StreamDescriptor} (h : Describes config.streams ds) :
    RefreshConfig.ofRecord? (.refresh config) =
      if ds = [] then none else some ⟨ds.map .ofRecord⟩ := by
  rw [RefreshConfig.ofRecord?, ← describes_iff.1 h]
  simp only [List.isEmpty_map, List.isEmpty_iff]

theorem showsStreams_refresh (config : JobReport.RefreshConfig) :
    ∃ refreshed, ShowsStreams (.refresh config) none refreshed := by
  obtain ⟨ds, hds⟩ : ∃ ds, Describes config.streams ds := ⟨_, describes_iff.2 rfl⟩
  have hassociated : (JobConfig.refresh config).associatedStreams = some ds := by
    rw [JobConfig.associatedStreams, ← describes_iff.1 hds]
  by_cases hnone : ds = []
  · refine ⟨none, ?_, .none, ?_⟩
    · rw [hassociated, hnone]
      exact .refreshOfNone (hnone ▸ hds)
    · rw [refreshConfig_of_describes hds, if_pos hnone]
      exact .none
  · refine ⟨some ds, ?_, .none, ?_⟩
    · rw [hassociated]
      exact .refresh hds hnone
    · rw [refreshConfig_of_describes hds, if_neg hnone]
      exact .some (sameStreams_map ds)

theorem showsStreams_reset (config : JobReport.ResetConfig) :
    ∃ reset, ShowsStreams (.resetConnection config) reset none := by
  cases hselection : config.selection with
  | none =>
    refine ⟨none, ?_, ?_, .none⟩
    · rw [JobConfig.associatedStreams, hselection]
      exact .resetUnselected hselection
    · rw [ResetConfig.ofRecord?, hselection]
      exact .none
  | some selection =>
    refine ⟨some selection.streams, ?_, ?_, .none⟩
    · rw [JobConfig.associatedStreams, hselection]
      exact .reset hselection
    · rw [ResetConfig.ofRecord?, hselection]
      exact .some (sameStreams_map _)

theorem showsStreams_clear (config : JobReport.ResetConfig) :
    ShowsStreams (.clear config) none none := by
  refine ⟨?_, .none, .none⟩
  cases hselection : config.selection with
  | none =>
    rw [JobConfig.associatedStreams, hselection]
    exact .clearUnselected hselection
  | some selection =>
    rw [JobConfig.associatedStreams, hselection]
    exact .clear hselection

theorem showsStreams (config : JobConfig) :
    ∃ reset refreshed, ShowsStreams config reset refreshed := by
  cases config with
  | refresh config => exact ⟨none, showsStreams_refresh config⟩
  | resetConnection config =>
    obtain ⟨reset, h⟩ := showsStreams_reset config
    exact ⟨reset, none, h⟩
  | clear config => exact ⟨none, none, showsStreams_clear config⟩
  | checkConnectionSource | checkConnectionDestination | discoverSchema | getSpec | sync =>
    exact ⟨none, none, .other (by simp [JobConfig.type]), .none, .none⟩

theorem eq_none_of_rel {α β γ : Type} {shows : β → γ → Prop} {f : α → β} {a : Option α}
    (h : Option.Rel shows (a.map f) none) : a = none := by
  cases a with
  | none => rfl
  | some => cases h

theorem ShowsStreams.not_both {config : JobConfig}
    {reset refreshed : Option (List JobReport.StreamDescriptor)}
    (h : ShowsStreams config reset refreshed) :
    ResetConfig.ofRecord? config = none ∨ RefreshConfig.ofRecord? config = none := by
  obtain ⟨hselects, hreset, hrefreshed⟩ := h
  rcases hselects.not_both with rfl | rfl
  · exact .inl (eq_none_of_rel hreset)
  · exact .inr (eq_none_of_rel hrefreshed)

theorem carries_catalog (config : JobConfig) : Carries config config.catalog := by
  cases config with
  | sync config => exact .sync config
  | resetConnection config => exact .resetConnection config
  | refresh config => exact .refresh config
  | clear config => exact .clear config
  | checkConnectionSource | checkConnectionDestination | discoverSchema | getSpec =>
    exact .other (by simp [JobConfig.type])

/-- The streams of a catalog are shown in order, whatever else is recorded of them. -/
theorem enabledStreams_catalog (config : JobConfig) :
    List.Forall₂ (fun v s => v.name = s.stream.name ∧ v.space = s.stream.space)
      (enabledStreams config) (config.catalog.elim [] (·.streams)) := by
  rw [enabledStreams]
  cases config.catalog with
  | none => exact .nil
  | some catalog =>
    rw [List.forall₂_map_left_iff]
    exact List.forall₂_same.2 fun _ _ => ⟨rfl, rfl⟩

theorem job_streams {job : JobReport.Job} {view : Job} (h : Job.ofRecord job = .ok view) :
    view.resetConfig = ResetConfig.ofRecord? job.config ∧
      view.refreshConfig = RefreshConfig.ofRecord? job.config ∧
      view.enabledStreams = enabledStreams job.config := by
  simp only [Job.ofRecord, except_bind_ok_iff] at h
  obtain ⟨_, _, _, _, h⟩ := h
  cases h
  exact ⟨rfl, rfl, rfl⟩

end View

/-- The streams that a job works on, those shown as reset and those shown as refreshed are what its
configuration selects. Only refreshes, clears and resets work on streams, and no job shows both a
reset and a refresh. Beside that the streams of its catalog are shown in order, if it can have one,
and a view of the job shows the same. -/
theorem streams_agree (job : Job) :
    (∃ reset refreshed, View.ShowsStreams job.config reset refreshed) ∧
    (job.config.associatedStreams.isSome ↔
      job.config.type ∈ [.refresh, .clear, .resetConnection]) ∧
    (View.ResetConfig.ofRecord? job.config = none ∨
      View.RefreshConfig.ofRecord? job.config = none) ∧
    (∃ catalog, Carries job.config catalog ∧
      List.Forall₂ (fun v s => v.name = s.stream.name ∧ v.space = s.stream.space)
        (View.enabledStreams job.config) (catalog.elim [] (·.streams))) ∧
    ∀ view, View.Job.ofRecord job = .ok view →
      view.resetConfig = View.ResetConfig.ofRecord? job.config ∧
      view.refreshConfig = View.RefreshConfig.ofRecord? job.config ∧
      view.enabledStreams = View.enabledStreams job.config := by
  obtain ⟨reset, refreshed, hshows⟩ := View.showsStreams job.config
  exact ⟨⟨reset, refreshed, hshows⟩, hshows.selects.isSome_iff, hshows.not_both,
    ⟨_, View.carries_catalog _, View.enabledStreams_catalog _⟩, fun _ => View.job_streams⟩

end JobReport
