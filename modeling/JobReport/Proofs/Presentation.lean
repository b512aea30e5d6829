import JobReport.Job.Basic
import JobReport.Proofs.Record.Edits

/-!
# Jobs however they are presented

A job is made of records whose fields are all lenient: null is taken for an optional value that is
not there and for a schema that is not there, and the empty list for a list that is not there. So a
job that is read from one presentation of its record is read from all of them.
-/

set_option autoImplicit false

namespace JobReport

namespace Job

open Codec

/-- The records that a job is made of. -/
inductive Part : (α : Type) → Shape α → Prop
  | job : Part _ Job.shape
  | config (t : ConfigType) : Part _ (JobConfig.family.shape t)
  | catalog : Part _ Catalog.shape
  | configuredStream : Part _ ConfiguredStream.shape
  | sourceStream : Part _ SourceStream.shape
  | resetSelection : Part _ ResetSelection.shape
  | refreshEntry : Part _ RefreshEntry.shape
  | streamDescriptor : Part _ StreamDescriptor.shape
  | attempt : Part _ Attempt.shape
  | attemptOutput : Part _ AttemptOutput.shape
  | syncOutput : Part _ SyncOutput.shape
  | syncSummary : Part _ SyncSummary.shape
  | syncStats : Part _ SyncStats.shape
  | streamSyncStats : Part _ StreamSyncStats.shape
  | failureSummary : Part _ FailureSummary.shape
  | failureReason : Part _ FailureReason.shape

theorem config_lenient (t : ConfigType) : (JobConfig.family.shape t).fields.Lenient := by
  cases t with
  | checkConnectionSource | checkConnectionDestination | discoverSchema | getSpec =>
    exact ⟨.required .string, trivial⟩
  | sync => exact ⟨.optional, trivial⟩
  | resetConnection | clear => exact ⟨.optional, .optional, trivial⟩
  | refresh => exact ⟨.optional, .list, trivial⟩

theorem Part.lenient {α : Type} {shape : Shape α} (h : Part α shape) : shape.fields.Lenient := by
  cases h with
  | job =>
    exact ⟨.required .integer, .required .string, .required (.convert .tagged), .required .named,
      .required .integer, .required .integer, .optional, .list, trivial⟩
  | config t => exact config_lenient t
  | catalog => exact ⟨.list, trivial⟩
  | configuredStream => exact ⟨.required .record, .sparse, .sparse, trivial⟩
  | sourceStream => exact ⟨.required .string, .sparse, .document, trivial⟩
  | resetSelection => exact ⟨.list, trivial⟩
  | refreshEntry => exact ⟨.optional, .sparse, trivial⟩
  | streamDescriptor => exact ⟨.required .string, .sparse, trivial⟩
  | attempt =>
    exact ⟨.required .integer, .required .integer, .required .named, .optional, .optional,
      .optional, .required .integer, .required .integer, .optional, trivial⟩
  | attemptOutput => exact ⟨.optional, trivial⟩
  | syncOutput => exact ⟨.optional, trivial⟩
  | syncSummary => exact ⟨.optional, .optional, .optional, .optional, trivial⟩
  | syncStats => exact ⟨.optional, .optional, .optional, .optional, trivial⟩
  | streamSyncStats => exact ⟨.required .string, .sparse, .required .record, trivial⟩
  | failureSummary => exact ⟨.list, .optional, trivial⟩
  | failureReason =>
    exact ⟨.optional, .optional, .optional, .optional, .optional, .optional, .optional, trivial⟩

/-- A job is read from every presentation of its record, if it is read from one. -/
theorem decode_of_edits {origin : Origin} {j j' : Json} {job : Job}
    (hedits : Relation.EqvGen (Edit Part Job.codec) j j')
    (hjob : Job.codec.decode origin j = .ok job) : Job.codec.decode origin j' = .ok job :=
  (Edit.decode_ok_iff_of_eqvGen Part.lenient hedits origin job).1 hjob

/-- The members of the record of a refresh, with those of its configuration and of its attempt. -/
def refreshMembers (config attempt : List (String × Json)) : List (String × Json) :=
  [("id", .int (.ofInt64 7)), ("scope", .str "connection"), ("config", .obj config),
    ("status", .str "running"), ("created_at_in_second", .int (.ofInt64 1)),
    ("updated_at_in_second", .int (.ofInt64 2)), ("attempts", .arr [.obj attempt])]

def catalogTree (stream : List (String × Json)) : Json :=
  .obj [("streams", .arr [.obj [("stream", .obj stream)]])]

def attemptMembers : List (String × Json) :=
  [("attempt_number", .int (.ofInt64 0)), ("job_id", .int (.ofInt64 7)),
    ("status", .str "running"), ("created_at_in_second", .int (.ofInt64 1)),
    ("updated_at_in_second", .int (.ofInt64 1))]

/-- A record with nothing in it that could be left out. -/
def plainRecord : Json :=
  .obj (refreshMembers
    [("config_type", .str "refresh"),
      ("configured_airbyte_catalog", catalogTree [("name", .str "users")])]
    attemptMembers)

/-- The same with the tag of the configuration last, and with members that say nothing. -/
def dressedRecord : Json :=
  .obj (("started_at_in_second", .null) :: refreshMembers
    [("note", .bool true), ("streams_to_refresh", .arr []),
      ("configured_airbyte_catalog", catalogTree [("json_schema", .null), ("name", .str "users")]),
      ("config_type", .str "refresh")]
    (("output", .null) :: attemptMembers)).reverse

def refreshingJob : Job where
  id := 7
  scope := "connection"
  config := .refresh ⟨some ⟨[⟨⟨"users", none, .null⟩, none, none⟩]⟩, []⟩
  status := .running
  createdAt := 1
  updatedAt := 2
  startedAt := none
  attempts := [⟨0, 7, .running, none, none, none, 1, 1, none⟩]

theorem edit_stream {stream stream' : List (String × Json)}
    (h : Edit Part SourceStream.codec (.obj stream) (.obj stream')) :
    Edit Part Catalog.codec (catalogTree stream) (catalogTree stream') := by
  have hstreams : Catalog.shape.fields.Has
      (.withDefault "streams" ConfiguredStream.codec.list []) := .here _
  have hstream : ConfiguredStream.shape.fields.Has (.required "stream" SourceStream.codec) :=
    .here _
  exact .member hstreams [] [] (.element [] [] (.member hstream [] [] h))

theorem edit_config {config config' attempt : List (String × Json)}
    (h : Edit Part (.tagged JobConfig.family) (.obj config) (.obj config')) :
    Edit Part Job.codec (.obj (refreshMembers config attempt))
      (.obj (refreshMembers config' attempt)) := by
  have hconfig : Job.shape.fields.Has (.required "config" JobConfig.codec) :=
    .later _ (by decide) (.later _ (by decide) (.here _))
  exact .member hconfig [_, _] _ (.converted h)

theorem edit_attempt {config attempt attempt' : List (String × Json)}
    (h : Edit Part Attempt.codec (.obj attempt) (.obj attempt')) :
    Edit Part Job.codec (.obj (refreshMembers config attempt))
      (.obj (refreshMembers config attempt')) := by
  have hattempts : Job.shape.fields.Has (.withDefault "attempts" Attempt.codec.list []) :=
    .later _ (by decide) (.later _ (by decide) (.later _ (by decide) (.later _ (by decide)
      (.later _ (by decide) (.later _ (by decide) (.later _ (by decide) (.here _)))))))
  exact .member hattempts [_, _, _, _, _, _] [] (.element [] [] h)

theorem plain_edits_dressed : Relation.EqvGen (Edit Part Job.codec) plainRecord dressedRecord := by
  have hschema : SourceStream.shape.fields.Has (.withDefault "json_schema" .document .null) :=
    .later _ (by decide) (.later _ (by decide) (.here _))
  have hcatalog : RefreshConfig.shape.fields.Has catalogField := .here _
  have hstreams : RefreshConfig.shape.fields.Has
      (.withDefault "streams_to_refresh" RefreshEntry.codec.list []) :=
    .later _ (by decide) (.here _)
  have houtput : Attempt.shape.fields.Has (.optional "output" AttemptOutput.codec) :=
    .later _ (by decide) (.later _ (by decide) (.later _ (by decide) (.here _)))
  have hstarted : Job.shape.fields.Has (.optional "started_at_in_second" .int64) :=
    .later _ (by decide) (.later _ (by decide) (.later _ (by decide) (.later _ (by decide)
      (.later _ (by decide) (.later _ (by decide) (.here _))))))
  have hstream : Edit Part SourceStream.codec (.obj [("name", .str "users")])
      (.obj [("json_schema", .null), ("name", .str "users")]) :=
    .idle Part.sourceStream hschema idle_document _ (by decide)
  -- First the catalog and the other members of the configuration, before its tag goes to the end.
  refine .trans _ _ _ (.rel _ _ (edit_config (.named ConfigType.refresh
    (.member hcatalog [] [] (.present (edit_stream hstream))) (by decide) (by decide)))) ?_
  refine .trans _ _ _ (.rel _ _ (edit_config (.named ConfigType.refresh
    (.idle (.config .refresh) hstreams (idle_list _) _ (by decide)) (by decide) (by decide)))) ?_
  refine .trans _ _ _ (.rel _ _ (edit_config (.named ConfigType.refresh
    (@Edit.unknown Part _ _ "note" (.bool true) _ (by decide)) (by decide) (by decide)))) ?_
  refine .trans _ _ _ (.rel _ _ (edit_config
    (.retagged (List.perm_append_singleton _ [_, _, _]).symm))) ?_
  refine .trans _ _ _ (.rel _ _ (edit_attempt
    (.idle Part.attempt houtput (idle_option _) _ (by decide)))) ?_
  refine .trans _ _ _ (.rel _ _ (.idle Part.job hstarted (idle_option _) _ (by decide))) ?_
  exact .rel _ _ (.reordered (List.reverse_perm _).symm)

theorem decode_of_edits_dressed :
    Relation.EqvGen (Edit Part Job.codec) plainRecord dressedRecord ∧
      Job.codec.decode .given plainRecord = .ok refreshingJob ∧
      Job.codec.decode .given dressedRecord = .ok refreshingJob :=
  ⟨plain_edits_dressed, rfl, decode_of_edits plain_edits_dressed rfl⟩

end Job

end JobReport
