import JobReport.Record.Named
import JobReport.Record.Shape

/-!
# Streams and catalogs

The streams that a job works on: the catalog it was configured with, and the selections carried by
jobs that reset or refresh streams.
-/

set_option autoImplicit false

namespace JobReport

/-- A stream by its name and, where it has one, the namespace of that name. -/
structure StreamDescriptor where
  name : String
  space : Option String
  deriving DecidableEq, Repr

/-- A stream as the source declares it. -/
structure SourceStream where
  name : String
  space : Option String
  jsonSchema : Document
  deriving DecidableEq

/-- A stream selected for replication, with its settings. -/
structure ConfiguredStream where
  stream : SourceStream
  syncMode : Option String
  destinationSyncMode : Option String
  deriving DecidableEq

structure Catalog where
  streams : List ConfiguredStream
  deriving DecidableEq

/-- The streams whose data a reset or a clear removes from the destination. -/
structure ResetSelection where
  streams : List StreamDescriptor
  deriving DecidableEq, Repr

/-- What a refresh does with the data already in the destination. -/
inductive RefreshType where
  | truncate
  | merge
  deriving DecidableEq, Repr

/-- An entry of a refresh; old records may lack the descriptor. -/
structure RefreshEntry where
  descriptor : Option StreamDescriptor
  refreshType : Option RefreshType
  deriving DecidableEq, Repr

def ConfiguredStream.descriptor (s : ConfiguredStream) : StreamDescriptor :=
  ⟨s.stream.name, s.stream.space⟩

instance : Named RefreshType where
  typeName := "RefreshType"
  all := [.truncate, .merge]
  name
    | .truncate => "truncate"
    | .merge => "merge"
  find_name a := by cases a <;> rfl

def StreamDescriptor.shape : Shape StreamDescriptor where
  title := "StreamDescriptor"
  types := _
  fields := .cons (.required "name" .string) <| .cons (.sparse "namespace" .string) .nil
  make := fun (name, space, ()) => ⟨name, space⟩
  unmake d := (d.name, d.space, ())
  make_unmake _ := rfl

def StreamDescriptor.codec : Codec StreamDescriptor := .record shape

def SourceStream.shape : Shape SourceStream where
  title := "AirbyteStream"
  types := _
  fields := .cons (.required "name" .string) <| .cons (.sparse "namespace" .string) <|
    .cons (.withDefault "json_schema" .document .null) .nil
  make := fun (name, space, jsonSchema, ()) => ⟨name, space, jsonSchema⟩
  unmake s := (s.name, s.space, s.jsonSchema, ())
  make_unmake _ := rfl

def SourceStream.codec : Codec SourceStream := .record shape

def ConfiguredStream.shape : Shape ConfiguredStream where
  title := "ConfiguredAirbyteStream"
  types := _
  fields := .cons (.required "stream" SourceStream.codec) <|
    .cons (.sparse "sync_mode" .string) <| .cons (.sparse "destination_sync_mode" .string) .nil
  make := fun (stream, syncMode, destinationSyncMode, ()) =>
    ⟨stream, syncMode, destinationSyncMode⟩
  unmake s := (s.stream, s.syncMode, s.destinationSyncMode, ())
  make_unmake _ := rfl

def ConfiguredStream.codec : Codec ConfiguredStream := .record shape

def Catalog.shape : Shape Catalog where
  title := "ConfiguredAirbyteCatalog"
  types := _
  fields := .cons (.withDefault "streams" ConfiguredStream.codec.list []) .nil
  make := fun (streams, ()) => ⟨streams⟩
  unmake c := (c.streams, ())
  make_unmake _ := rfl

def Catalog.codec : Codec Catalog := .record shape

def ResetSelection.shape : Shape ResetSelection where
  title := "ResetSourceConfiguration"
  types := _
  fields := .cons (.withDefault "streams_to_reset" StreamDescriptor.codec.list []) .nil
  make := fun (streams, ()) => ⟨streams⟩
  unmake r := (r.streams, ())
  make_unmake _ := rfl

def ResetSelection.codec : Codec ResetSelection := .record shape

def RefreshEntry.shape : Shape RefreshEntry where
  title := "RefreshStream"
  types := _
  fields := .cons (.optional "stream_descriptor" StreamDescriptor.codec) <|
    .cons (.sparse "refresh_type" (.named RefreshType)) .nil
  make := fun (descriptor, refreshType, ()) => ⟨descriptor, refreshType⟩
  unmake r := (r.descriptor, r.refreshType, ())
  make_unmake _ := rfl

def RefreshEntry.codec : Codec RefreshEntry := .record shape

end JobReport
