import JobReport.Job.Stream
import JobReport.Record.Tagged

/-!
# Configurations of jobs

A job is configured according to its type, and its configuration names that type.
-/

set_option autoImplicit false

namespace JobReport

inductive ConfigType where
  | checkConnectionSource
  | checkConnectionDestination
  | discoverSchema
  | getSpec
  | sync
  | resetConnection
  | refresh
  | clear
  deriving DecidableEq, Repr

/-- What a job that only runs a connector needs. -/
structure ConnectorConfig where
  dockerImage : String
  deriving DecidableEq, Repr

structure SyncConfig where
  catalog : Option Catalog
  deriving DecidableEq

/-- The configuration of resets and clears. -/
structure ResetConfig where
  catalog : Option Catalog
  selection : Option ResetSelection
  deriving DecidableEq

structure RefreshConfig where
  catalog : Option Catalog
  streams : List RefreshEntry
  deriving DecidableEq

inductive JobConfig where
  | checkConnectionSource (config : ConnectorConfig)
  | checkConnectionDestination (config : ConnectorConfig)
  | discoverSchema (config : ConnectorConfig)
  | getSpec (config : ConnectorConfig)
  | sync (config : SyncConfig)
  | resetConnection (config : ResetConfig)
  | refresh (config : RefreshConfig)
  | clear (config : ResetConfig)
  deriving DecidableEq

instance : Named ConfigType where
  typeName := "ConfigType"
  all := [.checkConnectionSource, .checkConnectionDestination, .discoverSchema, .getSpec, .sync,
    .resetConnection, .refresh, .clear]
  name
    | .checkConnectionSource => "check_connection_source"
    | .checkConnectionDestination => "check_connection_destination"
    | .discoverSchema => "discover_schema"
    | .getSpec => "get_spec"
    | .sync => "sync"
    | .resetConnection => "reset_connection"
    | .refresh => "refresh"
    | .clear => "clear"
  label
    | .checkConnectionSource => "check_connection_source"
    | .checkConnectionDestination => "check_connection_destination"
    | .discoverSchema => "discover_schema"
    | .getSpec => "get_spec"
    | .sync => "sync"
    | .resetConnection => "reset_connection"
    | .refresh => "refresh"
    | .clear => "clear"
  find_name a := by cases a <;> rfl
  label_eq_name a := by cases a <;> rfl

namespace JobConfig

def type : JobConfig → ConfigType
  | .checkConnectionSource _ => .checkConnectionSource
  | .checkConnectionDestination _ => .checkConnectionDestination
  | .discoverSchema _ => .discoverSchema
  | .getSpec _ => .getSpec
  | .sync _ => .sync
  | .resetConnection _ => .resetConnection
  | .refresh _ => .refresh
  | .clear _ => .clear

/-- The configured catalog, if a job of this kind carries one. -/
def catalog : JobConfig → Option Catalog
  | .sync config => config.catalog
  | .resetConnection config => config.catalog
  | .clear config => config.catalog
  | .refresh config => config.catalog
  | .checkConnectionSource _ | .checkConnectionDestination _ | .discoverSchema _ | .getSpec _ =>
    none

end JobConfig

def ConnectorConfig.shape : Shape ConnectorConfig where
  title := "ConnectorJobConfig"
  types := _
  fields := .cons (.required "docker_image" .string) .nil
  make := fun (dockerImage, ()) => ⟨dockerImage⟩
  unmake c := (c.dockerImage, ())
  make_unmake _ := rfl

def catalogField : Field (Option Catalog) := .optional "configured_airbyte_catalog" Catalog.codec

def SyncConfig.shape : Shape SyncConfig where
  title := "SyncJobConfig"
  types := _
  fields := .cons catalogField .nil
  make := fun (catalog, ()) => ⟨catalog⟩
  unmake c := (c.catalog, ())
  make_unmake _ := rfl

def ResetConfig.shape : Shape ResetConfig where
  title := "ResetConnectionConfig"
  types := _
  fields := .cons catalogField <|
    .cons (.optional "reset_source_configuration" ResetSelection.codec) .nil
  make := fun (catalog, selection, ()) => ⟨catalog, selection⟩
  unmake c := (c.catalog, c.selection, ())
  make_unmake _ := rfl

def RefreshConfig.shape : Shape RefreshConfig where
  title := "RefreshConfig"
  types := _
  fields := .cons catalogField <|
    .cons (.withDefault "streams_to_refresh" RefreshEntry.codec.list []) .nil
  make := fun (catalog, streams, ()) => ⟨catalog, streams⟩
  unmake c := (c.catalog, c.streams, ())
  make_unmake _ := rfl

namespace JobConfig

/-- What the configuration of a type consists of. -/
def Payload : ConfigType → Type
  | .checkConnectionSource | .checkConnectionDestination | .discoverSchema | .getSpec =>
    ConnectorConfig
  | .sync => SyncConfig
  | .resetConnection | .clear => ResetConfig
  | .refresh => RefreshConfig

def payloadShape : (t : ConfigType) → Shape (Payload t)
  | .checkConnectionSource => ConnectorConfig.shape
  | .checkConnectionDestination => ConnectorConfig.shape
  | .discoverSchema => ConnectorConfig.shape
  | .getSpec => ConnectorConfig.shape
  | .sync => SyncConfig.shape
  | .resetConnection => ResetConfig.shape
  | .refresh => RefreshConfig.shape
  | .clear => ResetConfig.shape

def family : Family ConfigType := ⟨"JobConfig", "config_type", Payload, payloadShape⟩

def ofMember : family.Member → JobConfig
  | ⟨.checkConnectionSource, config⟩ => .checkConnectionSource config
  | ⟨.checkConnectionDestination, config⟩ => .checkConnectionDestination config
  | ⟨.discoverSchema, config⟩ => .discoverSchema config
  | ⟨.getSpec, config⟩ => .getSpec config
  | ⟨.sync, config⟩ => .sync config
  | ⟨.resetConnection, config⟩ => .resetConnection config
  | ⟨.refresh, config⟩ => .refresh config
  | ⟨.clear, config⟩ => .clear config

def toMember : JobConfig → family.Member
  | .checkConnectionSource config => ⟨.checkConnectionSource, config⟩
  | .checkConnectionDestination config => ⟨.checkConnectionDestination, config⟩
  | .discoverSchema config => ⟨.discoverSchema, config⟩
  | .getSpec config => ⟨.getSpec, config⟩
  | .sync config => ⟨.sync, config⟩
  | .resetConnection config => ⟨.resetConnection, config⟩
  | .refresh config => ⟨.refresh, config⟩
  | .clear config => ⟨.clear, config⟩

theorem ofMember_toMember (c : JobConfig) : ofMember c.toMember = c := by cases c <;> rfl

def codec : Codec JobConfig := (Codec.tagged family).convert ofMember toMember

end JobConfig

end JobReport
