import JobReport.View.Job

/-!
# Debug views

A job beside the connectors it uses and the version of the platform that shows it.
-/

set_option autoImplicit false

namespace JobReport.View

structure SourceDefinition where
  id : Uuid
  name : String
  dockerRepository : String
  dockerImageTag : String
  documentationUrl : Option String
  deriving DecidableEq

structure DestinationDefinition where
  id : Uuid
  name : String
  dockerRepository : String
  dockerImageTag : String
  documentationUrl : Option String
  deriving DecidableEq

structure JobDebug where
  id : Int64
  configType : ConfigType
  configId : String
  status : JobStatus
  platformVersion : String
  source : SourceDefinition
  destination : DestinationDefinition
  deriving DecidableEq

def SourceDefinition.shape : Shape SourceDefinition where
  title := "SourceDefinitionSummary"
  types := _
  fields := .cons (.required "source_definition_id" .uuid) <|
    .cons (.required "name" .string) <|
    .cons (.required "docker_repository" .string) <|
    .cons (.required "docker_image_tag" .string) <|
    .cons (.nullable "documentation_url" .string) .nil
  make := fun (id, name, dockerRepository, dockerImageTag, documentationUrl, ()) =>
    ⟨id, name, dockerRepository, dockerImageTag, documentationUrl⟩
  unmake d := (d.id, d.name, d.dockerRepository, d.dockerImageTag, d.documentationUrl, ())
  make_unmake _ := rfl

def SourceDefinition.codec : Codec SourceDefinition := .record shape

def DestinationDefinition.shape : Shape DestinationDefinition where
  title := "DestinationDefinitionSummary"
  types := _
  fields := .cons (.required "destination_definition_id" .uuid) <|
    .cons (.required "name" .string) <|
    .cons (.required "docker_repository" .string) <|
    .cons (.required "docker_image_tag" .string) <|
    .cons (.nullable "documentation_url" .string) .nil
  make := fun (id, name, dockerRepository, dockerImageTag, documentationUrl, ()) =>
    ⟨id, name, dockerRepository, dockerImageTag, documentationUrl⟩
  unmake d := (d.id, d.name, d.dockerRepository, d.dockerImageTag, d.documentationUrl, ())
  make_unmake _ := rfl

def DestinationDefinition.codec : Codec DestinationDefinition := .record shape

def JobDebug.shape : Shape JobDebug where
  title := "JobDebugView"
  types := _
  fields := .cons (.required "id" .int64) <|
    .cons (.required "config_type" (.named ConfigType)) <|
    .cons (.required "config_id" .string) <|
    .cons (.required "status" (.named JobStatus)) <|
    .cons (.required "platform_version" .string) <|
    .cons (.required "source_definition" SourceDefinition.codec) <|
    .cons (.required "destination_definition" DestinationDefinition.codec) .nil
  make := fun (id, configType, configId, status, platformVersion, source, destination, ()) =>
    ⟨id, configType, configId, status, platformVersion, source, destination⟩
  unmake j := (j.id, j.configType, j.configId, j.status, j.platformVersion, j.source,
    j.destination, ())
  make_unmake _ := rfl

def JobDebug.codec : Codec JobDebug := .record shape

end JobReport.View
