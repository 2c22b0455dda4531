import WorkloadPolicy.Entity.Image

/-!
# Deployments

A deployment is a workload that policies are checked against.  It carries its
place (cluster and namespace), the service account it runs under, and one
record per container.
-/

namespace WorkloadPolicy

/-- How far a port can be reached from outside. -/
inductive ExposureLevel where
  | unset
  | internal
  | node
  | external
  | host
  deriving DecidableEq, Repr, Inhabited

namespace ExposureLevel

/-- All levels. -/
def all : List ExposureLevel := [unset, internal, node, external, host]

/-- The name of a level in documents and values. -/
def name : ExposureLevel → String
  | unset => "UNSET"
  | internal => "INTERNAL"
  | node => "NODE"
  | external => "EXTERNAL"
  | host => "HOST"

end ExposureLevel

/-- The image that a container runs. -/
structure ContainerImage where
  id : String := ""
  name : ImageName := {}
  deriving DecidableEq, Repr, Inhabited

/-- The rights of a container. -/
structure SecurityContext where
  privileged : Bool := false
  readOnlyRootFilesystem : Bool := false
  addCapabilities : List String := []
  dropCapabilities : List String := []
  deriving DecidableEq, Repr, Inhabited

/-- An environment variable. -/
structure EnvironmentVariable where
  key : String
  value : String := ""
  deriving DecidableEq, Repr, Inhabited

/-- The configuration of a container. -/
structure ContainerConfig where
  env : List EnvironmentVariable := []
  deriving DecidableEq, Repr, Inhabited

/-- Cores and megabytes asked for; zero means unset. -/
structure Resources where
  cpuCoresRequest : Float := 0.0
  cpuCoresLimit : Float := 0.0
  memoryMbRequest : Float := 0.0
  memoryMbLimit : Float := 0.0
  deriving Inhabited

/-- A mounted volume. -/
structure Volume where
  name : String
  source : String := ""
  destination : String := ""
  readOnly : Bool := false
  /-- The kind of volume, such as `HostPath`. -/
  volumeType : String := ""
  deriving DecidableEq, Repr, Inhabited

/-- One container of a deployment. -/
structure Container where
  name : String
  image : ContainerImage := {}
  securityContext : SecurityContext := {}
  config : ContainerConfig := {}
  resources : Resources := {}
  volumes : List Volume := []
  deriving Inhabited

/-- A port of a deployment. -/
structure PortConfig where
  name : String := ""
  containerPort : Nat
  protocol : String := "TCP"
  exposure : ExposureLevel := .unset
  deriving DecidableEq, Repr, Inhabited

/-- A workload. -/
structure Deployment where
  id : String
  name : String
  namespaceName : String
  clusterId : String
  clusterName : String := ""
  /-- The labels in the order of their keys. -/
  labels : List (String × String) := []
  /-- The annotations in the order of their keys. -/
  annotations : List (String × String) := []
  /-- The name of the service account, which is in the deployment's own
  namespace. -/
  serviceAccount : String := ""
  containers : List Container := []
  ports : List PortConfig := []
  deriving Inhabited

open Readable

namespace ExposureLevel

/-- Read a level by its name. -/
def read? [Readable Node] (node : Node) : Option ExposureLevel :=
  variantOf? (all.map fun level => (level.name, level)) node

end ExposureLevel

namespace ContainerImage

/-- Read an image reference. -/
def read? [Readable Node] (node : Node) : Option ContainerImage := do
  let record ← Record.ofNode? node
  some
    { id := ← record.withDefault "id" "" text?
      name := ← record.withDefault "name" {} ImageName.read? }

/-- The JSON form of an image reference. -/
def toJson (image : ContainerImage) : Json :=
  .object [("id", .text image.id), ("name", image.name.toJson)]

end ContainerImage

namespace SecurityContext

/-- Read the rights of a container. -/
def read? [Readable Node] (node : Node) : Option SecurityContext := do
  let record ← Record.ofNode? node
  some
    { privileged := ← record.withDefault "privileged" false boolean?
      readOnlyRootFilesystem :=
        ← record.withDefault "read_only_root_filesystem" false boolean?
      addCapabilities := ← record.withDefault "add_capabilities" [] (listOf? text?)
      dropCapabilities := ← record.withDefault "drop_capabilities" [] (listOf? text?) }

/-- The JSON form of the rights of a container. -/
def toJson (rights : SecurityContext) : Json :=
  .object
    [("privileged", .boolean rights.privileged),
      ("read_only_root_filesystem", .boolean rights.readOnlyRootFilesystem),
      ("add_capabilities", .ofTexts rights.addCapabilities),
      ("drop_capabilities", .ofTexts rights.dropCapabilities)]

end SecurityContext

namespace EnvironmentVariable

/-- Read an environment variable. -/
def read? [Readable Node] (node : Node) : Option EnvironmentVariable := do
  let record ← Record.ofNode? node
  some
    { key := ← record.required "key" text?
      value := ← record.withDefault "value" "" text? }

/-- The JSON form of an environment variable. -/
def toJson (entry : EnvironmentVariable) : Json :=
  .object [("key", .text entry.key), ("value", .text entry.value)]

end EnvironmentVariable

namespace ContainerConfig

/-- Read the configuration of a container. -/
def read? [Readable Node] (node : Node) : Option ContainerConfig := do
  let record ← Record.ofNode? node
  some { env := ← record.withDefault "env" [] (listOf? EnvironmentVariable.read?) }

/-- The JSON form of the configuration of a container. -/
def toJson (config : ContainerConfig) : Json :=
  .object [("env", .list (config.env.map EnvironmentVariable.toJson))]

end ContainerConfig

namespace Resources

/-- Read the resources of a container. -/
def read? [Readable Node] (node : Node) : Option Resources := do
  let record ← Record.ofNode? node
  some
    { cpuCoresRequest := ← record.withDefault "cpu_cores_request" 0.0 real?
      cpuCoresLimit := ← record.withDefault "cpu_cores_limit" 0.0 real?
      memoryMbRequest := ← record.withDefault "memory_mb_request" 0.0 real?
      memoryMbLimit := ← record.withDefault "memory_mb_limit" 0.0 real? }

/-- The JSON form of the resources of a container. -/
def toJson (resources : Resources) : Json :=
  .object
    [("cpu_cores_request", .ofNumber resources.cpuCoresRequest),
      ("cpu_cores_limit", .ofNumber resources.cpuCoresLimit),
      ("memory_mb_request", .ofNumber resources.memoryMbRequest),
      ("memory_mb_limit", .ofNumber resources.memoryMbLimit)]

end Resources

namespace Volume

/-- Read a volume. -/
def read? [Readable Node] (node : Node) : Option Volume := do
  let record ← Record.ofNode? node
  some
    { name := ← record.required "name" text?
      source := ← record.withDefault "source" "" text?
      destination := ← record.withDefault "destination" "" text?
      readOnly := ← record.withDefault "read_only" false boolean?
      volumeType := ← record.withDefault "volume_type" "" text? }

/-- The JSON form of a volume. -/
def toJson (volume : Volume) : Json :=
  .object
    [("name", .text volume.name),
      ("source", .text volume.source),
      ("destination", .text volume.destination),
      ("read_only", .boolean volume.readOnly),
      ("volume_type", .text volume.volumeType)]

end Volume

namespace Container

/-- Read a container. -/
def read? [Readable Node] (node : Node) : Option Container := do
  let record ← Record.ofNode? node
  some
    { name := ← record.required "name" text?
      image := ← record.withDefault "image" {} ContainerImage.read?
      securityContext := ← record.withDefault "security_context" {} SecurityContext.read?
      config := ← record.withDefault "config" {} ContainerConfig.read?
      resources := ← record.withDefault "resources" {} Resources.read?
      volumes := ← record.withDefault "volumes" [] (listOf? Volume.read?) }

/-- The JSON form of a container. -/
def toJson (container : Container) : Json :=
  .object
    [("name", .text container.name),
      ("image", container.image.toJson),
      ("security_context", container.securityContext.toJson),
      ("config", container.config.toJson),
      ("resources", container.resources.toJson),
      ("volumes", .list (container.volumes.map Volume.toJson))]

end Container

namespace PortConfig

/-- Read a port. -/
def read? [Readable Node] (node : Node) : Option PortConfig := do
  let record ← Record.ofNode? node
  some
    { name := ← record.withDefault "name" "" text?
      containerPort := ← record.required "container_port" word?
      protocol := ← record.withDefault "protocol" "TCP" text?
      exposure := ← record.withDefault "exposure" .unset ExposureLevel.read? }

/-- The JSON form of a port. -/
def toJson (port : PortConfig) : Json :=
  .object
    [("name", .text port.name),
      ("container_port", .integer port.containerPort),
      ("protocol", .text port.protocol),
      ("exposure", .text port.exposure.name)]

end PortConfig

namespace Deployment

/-- Read a deployment. -/
def read? (node : Json) : Option Deployment := do
  let record ← Record.ofNode? node
  some
    { id := ← record.required "id" text?
      name := ← record.required "name" text?
      namespaceName := ← record.required "namespace" text?
      clusterId := ← record.required "cluster_id" text?
      clusterName := ← record.withDefault "cluster_name" "" text?
      labels := ← record.withDefault "labels" [] Json.textTable?
      annotations := ← record.withDefault "annotations" [] Json.textTable?
      serviceAccount := ← record.withDefault "service_account" "" text?
      containers := ← record.withDefault "containers" [] (listOf? Container.read?)
      ports := ← record.withDefault "ports" [] (listOf? PortConfig.read?) }

/-- The JSON form of a deployment. -/
def toJson (deployment : Deployment) : Json :=
  .object
    [("id", .text deployment.id),
      ("name", .text deployment.name),
      ("namespace", .text deployment.namespaceName),
      ("cluster_id", .text deployment.clusterId),
      ("cluster_name", .text deployment.clusterName),
      ("labels", .ofTextTable deployment.labels),
      ("annotations", .ofTextTable deployment.annotations),
      ("service_account", .text deployment.serviceAccount),
      ("containers", .list (deployment.containers.map Container.toJson)),
      ("ports", .list (deployment.ports.map PortConfig.toJson))]

end Deployment
end WorkloadPolicy
