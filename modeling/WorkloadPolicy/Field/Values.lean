import WorkloadPolicy.Decimal.Written
import WorkloadPolicy.Entity.Deployment
import WorkloadPolicy.Entity.Process
import WorkloadPolicy.Field.Label

/-!
# Flattened entities

A flattened entity lists text values under attribute paths in document order.
Repeated parts add one value per element under each of their paths, so that
the values of sibling paths belong together by position.  A container adds its
dropped capabilities as one value, joined by commas.  Entries of maps are
written with an equals sign between key and value.
-/

namespace WorkloadPolicy

/-- Text values under attribute paths, in document order. -/
structure FieldValues where
  entries : List (String × String) := []
  deriving DecidableEq, Repr, Inhabited

namespace FieldValues

/-- The values under a path. -/
def get (values : FieldValues) (path : String) : List String :=
  (values.entries.filter (·.1 == path)).map (·.2)

/-- Add a value under a path. -/
def push (values : FieldValues) (path value : String) : FieldValues :=
  ⟨values.entries ++ [(path, value)]⟩

/-- The values of two entities together. -/
def append (left right : FieldValues) : FieldValues :=
  ⟨left.entries ++ right.entries⟩

instance : Append FieldValues := ⟨append⟩

@[simp] theorem get_empty (path : String) : get {} path = [] := rfl

@[simp] theorem get_append (left right : FieldValues) (path : String) :
    (left ++ right).get path = left.get path ++ right.get path := by
  show (append left right).get path = _
  simp [append, get]

@[simp] theorem append_empty (values : FieldValues) : values ++ ({} : FieldValues) = values := by
  show append values {} = values
  simp [append]

@[simp] theorem get_push (values : FieldValues) (path value other : String) :
    (values.push path value).get other =
      values.get other ++ if path = other then [value] else [] := by
  by_cases same : path = other <;> simp [push, get, same]

end FieldValues

/-- The text of a truth value. -/
def booleanText (value : Bool) : String :=
  if value then "true" else "false"

/-- A key and a value as one text. -/
def mapEntry (entry : String × String) : String :=
  entry.1 ++ "=" ++ entry.2

/-- The values that a volume adds. -/
def Volume.values (volume : Volume) : List (String × String) :=
  [("deployment.containers.volumes.name", volume.name),
    ("deployment.containers.volumes.source", volume.source),
    ("deployment.containers.volumes.destination", volume.destination),
    ("deployment.containers.volumes.read_only", booleanText volume.readOnly),
    ("deployment.containers.volumes.type", volume.volumeType)]

/-- The values that the rights of a container add. -/
def SecurityContext.values (rights : SecurityContext) : List (String × String) :=
  [("deployment.containers.security_context.privileged", booleanText rights.privileged),
    ("deployment.containers.security_context.read_only_root_filesystem",
      booleanText rights.readOnlyRootFilesystem)] ++
  (rights.addCapabilities.map fun capability =>
    ("deployment.containers.security_context.add_capabilities", capability)) ++
  [("deployment.containers.security_context.drop_capabilities",
    String.intercalate "," rights.dropCapabilities)]

/-- The values that the resources of a container add. -/
def Resources.values (resources : Resources) : List (String × String) :=
  [("deployment.containers.resources.cpu_cores_request",
      Decimal.plain resources.cpuCoresRequest),
    ("deployment.containers.resources.cpu_cores_limit",
      Decimal.plain resources.cpuCoresLimit),
    ("deployment.containers.resources.memory_mb_request",
      Decimal.plain resources.memoryMbRequest),
    ("deployment.containers.resources.memory_mb_limit",
      Decimal.plain resources.memoryMbLimit)]

/-- The values that a container adds. -/
def Container.values (container : Container) : List (String × String) :=
  container.securityContext.values ++
    (container.config.env.map fun entry =>
      ("deployment.containers.config.env", mapEntry (entry.key, entry.value))) ++
    container.resources.values ++
    container.volumes.flatMap Volume.values

/-- The values that a port adds. -/
def PortConfig.values (port : PortConfig) : List (String × String) :=
  [("deployment.ports.container_port", toString port.containerPort),
    ("deployment.ports.protocol", port.protocol),
    ("deployment.ports.exposure", port.exposure.name)]

/-- The flattened deployment.  An empty service account adds no value. -/
def Deployment.fieldValues (deployment : Deployment) : FieldValues :=
  ⟨[("deployment.id", deployment.id),
      ("deployment.name", deployment.name),
      ("deployment.namespace", deployment.namespaceName),
      ("deployment.cluster_id", deployment.clusterId)] ++
    (if deployment.serviceAccount.isEmpty then []
      else [("deployment.service_account", deployment.serviceAccount)]) ++
    (deployment.labels.map fun entry => ("deployment.labels", mapEntry entry)) ++
    (deployment.annotations.map fun entry => ("deployment.annotations", mapEntry entry)) ++
    deployment.containers.flatMap Container.values ++
    deployment.ports.flatMap PortConfig.values⟩

/-- The value of an optional timestamp. -/
def instantValues (path : String) : Option Calendar.Instant → List (String × String)
  | some instant => [(path, instant.text)]
  | none => []

/-- The values that a layer adds. -/
def ImageLayer.values (layer : ImageLayer) : List (String × String) :=
  [("image.metadata.layers.instruction", layer.instruction),
    ("image.metadata.layers.value", layer.value)]

/-- The values that build metadata add. -/
def ImageMetadata.values (metadata : ImageMetadata) : List (String × String) :=
  instantValues "image.metadata.created" metadata.created ++
    metadata.layers.flatMap ImageLayer.values ++
    metadata.labels.map fun entry => ("image.metadata.labels", mapEntry entry)

/-- The values that a vulnerability adds. -/
def Vulnerability.values (vulnerability : Vulnerability) : List (String × String) :=
  [("image.scan.components.vulns.cve", vulnerability.cve),
    ("image.scan.components.vulns.cvss", Decimal.plain32 vulnerability.cvss),
    ("image.scan.components.vulns.link", vulnerability.link),
    ("image.scan.components.vulns.fixed_by", vulnerability.fixedBy.getD "")]

/-- The values that a component adds. -/
def Component.values (component : Component) : List (String × String) :=
  [("image.scan.components.name", component.name),
    ("image.scan.components.version", component.version)] ++
  component.vulnerabilities.flatMap Vulnerability.values

/-- The values that a scan adds. -/
def ImageScan.values (scan : ImageScan) : List (String × String) :=
  instantValues "image.scan.scan_time" scan.scanTime ++
    scan.components.flatMap Component.values

/-- The flattened image. -/
def Image.fieldValues (image : Image) : FieldValues :=
  ⟨[("image.id", image.id),
      ("image.name.registry", image.name.registry),
      ("image.name.remote", image.name.remote),
      ("image.name.tag", image.name.tag)] ++
    (image.metadata.map ImageMetadata.values).getD [] ++
    (image.scan.map ImageScan.values).getD []⟩

/-- The flattened process event. -/
def ProcessIndicator.fieldValues (process : ProcessIndicator) : FieldValues :=
  ⟨[("process.deployment_id", process.deploymentId),
      ("process.container_name", process.containerName),
      ("process.signal.name", process.signal.name),
      ("process.signal.args", process.signal.args),
      ("process.signal.exec_file_path", process.signal.execFilePath),
      ("process.signal.uid", toString process.signal.uid)]⟩

end WorkloadPolicy
