import WorkloadPolicy.Field.Label

/-!
# The field registry

The registry says for each field label where its values lie in a flattened
entity, whether they are stored, what they are and which kind of entity owns
them.  Only stored fields can back a message, so whoever depends on a field
requires it to be registered and stored.
-/

namespace WorkloadPolicy

/-- Where a field lives and how it may be used. -/
structure FieldMetadata where
  /-- The attribute path in the flattened entity. -/
  path : String
  /-- Whether matched values can be shown in messages. -/
  stored : Bool
  dataType : DataType
  kind : EntityKind
  deriving DecidableEq, Repr, Inhabited

/-- Why a field cannot be used. -/
inductive FieldFault where
  | unknown
  | unstored
  deriving DecidableEq, Repr

/-- The metadata of each registered field. -/
structure FieldRegistry where
  lookup : FieldLabel → Option FieldMetadata

namespace FieldRegistry

/-- A registry without fields. -/
def empty : FieldRegistry := ⟨fun _ => none⟩

/-- Register a field, in place of what was registered under its label. -/
def insert
    (registry : FieldRegistry)
    (label : FieldLabel)
    (metadata : FieldMetadata) : FieldRegistry :=
  ⟨fun other => if other = label then some metadata else registry.lookup other⟩

/-- Drop a field. -/
def erase (registry : FieldRegistry) (label : FieldLabel) : FieldRegistry :=
  ⟨fun other => if other = label then none else registry.lookup other⟩

/-- The registered fields in the order of their labels. -/
def entries (registry : FieldRegistry) : List (FieldLabel × FieldMetadata) :=
  FieldLabel.all.filterMap fun label =>
    (registry.lookup label).map fun metadata => (label, metadata)

/-- The count of registered fields. -/
def size (registry : FieldRegistry) : Nat :=
  registry.entries.length

/-- The metadata of a field that something depends on. -/
def require
    (registry : FieldRegistry)
    (label : FieldLabel) : Except FieldFault FieldMetadata :=
  match registry.lookup label with
  | none => .error .unknown
  | some metadata => if metadata.stored then .ok metadata else .error .unstored

@[simp] theorem lookup_insert
    (registry : FieldRegistry)
    (label other : FieldLabel)
    (metadata : FieldMetadata) :
    (registry.insert label metadata).lookup other =
      if other = label then some metadata else registry.lookup other := rfl

@[simp] theorem lookup_erase
    (registry : FieldRegistry)
    (label other : FieldLabel) :
    (registry.erase label).lookup other =
      if other = label then none else registry.lookup other := rfl

end FieldRegistry

namespace FieldLabel

/-- The attribute path, type and kind of each field in the standard registry. -/
def standard : FieldLabel → String × DataType × EntityKind
  | clusterId => ("deployment.cluster_id", .string, .deployment)
  | namespaceName => ("deployment.namespace", .string, .deployment)
  | serviceAccount => ("deployment.service_account", .string, .deployment)
  | deploymentLabels => ("deployment.labels", .map, .deployment)
  | deploymentAnnotations => ("deployment.annotations", .map, .deployment)
  | environmentVariable => ("deployment.containers.config.env", .map, .deployment)
  | volumeName => ("deployment.containers.volumes.name", .string, .deployment)
  | volumeSource => ("deployment.containers.volumes.source", .string, .deployment)
  | volumeDestination => ("deployment.containers.volumes.destination", .string, .deployment)
  | volumeReadOnly => ("deployment.containers.volumes.read_only", .boolean, .deployment)
  | volumeType => ("deployment.containers.volumes.type", .string, .deployment)
  | port => ("deployment.ports.container_port", .numeric, .deployment)
  | protocol => ("deployment.ports.protocol", .string, .deployment)
  | portExposure => ("deployment.ports.exposure", .string, .deployment)
  | privileged =>
      ("deployment.containers.security_context.privileged", .boolean, .deployment)
  | readOnlyRootFilesystem =>
      ("deployment.containers.security_context.read_only_root_filesystem",
        .boolean, .deployment)
  | addCapabilities =>
      ("deployment.containers.security_context.add_capabilities", .string, .deployment)
  | dropCapabilities =>
      ("deployment.containers.security_context.drop_capabilities", .string, .deployment)
  | cpuCoresRequest =>
      ("deployment.containers.resources.cpu_cores_request", .numeric, .deployment)
  | cpuCoresLimit =>
      ("deployment.containers.resources.cpu_cores_limit", .numeric, .deployment)
  | memoryRequest =>
      ("deployment.containers.resources.memory_mb_request", .numeric, .deployment)
  | memoryLimit =>
      ("deployment.containers.resources.memory_mb_limit", .numeric, .deployment)
  | imageRegistry => ("image.name.registry", .string, .image)
  | imageRemote => ("image.name.remote", .string, .image)
  | imageTag => ("image.name.tag", .string, .image)
  | imageCreatedTime => ("image.metadata.created", .dateTime, .image)
  | imageLabels => ("image.metadata.labels", .map, .image)
  | dockerfileInstruction => ("image.metadata.layers.instruction", .string, .image)
  | dockerfileValue => ("image.metadata.layers.value", .string, .image)
  | component => ("image.scan.components.name", .string, .image)
  | componentVersion => ("image.scan.components.version", .string, .image)
  | cve => ("image.scan.components.vulns.cve", .string, .image)
  | cveLink => ("image.scan.components.vulns.link", .string, .image)
  | cvss => ("image.scan.components.vulns.cvss", .numeric, .image)
  | fixedBy => ("image.scan.components.vulns.fixed_by", .string, .image)
  | imageScanTime => ("image.scan.scan_time", .dateTime, .image)
  | processName => ("process.signal.name", .string, .process)
  | processArguments => ("process.signal.args", .string, .process)

/-- The standard metadata of a field. -/
def metadata (label : FieldLabel) : FieldMetadata :=
  ⟨label.standard.1, true, label.standard.2.1, label.standard.2.2⟩

end FieldLabel

namespace FieldRegistry

/-- The registry of every field, each with its standard metadata. -/
def standard : FieldRegistry := ⟨fun label => some label.metadata⟩

end FieldRegistry

open Readable

namespace FieldMetadata

/-- Read the metadata of a field. -/
def read? [Readable Node] (node : Node) : Option FieldMetadata := do
  let record ← Record.ofNode? node
  some
    { path := ← record.required "path" text?
      stored := ← record.required "stored" boolean?
      dataType := ← record.required "data_type" DataType.read?
      kind := ← record.required "kind" EntityKind.read? }

/-- The JSON form of the metadata of a field. -/
def toJson (metadata : FieldMetadata) : Json :=
  .object
    [("path", .text metadata.path),
      ("stored", .boolean metadata.stored),
      ("data_type", .text metadata.dataType.name),
      ("kind", .text metadata.kind.name)]

end FieldMetadata

namespace FieldRegistry

/-- Read the fields of a registry.  A later field replaces an earlier one with
the same label. -/
def readFields? [Readable Node] (node : Node) : Option FieldRegistry := do
  let fields ← (← entries? node).mapM fun entry => do
    let label ← FieldLabel.read? entry.1
    let metadata ← FieldMetadata.read? entry.2
    some (label, metadata)
  some (fields.foldl (fun registry field => registry.insert field.1 field.2) empty)

/-- Read a registry. -/
def read? [Readable Node] (node : Node) : Option FieldRegistry := do
  (← Record.ofNode? node).required "fields" readFields?

/-- The JSON form of a registry. -/
def toJson (registry : FieldRegistry) : Json :=
  .object
    [("fields",
      .object (registry.entries.map fun entry => (entry.1.name, entry.2.toJson)))]

end FieldRegistry
end WorkloadPolicy
