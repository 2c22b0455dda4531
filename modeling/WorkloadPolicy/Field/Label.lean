import WorkloadPolicy.Record

/-!
# Field labels

A field label names something a policy may test.  It has a name in documents
and a readable text in error messages.
-/

namespace WorkloadPolicy

/-- The class of entity that a field belongs to. -/
inductive EntityKind where
  | deployment
  | image
  | process
  deriving DecidableEq, Repr, Inhabited

/-- What the values of a field are. -/
inductive DataType where
  | string
  | boolean
  | numeric
  | dateTime
  /-- Entries of a key and a value. -/
  | map
  deriving DecidableEq, Repr, Inhabited

/-- Every field that a policy may test. -/
inductive FieldLabel where
  | clusterId
  | namespaceName
  | serviceAccount
  | deploymentLabels
  | deploymentAnnotations
  | environmentVariable
  | volumeName
  | volumeSource
  | volumeDestination
  | volumeReadOnly
  | volumeType
  | port
  | protocol
  | portExposure
  | privileged
  | readOnlyRootFilesystem
  | addCapabilities
  | dropCapabilities
  | cpuCoresRequest
  | cpuCoresLimit
  | memoryRequest
  | memoryLimit
  | imageRegistry
  | imageRemote
  | imageTag
  | imageCreatedTime
  | imageLabels
  | dockerfileInstruction
  | dockerfileValue
  | component
  | componentVersion
  | cve
  | cveLink
  | cvss
  | fixedBy
  | imageScanTime
  | processName
  | processArguments
  deriving DecidableEq, Repr, Inhabited

namespace EntityKind

/-- All kinds. -/
def all : List EntityKind := [deployment, image, process]

/-- The name of a kind in documents. -/
def name : EntityKind → String
  | deployment => "deployment"
  | image => "image"
  | process => "process"

/-- Read a kind by its name. -/
def read? [Readable Node] (node : Node) : Option EntityKind :=
  Readable.variantOf? (all.map fun kind => (kind.name, kind)) node

end EntityKind

namespace DataType

/-- All types. -/
def all : List DataType := [string, boolean, numeric, dateTime, map]

/-- The name of a type in documents. -/
def name : DataType → String
  | string => "string"
  | boolean => "boolean"
  | numeric => "numeric"
  | dateTime => "date_time"
  | map => "map"

/-- Read a type by its name. -/
def read? [Readable Node] (node : Node) : Option DataType :=
  Readable.variantOf? (all.map fun dataType => (dataType.name, dataType)) node

end DataType

namespace FieldLabel

/-- All labels. -/
def all : List FieldLabel :=
  [clusterId, namespaceName, serviceAccount, deploymentLabels, deploymentAnnotations,
    environmentVariable, volumeName, volumeSource, volumeDestination, volumeReadOnly,
    volumeType, port, protocol, portExposure, privileged, readOnlyRootFilesystem,
    addCapabilities, dropCapabilities, cpuCoresRequest, cpuCoresLimit, memoryRequest,
    memoryLimit, imageRegistry, imageRemote, imageTag, imageCreatedTime, imageLabels,
    dockerfileInstruction, dockerfileValue, component, componentVersion, cve, cveLink,
    cvss, fixedBy, imageScanTime, processName, processArguments]

/-- The name of a label in documents. -/
def name : FieldLabel → String
  | clusterId => "cluster_id"
  | namespaceName => "namespace"
  | serviceAccount => "service_account"
  | deploymentLabels => "deployment_label"
  | deploymentAnnotations => "deployment_annotation"
  | environmentVariable => "environment_variable"
  | volumeName => "volume_name"
  | volumeSource => "volume_source"
  | volumeDestination => "volume_destination"
  | volumeReadOnly => "volume_read_only"
  | volumeType => "volume_type"
  | port => "port"
  | protocol => "protocol"
  | portExposure => "port_exposure"
  | privileged => "privileged"
  | readOnlyRootFilesystem => "read_only_root_filesystem"
  | addCapabilities => "add_capabilities"
  | dropCapabilities => "drop_capabilities"
  | cpuCoresRequest => "cpu_cores_request"
  | cpuCoresLimit => "cpu_cores_limit"
  | memoryRequest => "memory_request"
  | memoryLimit => "memory_limit"
  | imageRegistry => "image_registry"
  | imageRemote => "image_remote"
  | imageTag => "image_tag"
  | imageCreatedTime => "image_created_time"
  | imageLabels => "image_label"
  | dockerfileInstruction => "dockerfile_instruction"
  | dockerfileValue => "dockerfile_value"
  | component => "component"
  | componentVersion => "component_version"
  | cve => "cve"
  | cveLink => "cve_link"
  | cvss => "cvss"
  | fixedBy => "fixed_by"
  | imageScanTime => "image_scan_time"
  | processName => "process_name"
  | processArguments => "process_arguments"

/-- The text of a label in messages. -/
def text : FieldLabel → String
  | clusterId => "Cluster ID"
  | namespaceName => "Namespace"
  | serviceAccount => "Service Account"
  | deploymentLabels => "Label"
  | deploymentAnnotations => "Annotation"
  | environmentVariable => "Environment Variable"
  | volumeName => "Volume Name"
  | volumeSource => "Volume Source"
  | volumeDestination => "Volume Destination"
  | volumeReadOnly => "Volume ReadOnly"
  | volumeType => "Volume Type"
  | port => "Port"
  | protocol => "Protocol"
  | portExposure => "Port Exposure Method"
  | privileged => "Privileged"
  | readOnlyRootFilesystem => "Read-Only Root Filesystem"
  | addCapabilities => "Add Capabilities"
  | dropCapabilities => "Drop Capabilities"
  | cpuCoresRequest => "CPU Cores Request"
  | cpuCoresLimit => "CPU Cores Limit"
  | memoryRequest => "Memory Request (MB)"
  | memoryLimit => "Memory Limit (MB)"
  | imageRegistry => "Image Registry"
  | imageRemote => "Image Remote"
  | imageTag => "Image Tag"
  | imageCreatedTime => "Image Created Time"
  | imageLabels => "Image Label"
  | dockerfileInstruction => "Dockerfile Instruction Keyword"
  | dockerfileValue => "Dockerfile Instruction Value"
  | component => "Component"
  | componentVersion => "Component Version"
  | cve => "CVE"
  | cveLink => "CVE Link"
  | cvss => "CVSS"
  | fixedBy => "Fixed By"
  | imageScanTime => "Image Scan Time"
  | processName => "Process Name"
  | processArguments => "Process Arguments"

/-- Read a label by its name. -/
def read? [Readable Node] (node : Node) : Option FieldLabel :=
  Readable.variantOf? (all.map fun label => (label.name, label)) node

theorem mem_all (label : FieldLabel) : label ∈ all := by
  cases label <;> decide

end FieldLabel
end WorkloadPolicy
