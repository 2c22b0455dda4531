import WorkloadPolicy.Policy.Document

/-!
# Reading and writing policy documents

Policies are read from trees of any readable format and written as JSON.
-/

namespace WorkloadPolicy

open Readable

namespace KeyValuePolicy

/-- Read a constraint on the entries of a map. -/
def read? [Readable Node] (node : Node) : Option KeyValuePolicy := do
  let record ← Record.ofNode? node
  some
    { key := ← record.optional "key" text?
      value := ← record.optional "value" text? }

/-- The JSON form of a constraint on the entries of a map. -/
def toJson (policy : KeyValuePolicy) : Json :=
  .object [("key", .ofText? policy.key), ("value", .ofText? policy.value)]

end KeyValuePolicy

/-- The JSON form of something optional. -/
def optionalToJson (toJson : α → Json) : Option α → Json
  | some value => toJson value
  | none => .null

namespace Scope

/-- Read an entry of a scope. -/
def read? [Readable Node] (node : Node) : Option Scope := do
  let record ← Record.ofNode? node
  some
    { cluster := ← record.optional "cluster" text?
      namespaceName := ← record.optional "namespace" text?
      label := ← record.optional "label" KeyValuePolicy.read? }

/-- The JSON form of an entry of a scope. -/
def toJson (scope : Scope) : Json :=
  .object
    [("cluster", .ofText? scope.cluster),
      ("namespace", .ofText? scope.namespaceName),
      ("label", optionalToJson KeyValuePolicy.toJson scope.label)]

end Scope

namespace ImageNamePolicy

/-- Read a constraint on the name of an image. -/
def read? [Readable Node] (node : Node) : Option ImageNamePolicy := do
  let record ← Record.ofNode? node
  some
    { registry := ← record.optional "registry" text?
      remote := ← record.optional "remote" text?
      tag := ← record.optional "tag" text? }

/-- The JSON form of a constraint on the name of an image. -/
def toJson (policy : ImageNamePolicy) : Json :=
  .object
    [("registry", .ofText? policy.registry),
      ("remote", .ofText? policy.remote),
      ("tag", .ofText? policy.tag)]

end ImageNamePolicy

namespace DockerfileLineRule

/-- Read a constraint on instructions. -/
def read? [Readable Node] (node : Node) : Option DockerfileLineRule := do
  let record ← Record.ofNode? node
  some
    { instruction := ← record.required "instruction" text?
      value := ← record.withDefault "value" "" text? }

/-- The JSON form of a constraint on instructions. -/
def toJson (rule : DockerfileLineRule) : Json :=
  .object [("instruction", .text rule.instruction), ("value", .text rule.value)]

end DockerfileLineRule

namespace NumericalPolicy

/-- Read a comparison with a threshold. -/
def read? [Readable Node] (node : Node) : Option NumericalPolicy := do
  let record ← Record.ofNode? node
  some
    { comparator := ← record.required "op" Comparator.read?
      value := ← record.required "value" real? }

/-- The JSON form of a comparison with a threshold. -/
def toJson (policy : NumericalPolicy) : Json :=
  .object [("op", .text policy.comparator.name), ("value", .ofNumber policy.value)]

end NumericalPolicy

namespace ComponentPolicy

/-- Read a constraint on components. -/
def read? [Readable Node] (node : Node) : Option ComponentPolicy := do
  let record ← Record.ofNode? node
  some
    { name := ← record.optional "name" text?
      version := ← record.optional "version" text? }

/-- The JSON form of a constraint on components. -/
def toJson (policy : ComponentPolicy) : Json :=
  .object [("name", .ofText? policy.name), ("version", .ofText? policy.version)]

end ComponentPolicy

namespace VolumePolicy

/-- Read a constraint on volumes. -/
def read? [Readable Node] (node : Node) : Option VolumePolicy := do
  let record ← Record.ofNode? node
  some
    { name := ← record.optional "name" text?
      source := ← record.optional "source" text?
      destination := ← record.optional "destination" text?
      readOnly := ← record.optional "read_only" boolean?
      volumeType := ← record.optional "volume_type" text? }

/-- The JSON form of a constraint on volumes. -/
def toJson (policy : VolumePolicy) : Json :=
  .object
    [("name", .ofText? policy.name),
      ("source", .ofText? policy.source),
      ("destination", .ofText? policy.destination),
      ("read_only", .ofBoolean? policy.readOnly),
      ("volume_type", .ofText? policy.volumeType)]

end VolumePolicy

namespace PortPolicy

/-- Read a constraint on ports. -/
def read? [Readable Node] (node : Node) : Option PortPolicy := do
  let record ← Record.ofNode? node
  some
    { port := ← record.optional "port" word?
      protocol := ← record.optional "protocol" text? }

/-- The JSON form of a constraint on ports. -/
def toJson (policy : PortPolicy) : Json :=
  .object
    [("port", .ofInteger? (policy.port.map fun port => (port : Int))),
      ("protocol", .ofText? policy.protocol)]

end PortPolicy

namespace ProcessPolicy

/-- Read a constraint on processes. -/
def read? [Readable Node] (node : Node) : Option ProcessPolicy := do
  let record ← Record.ofNode? node
  some
    { name := ← record.optional "name" text?
      args := ← record.optional "args" text? }

/-- The JSON form of a constraint on processes. -/
def toJson (policy : ProcessPolicy) : Json :=
  .object [("name", .ofText? policy.name), ("args", .ofText? policy.args)]

end ProcessPolicy

namespace HostMountPolicy

/-- Read a constraint on mounts of host paths. -/
def read? [Readable Node] (node : Node) : Option HostMountPolicy := do
  let record ← Record.ofNode? node
  some { readOnly := ← record.optional "read_only" boolean? }

/-- The JSON form of a constraint on mounts of host paths. -/
def toJson (policy : HostMountPolicy) : Json :=
  .object [("read_only", .ofBoolean? policy.readOnly)]

end HostMountPolicy

namespace ResourcePolicy

/-- Read constraints on resources. -/
def read? [Readable Node] (node : Node) : Option ResourcePolicy := do
  let record ← Record.ofNode? node
  some
    { cpuRequest := ← record.optional "cpu_resource_request" NumericalPolicy.read?
      cpuLimit := ← record.optional "cpu_resource_limit" NumericalPolicy.read?
      memoryRequest := ← record.optional "memory_resource_request" NumericalPolicy.read?
      memoryLimit := ← record.optional "memory_resource_limit" NumericalPolicy.read? }

/-- The JSON form of constraints on resources. -/
def toJson (policy : ResourcePolicy) : Json :=
  .object
    [("cpu_resource_request", optionalToJson NumericalPolicy.toJson policy.cpuRequest),
      ("cpu_resource_limit", optionalToJson NumericalPolicy.toJson policy.cpuLimit),
      ("memory_resource_request", optionalToJson NumericalPolicy.toJson policy.memoryRequest),
      ("memory_resource_limit", optionalToJson NumericalPolicy.toJson policy.memoryLimit)]

end ResourcePolicy

namespace PermissionPolicy

/-- Read a permission threshold. -/
def read? [Readable Node] (node : Node) : Option PermissionPolicy := do
  let record ← Record.ofNode? node
  some { level := ← record.required "permission_level" Access.PermissionLevel.read? }

/-- The JSON form of a permission threshold. -/
def toJson (policy : PermissionPolicy) : Json :=
  .object [("permission_level", policy.level.toJson)]

end PermissionPolicy

namespace PolicyFields

/-- Read the constraints of a policy. -/
def read? [Readable Node] (node : Node) : Option PolicyFields := do
  let record ← Record.ofNode? node
  some
    { imageName := ← record.optional "image_name" ImageNamePolicy.read?
      imageAgeDays := ← record.optional "image_age_days" integer?
      lineRule := ← record.optional "line_rule" DockerfileLineRule.read?
      cve := ← record.optional "cve" text?
      cvss := ← record.optional "cvss" NumericalPolicy.read?
      fixedBy := ← record.optional "fixed_by" text?
      component := ← record.optional "component" ComponentPolicy.read?
      scanAgeDays := ← record.optional "scan_age_days" integer?
      noScanExists := ← record.optional "no_scan_exists" boolean?
      env := ← record.optional "env" KeyValuePolicy.read?
      volume := ← record.optional "volume_policy" VolumePolicy.read?
      port := ← record.optional "port_policy" PortPolicy.read?
      portExposure := ← record.withDefault "port_exposure" [] (listOf? ExposureLevel.read?)
      labelRequired := ← record.optional "required_label" KeyValuePolicy.read?
      annotationRequired := ← record.optional "required_annotation" KeyValuePolicy.read?
      annotationDisallowed := ← record.optional "disallowed_annotation" KeyValuePolicy.read?
      imageLabelRequired := ← record.optional "required_image_label" KeyValuePolicy.read?
      imageLabelDisallowed := ← record.optional "disallowed_image_label" KeyValuePolicy.read?
      privileged := ← record.optional "privileged" boolean?
      process := ← record.optional "process_policy" ProcessPolicy.read?
      hostMount := ← record.optional "host_mount_policy" HostMountPolicy.read?
      readOnlyRootFs := ← record.optional "read_only_root_fs" boolean?
      addCapabilities := ← record.withDefault "add_capabilities" [] (listOf? text?)
      dropCapabilities := ← record.withDefault "drop_capabilities" [] (listOf? text?)
      resources := ← record.optional "container_resource_policy" ResourcePolicy.read?
      permission := ← record.optional "permission_policy" PermissionPolicy.read? }

/-- The JSON form of the constraints of a policy. -/
def toJson (fields : PolicyFields) : Json :=
  let entries := optionalToJson KeyValuePolicy.toJson
  .object
    [("image_name", optionalToJson ImageNamePolicy.toJson fields.imageName),
      ("image_age_days", .ofInteger? fields.imageAgeDays),
      ("line_rule", optionalToJson DockerfileLineRule.toJson fields.lineRule),
      ("cve", .ofText? fields.cve),
      ("cvss", optionalToJson NumericalPolicy.toJson fields.cvss),
      ("fixed_by", .ofText? fields.fixedBy),
      ("component", optionalToJson ComponentPolicy.toJson fields.component),
      ("scan_age_days", .ofInteger? fields.scanAgeDays),
      ("no_scan_exists", .ofBoolean? fields.noScanExists),
      ("env", entries fields.env),
      ("volume_policy", optionalToJson VolumePolicy.toJson fields.volume),
      ("port_policy", optionalToJson PortPolicy.toJson fields.port),
      ("port_exposure", .ofTexts (fields.portExposure.map ExposureLevel.name)),
      ("required_label", entries fields.labelRequired),
      ("required_annotation", entries fields.annotationRequired),
      ("disallowed_annotation", entries fields.annotationDisallowed),
      ("required_image_label", entries fields.imageLabelRequired),
      ("disallowed_image_label", entries fields.imageLabelDisallowed),
      ("privileged", .ofBoolean? fields.privileged),
      ("process_policy", optionalToJson ProcessPolicy.toJson fields.process),
      ("host_mount_policy", optionalToJson HostMountPolicy.toJson fields.hostMount),
      ("read_only_root_fs", .ofBoolean? fields.readOnlyRootFs),
      ("add_capabilities", .ofTexts fields.addCapabilities),
      ("drop_capabilities", .ofTexts fields.dropCapabilities),
      ("container_resource_policy", optionalToJson ResourcePolicy.toJson fields.resources),
      ("permission_policy", optionalToJson PermissionPolicy.toJson fields.permission)]

end PolicyFields

namespace Policy

/-- Read a policy. -/
def read? [Readable Node] (node : Node) : Option Policy := do
  let record ← Record.ofNode? node
  some
    { id := ← record.withDefault "id" "" text?
      name := ← record.withDefault "name" "" text?
      description := ← record.withDefault "description" "" text?
      severity := ← record.withDefault "severity" .low Severity.read?
      scope := ← record.withDefault "scope" [] (listOf? Scope.read?)
      fields := ← record.optional "fields" PolicyFields.read? }

/-- The JSON form of a policy. -/
def toJson (policy : Policy) : Json :=
  .object
    [("id", .text policy.id),
      ("name", .text policy.name),
      ("description", .text policy.description),
      ("severity", .text policy.severity.name),
      ("scope", .list (policy.scope.map Scope.toJson)),
      ("fields", optionalToJson PolicyFields.toJson policy.fields)]

end Policy
end WorkloadPolicy
