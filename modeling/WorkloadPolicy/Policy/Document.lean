import WorkloadPolicy.Access.Level
import WorkloadPolicy.Entity.Deployment
import WorkloadPolicy.Policy.Comparator

/-!
# Policy documents

A policy has a name, says where it applies, and sets constraints on any number
of field families.  A family that is not set constrains nothing.
-/

namespace WorkloadPolicy

/-- How grave a violation is. -/
inductive Severity where
  | low
  | medium
  | high
  | critical
  deriving DecidableEq, Repr, Inhabited

/-- A constraint on the entries of a map.  Both parts are patterns. -/
structure KeyValuePolicy where
  key : Option String := none
  value : Option String := none
  deriving DecidableEq, Repr, Inhabited

/-- One entry of a scope.  Parts that are not set admit everything. -/
structure Scope where
  /-- The identifier of a cluster. -/
  cluster : Option String := none
  namespaceName : Option String := none
  label : Option KeyValuePolicy := none
  deriving DecidableEq, Repr, Inhabited

/-- A constraint on the name of an image. -/
structure ImageNamePolicy where
  registry : Option String := none
  /-- Looked for anywhere in the remote. -/
  remote : Option String := none
  tag : Option String := none
  deriving DecidableEq, Repr, Inhabited

/-- A constraint on the instructions an image was built from. -/
structure DockerfileLineRule where
  instruction : String
  value : String := ""
  deriving DecidableEq, Repr, Inhabited

/-- A comparison with a threshold. -/
structure NumericalPolicy where
  comparator : Comparator
  value : Float
  deriving Inhabited

/-- A constraint on the components of an image. -/
structure ComponentPolicy where
  name : Option String := none
  version : Option String := none
  deriving DecidableEq, Repr, Inhabited

/-- A constraint on volumes; every part must hold of one volume. -/
structure VolumePolicy where
  name : Option String := none
  source : Option String := none
  destination : Option String := none
  readOnly : Option Bool := none
  volumeType : Option String := none
  deriving DecidableEq, Repr, Inhabited

/-- A constraint on ports. -/
structure PortPolicy where
  port : Option Nat := none
  protocol : Option String := none
  deriving DecidableEq, Repr, Inhabited

/-- A constraint on processes. -/
structure ProcessPolicy where
  name : Option String := none
  args : Option String := none
  deriving DecidableEq, Repr, Inhabited

/-- A constraint on mounts of host paths. -/
structure HostMountPolicy where
  readOnly : Option Bool := none
  deriving DecidableEq, Repr, Inhabited

/-- Constraints on the resources of containers. -/
structure ResourcePolicy where
  cpuRequest : Option NumericalPolicy := none
  cpuLimit : Option NumericalPolicy := none
  memoryRequest : Option NumericalPolicy := none
  memoryLimit : Option NumericalPolicy := none
  deriving Inhabited

/-- The greatest permission level that a service account may have. -/
structure PermissionPolicy where
  level : Access.PermissionLevel
  deriving DecidableEq, Repr, Inhabited

/-- The constraints of a policy by family. -/
structure PolicyFields where
  imageName : Option ImageNamePolicy := none
  imageAgeDays : Option Int := none
  lineRule : Option DockerfileLineRule := none
  cve : Option String := none
  cvss : Option NumericalPolicy := none
  fixedBy : Option String := none
  component : Option ComponentPolicy := none
  scanAgeDays : Option Int := none
  noScanExists : Option Bool := none
  env : Option KeyValuePolicy := none
  volume : Option VolumePolicy := none
  port : Option PortPolicy := none
  portExposure : List ExposureLevel := []
  labelRequired : Option KeyValuePolicy := none
  annotationRequired : Option KeyValuePolicy := none
  annotationDisallowed : Option KeyValuePolicy := none
  imageLabelRequired : Option KeyValuePolicy := none
  imageLabelDisallowed : Option KeyValuePolicy := none
  privileged : Option Bool := none
  process : Option ProcessPolicy := none
  hostMount : Option HostMountPolicy := none
  readOnlyRootFs : Option Bool := none
  addCapabilities : List String := []
  dropCapabilities : List String := []
  resources : Option ResourcePolicy := none
  permission : Option PermissionPolicy := none
  deriving Inhabited

/-- A security policy. -/
structure Policy where
  id : String := ""
  name : String := ""
  description : String := ""
  severity : Severity := .low
  /-- Where the policy applies; without entries it applies everywhere. -/
  scope : List Scope := []
  fields : Option PolicyFields := none
  deriving Inhabited

namespace PolicyFields

/-- Whether no family is set. -/
def isEmpty (fields : PolicyFields) : Bool :=
  fields.imageName.isNone && fields.imageAgeDays.isNone && fields.lineRule.isNone &&
    fields.cve.isNone && fields.cvss.isNone && fields.fixedBy.isNone &&
    fields.component.isNone && fields.scanAgeDays.isNone && fields.noScanExists.isNone &&
    fields.env.isNone && fields.volume.isNone && fields.port.isNone &&
    fields.portExposure.isEmpty && fields.labelRequired.isNone &&
    fields.annotationRequired.isNone && fields.annotationDisallowed.isNone &&
    fields.imageLabelRequired.isNone && fields.imageLabelDisallowed.isNone &&
    fields.privileged.isNone && fields.process.isNone && fields.hostMount.isNone &&
    fields.readOnlyRootFs.isNone && fields.addCapabilities.isEmpty &&
    fields.dropCapabilities.isEmpty && fields.resources.isNone && fields.permission.isNone

/-- Fields without any family are the default ones. -/
theorem isEmpty_iff (fields : PolicyFields) : fields.isEmpty = true ↔ fields = {} := by
  constructor
  · intro empty
    cases fields
    simp only [isEmpty, Bool.and_eq_true, Option.isNone_iff_eq_none,
      List.isEmpty_iff] at empty
    simp only [PolicyFields.mk.injEq]
    simp [empty]
  · rintro rfl
    rfl

end PolicyFields

namespace Severity

/-- All severities. -/
def all : List Severity := [low, medium, high, critical]

/-- The name of a severity in documents. -/
def name : Severity → String
  | low => "low"
  | medium => "medium"
  | high => "high"
  | critical => "critical"

/-- Read a severity by its name. -/
def read? [Readable Node] (node : Node) : Option Severity :=
  Readable.variantOf? (all.map fun severity => (severity.name, severity)) node

end Severity
end WorkloadPolicy
