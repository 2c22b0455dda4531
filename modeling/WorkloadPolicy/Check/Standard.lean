import WorkloadPolicy.Check.Tree

/-!
# The standard checks

Every family of constraints has its check, in the order in which messages are
given.  Parts of an image's name, of a component, of a port and of a process
must all hold; of the resources of containers any one suffices.  The parts of
a volume are linked, since they must hold of one volume.
-/

namespace WorkloadPolicy
namespace Check

/-- A tree of one field check. -/
def ofField (check : FieldCheck) : Check := leaf (.field check)

/-- A tree of one linked check. -/
def ofLinked (check : LinkedCheck) : Check := leaf (.linked check)

/-- The checks of the parts of an image's name. -/
def imageName : Check :=
  all
    [ofField (.pattern "image registry" .imageRegistry "Image registry" false
        fun fields => fields.imageName.bind (·.registry)),
      ofField (.pattern "image remote" .imageRemote "Image remote" true
        fun fields => fields.imageName.bind (·.remote)),
      ofField (.pattern "image tag" .imageTag "Image tag" false
        fun fields => fields.imageName.bind (·.tag))]

/-- The checks of the parts of a component. -/
def component : Check :=
  all
    [ofField (.pattern "component name" .component "Component name" false
        fun fields => fields.component.bind (·.name)),
      ofField (.pattern "component version" .componentVersion "Component version" false
        fun fields => fields.component.bind (·.version))]

/-- The checks of the parts of a port. -/
def port : Check :=
  all
    [ofField (.exact "port" .port "Port"
        fun fields => (fields.port.bind (·.port)).map toString),
      ofField (.pattern "protocol" .protocol "Protocol" false
        fun fields => fields.port.bind (·.protocol))]

/-- The checks of the parts of a process. -/
def process : Check :=
  all
    [ofField (.process "process name" .processName "name"
        fun fields => fields.process.bind (·.name)),
      ofField (.process "process arguments" .processArguments "args"
        fun fields => fields.process.bind (·.args))]

/-- The checks of the resources of containers. -/
def resources : Check :=
  any
    [ofField (.threshold "cpu resource request" .cpuCoresRequest "CPU resource request"
        fun fields => fields.resources.bind (·.cpuRequest)),
      ofField (.threshold "cpu resource limit" .cpuCoresLimit "CPU resource limit"
        fun fields => fields.resources.bind (·.cpuLimit)),
      ofField (.threshold "memory resource request" .memoryRequest "memory resource request"
        fun fields => fields.resources.bind (·.memoryRequest)),
      ofField (.threshold "memory resource limit" .memoryLimit "memory resource limit"
        fun fields => fields.resources.bind (·.memoryLimit))]

/-- The pattern for any of the exposure levels that a policy lists. -/
def exposurePattern? (fields : PolicyFields) : Option String :=
  if fields.portExposure.isEmpty then
    none
  else
    some (String.intercalate "|" (fields.portExposure.map ExposureLevel.name))

/-- All checks in the order of their messages. -/
def standard : List Check :=
  [imageName,
    ofField (.age "image age" .imageCreatedTime "Time of image creation"
      fun fields => fields.imageAgeDays),
    ofLinked .dockerfileLine,
    ofLinked .cve,
    ofLinked .cvss,
    ofLinked .fixedBy,
    component,
    ofField (.age "scan age" .imageScanTime "Time of last scan"
      fun fields => fields.scanAgeDays),
    ofField (.missing "no scan exists" .imageScanTime "Image has not been scanned"
      fun fields => fields.noScanExists),
    ofField (.entry "environment variable" .environmentVariable
      (.disallowedEntry "Container Environment" "environment policy")
      fun fields => fields.env),
    ofLinked .volume,
    port,
    ofField (.pattern "port exposure" .portExposure "Exposure type" false exposurePattern?),
    ofField (.entry "required label" .deploymentLabels (.requiredEntry "label")
      fun fields => fields.labelRequired),
    ofField (.entry "required annotation" .deploymentAnnotations (.requiredEntry "annotation")
      fun fields => fields.annotationRequired),
    ofField (.entry "disallowed annotation" .deploymentAnnotations
      (.disallowedEntry "Disallowed annotation" "disallowed annotation policy")
      fun fields => fields.annotationDisallowed),
    ofField (.entry "required image label" .imageLabels (.requiredEntry "image label")
      fun fields => fields.imageLabelRequired),
    ofField (.entry "disallowed image label" .imageLabels
      (.disallowedEntry "Disallowed image label" "disallowed image label policy")
      fun fields => fields.imageLabelDisallowed),
    ofField (.flag "privileged" .privileged "Privileged container found"
      "Unprivileged container found" fun fields => fields.privileged),
    process,
    ofLinked .hostMount,
    ofField (.flag "read-only root filesystem" .readOnlyRootFilesystem
      "Container using read-only root filesystem found"
      "Container using read-write root filesystem found"
      fun fields => fields.readOnlyRootFs),
    ofField (.capabilities "drop capabilities" .dropCapabilities .keptCapabilities
      fun fields => fields.dropCapabilities),
    ofField (.capabilities "add capabilities" .addCapabilities .addedCapabilities
      fun fields => fields.addCapabilities),
    resources]

/-- The leaf of the standard checks with a given name. -/
def standardLeaf? (name : String) : Option LeafCheck :=
  (leavesOfAll standard).find? (·.name == name)

end Check
end WorkloadPolicy
