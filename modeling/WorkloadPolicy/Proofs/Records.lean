import WorkloadPolicy.Proofs.Admission
import WorkloadPolicy.Proofs.Rows

/-!
# Linked checks test whole records

The linked checks look at the layers of an image, at the vulnerabilities of its
components, and at the volumes of a deployment's containers.  Each of them tells of the
records that by themselves satisfy everything that a policy asks of one, in the order of
the document and each with its own parts.
-/

namespace WorkloadPolicy

/-! ## Records of entities -/

namespace Image

/-- The layers of an image in build order. -/
def layers (image : Image) : List ImageLayer :=
  (image.metadata.map (·.layers)).getD []

/-- The vulnerabilities of all components of an image, in order. -/
def vulnerabilities (image : Image) : List Vulnerability :=
  ((image.scan.map (·.components)).getD []).flatMap (·.vulnerabilities)

end Image

/-- The volumes of all containers of a deployment, in order. -/
def Deployment.volumes (deployment : Deployment) : List Volume :=
  deployment.containers.flatMap (·.volumes)

/-- The fields that are about layers. -/
def ImageLayer.labels : List FieldLabel :=
  [.dockerfileInstruction, .dockerfileValue]

/-- The fields that are about vulnerabilities. -/
def Vulnerability.labels : List FieldLabel :=
  [.cve, .cveLink, .cvss, .fixedBy]

/-- The fields that are about scans. -/
def ImageScan.labels : List FieldLabel :=
  [.imageScanTime, .component, .componentVersion] ++ Vulnerability.labels

/-- The fields that are about volumes. -/
def Volume.labels : List FieldLabel :=
  [.volumeName, .volumeSource, .volumeDestination, .volumeType, .volumeReadOnly]

/-- The fields that are about lists of a container. -/
def Container.listLabels : List FieldLabel :=
  [.addCapabilities, .dropCapabilities, .environmentVariable]

/-- The part of a layer that a field is about, as it is flattened. -/
def ImageLayer.part (layer : ImageLayer) : FieldLabel → String
  | .dockerfileInstruction => layer.instruction
  | .dockerfileValue => layer.value
  | _ => ""

/-- The part of a vulnerability that a field is about, as it is flattened. -/
def Vulnerability.part (vulnerability : Vulnerability) : FieldLabel → String
  | .cve => vulnerability.cve
  | .cveLink => vulnerability.link
  | .cvss => Decimal.plain32 vulnerability.cvss
  | .fixedBy => vulnerability.fixedBy.getD ""
  | _ => ""

/-- The part of a volume that a field is about, as it is flattened. -/
def Volume.part (volume : Volume) : FieldLabel → String
  | .volumeName => volume.name
  | .volumeSource => volume.source
  | .volumeDestination => volume.destination
  | .volumeReadOnly => booleanText volume.readOnly
  | .volumeType => volume.volumeType
  | _ => ""

/-- The list of a container that a field is about, as it is flattened: all that is dropped
is one text. -/
def Container.list (container : Container) : FieldLabel → List String
  | .addCapabilities => container.securityContext.addCapabilities
  | .dropCapabilities => [String.intercalate "," container.securityContext.dropCapabilities]
  | .environmentVariable =>
      container.config.env.map fun entry => mapEntry (entry.key, entry.value)
  | _ => []

/-! ## Flattened records -/

/-- The paths of a deployment's own values, outside of its containers. -/
def Deployment.ownPaths : List String :=
  ["deployment.id", "deployment.name", "deployment.namespace", "deployment.cluster_id",
    "deployment.service_account", "deployment.labels", "deployment.annotations",
    "deployment.ports.container_port", "deployment.ports.protocol", "deployment.ports.exposure"]

/-- The paths of an image's own values, outside of its metadata and its scan. -/
def Image.ownPaths : List String :=
  ["image.id", "image.name.registry", "image.name.remote", "image.name.tag"]

/-- The paths of components and of their vulnerabilities. -/
def ImageScan.componentPaths : List String :=
  ["image.scan.components.name", "image.scan.components.version",
    "image.scan.components.vulns.cve", "image.scan.components.vulns.cvss",
    "image.scan.components.vulns.link", "image.scan.components.vulns.fixed_by"]

namespace FieldValues

section Entries

variable {α : Type} {path : String}

theorem get_mk_append (first second : List (String × String)) :
    get ⟨first ++ second⟩ path = get ⟨first⟩ path ++ get ⟨second⟩ path := by
  simp [get]

/-- Entries under other paths add no value. -/
theorem get_mk_eq_nil
    {entries : List (String × String)}
    (other : ∀ entry ∈ entries, entry.1 ≠ path) :
    get ⟨entries⟩ path = [] := by
  rw [get, filter_eq_nil_of_forall_ne other, List.map_nil]

theorem get_mk_flatMap (records : List α) (entries : α → List (String × String)) :
    get ⟨records.flatMap entries⟩ path =
      records.flatMap fun record => get ⟨entries record⟩ path := by
  simp [get, List.filter_flatMap, List.map_flatMap]

/-- Records that add one value each add theirs in order. -/
theorem get_mk_flatMap_of_single
    {records : List α}
    {entries : α → List (String × String)}
    {part : α → String}
    (single : ∀ record ∈ records, get ⟨entries record⟩ path = [part record]) :
    get ⟨records.flatMap entries⟩ path = records.map part := by
  rw [get_mk_flatMap, List.flatMap_congr single, List.map_eq_flatMap]

/-- Records of records add theirs in order. -/
theorem get_mk_flatMap_of_nested
    {β : Type}
    {records : List α}
    {entries : α → List (String × String)}
    {inner : α → List β}
    {part : β → String}
    (nested : ∀ record ∈ records, get ⟨entries record⟩ path = (inner record).map part) :
    get ⟨records.flatMap entries⟩ path = (records.flatMap inner).map part := by
  rw [get_mk_flatMap, List.flatMap_congr nested, List.map_flatMap]

/-- Values under one path are all found there, in order. -/
theorem get_mk_map (records : List α) (value : α → String) :
    get ⟨records.map fun record => (path, value record)⟩ path = records.map value := by
  simp [get, List.filter_map, Function.comp_def]

/-- Values under one path are not found under another one. -/
theorem get_mk_map_of_ne
    {own : String}
    (different : own ≠ path)
    (records : List α)
    (value : α → String) :
    get ⟨records.map fun record => (own, value record)⟩ path = [] := by
  apply get_mk_eq_nil
  simpa using fun _ _ => different

theorem get_mk_instantValues_of_ne
    {own : String}
    (different : own ≠ path)
    (instant : Option Calendar.Instant) :
    get ⟨instantValues own instant⟩ path = [] := by
  apply get_mk_eq_nil
  cases instant <;> simp [instantValues, different]

end Entries
end FieldValues

open FieldValues

/-- Under the other paths an image has the values of its metadata and of its scan. -/
theorem Image.get_fieldValues_of_not_mem
    {path : String}
    (inner : path ∉ Image.ownPaths)
    (image : Image) :
    image.fieldValues.get path =
      (image.metadata.elim [] fun metadata => get ⟨metadata.values⟩ path) ++
        image.scan.elim [] fun scan => get ⟨scan.values⟩ path := by
  have name :
      get ⟨[("image.id", image.id), ("image.name.registry", image.name.registry),
          ("image.name.remote", image.name.remote), ("image.name.tag", image.name.tag)]⟩
        path = [] := by
    apply get_mk_eq_nil
    simp only [ownPaths, List.mem_cons, List.not_mem_nil, or_false, not_or] at inner
    obtain ⟨id, registry, remote, tag⟩ := inner
    simp [Ne.symm id, Ne.symm registry, Ne.symm remote, Ne.symm tag]
  rw [fieldValues, get_mk_append, get_mk_append, name, List.nil_append]
  cases image.metadata <;> cases image.scan <;> rfl

/-- Under paths other than those of components a scan has its time only. -/
theorem ImageScan.get_values_of_not_mem
    {path : String}
    (outer : path ∉ ImageScan.componentPaths)
    (scan : ImageScan) :
    get ⟨scan.values⟩ path = get ⟨instantValues "image.scan.scan_time" scan.scanTime⟩ path := by
  simp only [componentPaths, List.mem_cons, List.not_mem_nil, or_false, not_or, ← ne_eq] at outer
  obtain ⟨name, version, cve, cvss, link, fixedBy⟩ := outer
  have components : get ⟨scan.components.flatMap Component.values⟩ path = [] := by
    apply get_mk_eq_nil
    simp only [Component.values, Vulnerability.values, List.forall_mem_append,
      List.forall_mem_flatMap, List.forall_mem_cons]
    simp [name.symm, version.symm, cve.symm, cvss.symm, link.symm, fixedBy.symm]
  rw [values, get_mk_append, components, List.append_nil]

/-- Under the other paths a deployment has the values of its containers. -/
theorem Deployment.get_fieldValues_of_not_mem
    {path : String}
    (inner : path ∉ Deployment.ownPaths)
    (deployment : Deployment) :
    deployment.fieldValues.get path =
      get ⟨deployment.containers.flatMap Container.values⟩ path := by
  simp only [ownPaths, List.mem_cons, List.not_mem_nil, or_false, not_or, ← ne_eq] at inner
  obtain ⟨id, name, namespaceName, cluster, account, labels, annotations, port, protocol,
    exposure⟩ := inner
  have place :
      get ⟨[("deployment.id", deployment.id),
          ("deployment.name", deployment.name),
          ("deployment.namespace", deployment.namespaceName),
          ("deployment.cluster_id", deployment.clusterId)]⟩ path = [] := by
    apply get_mk_eq_nil
    simp [id.symm, name.symm, namespaceName.symm, cluster.symm]
  have serviceAccount :
      get ⟨if deployment.serviceAccount.isEmpty then []
          else [("deployment.service_account", deployment.serviceAccount)]⟩ path = [] := by
    apply get_mk_eq_nil
    split <;> simp [account.symm]
  have ports : get ⟨deployment.ports.flatMap PortConfig.values⟩ path = [] := by
    apply get_mk_eq_nil
    simp only [List.forall_mem_flatMap, PortConfig.values, List.forall_mem_cons]
    simp [port.symm, protocol.symm, exposure.symm]
  rw [fieldValues]
  simp only [get_mk_append]
  rw [place, serviceAccount, get_mk_map_of_ne labels.symm, get_mk_map_of_ne annotations.symm,
    ports, List.append_nil]
  rfl

/-! ### Layers -/

section Layers

variable {label : FieldLabel} (ofLayer : label ∈ ImageLayer.labels)

include ofLayer

theorem ImageLayer.get_values (layer : ImageLayer) :
    get ⟨layer.values⟩ label.metadata.path = [layer.part label] := by
  simp only [ImageLayer.labels, List.mem_cons, List.not_mem_nil, or_false] at ofLayer
  rcases ofLayer with rfl | rfl <;> rfl

theorem ImageMetadata.get_values_of_layer (metadata : ImageMetadata) :
    get ⟨metadata.values⟩ label.metadata.path =
      metadata.layers.map fun layer => layer.part label := by
  have created : "image.metadata.created" ≠ label.metadata.path := by
    revert label
    decide
  have labels : "image.metadata.labels" ≠ label.metadata.path := by
    revert label
    decide
  rw [values, get_mk_append, get_mk_append, get_mk_instantValues_of_ne created,
    get_mk_map_of_ne labels, List.nil_append, List.append_nil]
  exact get_mk_flatMap_of_single fun layer _ => layer.get_values ofLayer

theorem ImageScan.get_values_of_layer (scan : ImageScan) :
    get ⟨scan.values⟩ label.metadata.path = [] := by
  have scanTime : "image.scan.scan_time" ≠ label.metadata.path := by
    revert label
    decide
  have outer : label.metadata.path ∉ ImageScan.componentPaths := by
    revert label
    decide
  rw [get_values_of_not_mem outer, get_mk_instantValues_of_ne scanTime]

/-- A flattened image has one value for every layer under the paths of layers. -/
theorem Image.get_layers (image : Image) :
    image.fieldValues.get label.metadata.path =
      image.layers.map fun layer => layer.part label := by
  have inner : label.metadata.path ∉ Image.ownPaths := by
    revert label
    decide
  have scan : (image.scan.elim [] fun scan => get ⟨scan.values⟩ label.metadata.path) = [] := by
    cases image.scan with
    | none => rfl
    | some scan => exact scan.get_values_of_layer ofLayer
  rw [get_fieldValues_of_not_mem inner, scan, List.append_nil]
  unfold layers
  cases image.metadata with
  | none => rfl
  | some metadata => exact metadata.get_values_of_layer ofLayer

end Layers

/-! ### Scans -/

/-- The time of the scan of an image, if that is known. -/
def Image.scanTime (image : Image) : Option Calendar.Instant :=
  image.scan.bind (·.scanTime)

section Scans

variable {label : FieldLabel} (ofScan : label ∈ ImageScan.labels)

include ofScan

theorem ImageMetadata.get_values_of_scan (metadata : ImageMetadata) :
    get ⟨metadata.values⟩ label.metadata.path = [] := by
  have created : "image.metadata.created" ≠ label.metadata.path := by
    revert label
    decide
  have labels : "image.metadata.labels" ≠ label.metadata.path := by
    revert label
    decide
  have layers : get ⟨metadata.layers.flatMap ImageLayer.values⟩ label.metadata.path = [] := by
    apply get_mk_eq_nil
    simp only [ImageLayer.values, List.forall_mem_flatMap, List.forall_mem_cons]
    revert label
    simp [ImageScan.labels, Vulnerability.labels, FieldLabel.metadata, FieldLabel.standard]
  rw [values, get_mk_append, get_mk_append, get_mk_instantValues_of_ne created, layers,
    get_mk_map_of_ne labels, List.nil_append, List.append_nil]

/-- Under the paths of scans an image has the values of its scan. -/
theorem Image.get_fieldValues_of_scan (image : Image) :
    image.fieldValues.get label.metadata.path =
      image.scan.elim [] fun scan => get ⟨scan.values⟩ label.metadata.path := by
  have inner : label.metadata.path ∉ Image.ownPaths := by
    revert label
    decide
  have metadata :
      (image.metadata.elim [] fun metadata => get ⟨metadata.values⟩ label.metadata.path) =
        [] := by
    cases image.metadata with
    | none => rfl
    | some metadata => exact metadata.get_values_of_scan ofScan
  rw [get_fieldValues_of_not_mem inner, metadata, List.nil_append]

end Scans

/-- A flattened image has a value for the time of its scan if that is known. -/
theorem Image.get_scanTime (image : Image) :
    image.fieldValues.get FieldLabel.imageScanTime.metadata.path =
      image.scanTime.toList.map (·.text) := by
  rw [image.get_fieldValues_of_scan (by decide), scanTime]
  cases image.scan with
  | none => rfl
  | some scan =>
      show get ⟨scan.values⟩ FieldLabel.imageScanTime.metadata.path =
        scan.scanTime.toList.map (·.text)
      rw [ImageScan.get_values_of_not_mem (by decide)]
      cases scan.scanTime <;> rfl

/-- The time at which an image was built, if that is known. -/
def Image.created (image : Image) : Option Calendar.Instant :=
  image.metadata.bind (·.created)

/-- A flattened image has a value for the time at which it was built if that is known. -/
theorem Image.get_created (image : Image) :
    image.fieldValues.get FieldLabel.imageCreatedTime.metadata.path =
      image.created.toList.map (·.text) := by
  have ofScan (scan : ImageScan) :
      get ⟨scan.values⟩ FieldLabel.imageCreatedTime.metadata.path = [] := by
    rw [ImageScan.get_values_of_not_mem (by decide), get_mk_instantValues_of_ne (by decide)]
  have ofMetadata (metadata : ImageMetadata) :
      get ⟨metadata.values⟩ FieldLabel.imageCreatedTime.metadata.path =
        metadata.created.toList.map (·.text) := by
    have layers :
        get ⟨metadata.layers.flatMap ImageLayer.values⟩
          FieldLabel.imageCreatedTime.metadata.path = [] := by
      apply get_mk_eq_nil
      simp only [ImageLayer.values, List.forall_mem_flatMap, List.forall_mem_cons]
      simp [FieldLabel.metadata, FieldLabel.standard]
    rw [ImageMetadata.values, get_mk_append, get_mk_append, layers,
      get_mk_map_of_ne (by decide), List.append_nil, List.append_nil]
    cases metadata.created <;> rfl
  rw [get_fieldValues_of_not_mem (by decide), created]
  cases image.metadata <;> cases image.scan <;> simp [ofScan, ofMetadata]

/-! ### Vulnerabilities -/

section Vulnerabilities

variable {label : FieldLabel} (ofVulnerability : label ∈ Vulnerability.labels)

include ofVulnerability

theorem Vulnerability.get_values (vulnerability : Vulnerability) :
    get ⟨vulnerability.values⟩ label.metadata.path = [vulnerability.part label] := by
  simp only [Vulnerability.labels, List.mem_cons, List.not_mem_nil, or_false] at ofVulnerability
  rcases ofVulnerability with rfl | rfl | rfl | rfl <;> rfl

theorem Component.get_values (component : Component) :
    get ⟨component.values⟩ label.metadata.path =
      component.vulnerabilities.map fun vulnerability => vulnerability.part label := by
  have name :
      get ⟨[("image.scan.components.name", component.name),
          ("image.scan.components.version", component.version)]⟩ label.metadata.path = [] := by
    apply get_mk_eq_nil
    simp only [Vulnerability.labels, List.mem_cons, List.not_mem_nil, or_false] at ofVulnerability
    rcases ofVulnerability with rfl | rfl | rfl | rfl <;>
      simp [FieldLabel.metadata, FieldLabel.standard]
  rw [values, get_mk_append, name, List.nil_append]
  exact get_mk_flatMap_of_single fun vulnerability _ => vulnerability.get_values ofVulnerability

theorem ImageScan.get_values_of_vulnerability (scan : ImageScan) :
    get ⟨scan.values⟩ label.metadata.path =
      (scan.components.flatMap (·.vulnerabilities)).map
        fun vulnerability => vulnerability.part label := by
  have scanTime : "image.scan.scan_time" ≠ label.metadata.path := by
    revert label
    decide
  rw [values, get_mk_append, get_mk_instantValues_of_ne scanTime, List.nil_append]
  exact get_mk_flatMap_of_nested fun component _ => component.get_values ofVulnerability

/-- A flattened image has one value for every vulnerability under the paths of
vulnerabilities. -/
theorem Image.get_vulnerabilities (image : Image) :
    image.fieldValues.get label.metadata.path =
      image.vulnerabilities.map fun vulnerability => vulnerability.part label := by
  rw [image.get_fieldValues_of_scan (List.mem_append_right _ ofVulnerability)]
  unfold vulnerabilities
  cases image.scan with
  | none => rfl
  | some scan => exact scan.get_values_of_vulnerability ofVulnerability

end Vulnerabilities

/-! ### Volumes -/

section Volumes

variable {label : FieldLabel} (ofVolume : label ∈ Volume.labels)

include ofVolume

theorem Volume.get_values (volume : Volume) :
    get ⟨volume.values⟩ label.metadata.path = [volume.part label] := by
  simp only [Volume.labels, List.mem_cons, List.not_mem_nil, or_false] at ofVolume
  rcases ofVolume with rfl | rfl | rfl | rfl | rfl <;> rfl

theorem Container.get_values (container : Container) :
    get ⟨container.values⟩ label.metadata.path =
      container.volumes.map fun volume => volume.part label := by
  have others :
      get ⟨container.securityContext.values ++
          (container.config.env.map fun entry =>
            ("deployment.containers.config.env", mapEntry (entry.key, entry.value))) ++
          container.resources.values⟩ label.metadata.path = [] := by
    apply get_mk_eq_nil
    simp only [SecurityContext.values, Resources.values, List.forall_mem_append,
      List.forall_mem_cons, List.forall_mem_map]
    simp only [Volume.labels, List.mem_cons, List.not_mem_nil, or_false] at ofVolume
    rcases ofVolume with rfl | rfl | rfl | rfl | rfl <;>
      simp [FieldLabel.metadata, FieldLabel.standard]
  rw [values, get_mk_append, others, List.nil_append]
  exact get_mk_flatMap_of_single fun volume _ => volume.get_values ofVolume

/-- A flattened deployment has one value for every volume under the paths of volumes. -/
theorem Deployment.get_volumes (deployment : Deployment) :
    deployment.fieldValues.get label.metadata.path =
      deployment.volumes.map fun volume => volume.part label := by
  have inner : label.metadata.path ∉ Deployment.ownPaths := by
    revert label
    decide
  rw [get_fieldValues_of_not_mem inner]
  exact get_mk_flatMap_of_nested fun container _ => container.get_values ofVolume

end Volumes

/-! ### Lists -/

section Lists

variable {label : FieldLabel} (ofList : label ∈ Container.listLabels)

include ofList

theorem Container.get_list (container : Container) :
    get ⟨container.values⟩ label.metadata.path = container.list label := by
  have resources : get ⟨container.resources.values⟩ label.metadata.path = [] := by
    apply get_mk_eq_nil
    revert label
    simp [listLabels, Resources.values, FieldLabel.metadata, FieldLabel.standard]
  have volumes : get ⟨container.volumes.flatMap Volume.values⟩ label.metadata.path = [] := by
    apply get_mk_eq_nil
    simp only [Volume.values, List.forall_mem_flatMap, List.forall_mem_cons]
    revert label
    simp [listLabels, FieldLabel.metadata, FieldLabel.standard]
  rw [values, SecurityContext.values]
  simp only [get_mk_append, resources, volumes, List.append_nil]
  simp only [listLabels, List.mem_cons, List.not_mem_nil, or_false] at ofList
  rcases ofList with rfl | rfl | rfl <;>
    simp [FieldValues.get, list, FieldLabel.metadata, FieldLabel.standard, List.filter_map,
      Function.comp_def]

/-- A flattened deployment has the lists of its containers one after the other. -/
theorem Deployment.get_lists (deployment : Deployment) :
    deployment.fieldValues.get label.metadata.path =
      deployment.containers.flatMap fun container => container.list label := by
  have inner : label.metadata.path ∉ Deployment.ownPaths := by
    revert label
    decide
  rw [get_fieldValues_of_not_mem inner, get_mk_flatMap]
  exact List.flatMap_congr fun container _ => container.get_list ofList

end Lists

/-! ## Rules about records -/

namespace RecordRule

/-- An instruction matches as a whole, and its arguments somewhere.  Only texts that are
not empty ask for anything. -/
def instruction (rule : DockerfileLineRule) : RecordRule ImageLayer where
  holds layer :=
    (rule.instruction.isEmpty || Pattern.fits false rule.instruction layer.instruction) &&
      (rule.value.isEmpty || Pattern.fits true rule.value layer.value)
  alerts layer :=
    [{ message :=
        "Dockerfile Line '" ++ layer.instruction ++ " " ++ layer.value ++
          "' matches the rule " ++ rule.instruction ++ " " ++ rule.value }]

/-- The identifier of a vulnerability matches.  Its reference goes with the alert. -/
def identifier (pattern : String) : RecordRule Vulnerability where
  holds vulnerability := Pattern.fits false pattern vulnerability.cve
  alerts vulnerability :=
    [Alert.withLink
      { message := "CVE " ++ vulnerability.cve ++ " matched regex '" ++ pattern ++ "'" }
      vulnerability.link]

/-- The score of a vulnerability compares with a threshold and, if it is asked for, the
version that fixes it matches. -/
def score (policy : NumericalPolicy) (fixed : Option String) : RecordRule Vulnerability where
  holds vulnerability :=
    policy.fits (Decimal.plain32 vulnerability.cvss) &&
      fixed.all fun pattern => Pattern.fits false pattern (vulnerability.fixedBy.getD "")
  alerts vulnerability :=
    [{ message :=
        "Found a CVSS score of " ++ Decimal.plain32 vulnerability.cvss ++ " (" ++
          policy.comparator.words ++ " " ++ Decimal.rounded 1 policy.value ++ ") (cve: " ++
          vulnerability.cve ++ ")" ++
          if fixed.isSome then " (fixed by: " ++ vulnerability.fixedBy.getD "" ++ ")" else "" }]

/-- The version that fixes a vulnerability matches. -/
def fixedVersion (pattern : String) : RecordRule Vulnerability where
  holds vulnerability := Pattern.fits false pattern (vulnerability.fixedBy.getD "")
  alerts vulnerability :=
    [{ message :=
        "Vulnerability " ++ vulnerability.cve ++ " is fixable in '" ++
          vulnerability.fixedBy.getD "" ++ "' matching '" ++ pattern ++ "'" }]

/-- A volume mounts a path of the host in the given mode. -/
def hostMount (readOnly : Bool) : RecordRule Volume where
  holds volume := volume.volumeType == "HostPath" && volume.readOnly == readOnly
  alerts volume :=
    [{ message :=
        (if readOnly then "Read-only" else "Writable") ++ " host mount '" ++ volume.source ++
          "' found" }]

/-- What is told of one text of a volume, if it is asked for. -/
def textAlerts (subject : String) (pattern : Option String) (text : String) : List Alert :=
  (nonEmpty? pattern).toList.map fun pattern =>
    { message := subject ++ " '" ++ text ++ "' matched " ++ pattern }

/-- Whether a text of a volume is as asked for. -/
def textHolds (pattern : Option String) (text : String) : Bool :=
  (nonEmpty? pattern).all fun pattern => Pattern.fits false pattern text

/-- A volume is in all its parts as a policy asks for.  Each of them has its alert. -/
def volume (policy : VolumePolicy) : RecordRule Volume where
  holds volume :=
    textHolds policy.name volume.name && textHolds policy.source volume.source &&
      textHolds policy.destination volume.destination &&
      textHolds policy.volumeType volume.volumeType &&
      policy.readOnly.all fun readOnly => volume.readOnly == readOnly
  alerts volume :=
    textAlerts "Volume name" policy.name volume.name ++
      textAlerts "Volume source" policy.source volume.source ++
      textAlerts "Volume destination" policy.destination volume.destination ++
      textAlerts "Volume type" policy.volumeType volume.volumeType ++
      policy.readOnly.toList.map fun readOnly =>
        { message :=
            if readOnly then "Read-only volume found" else "Writable volume found" }

end RecordRule

/-! ## Demands on records -/

namespace LinkedCheck

variable
  {fields : PolicyFields}
  {demand : LinkedDemand}

@[simp] theorem accepts_ofPattern (anywhere : Bool) (pattern value : String) :
    (ColumnDemand.ofPattern anywhere pattern).accepts value =
      (pattern.isEmpty || Pattern.fits anywhere pattern value) := by
  unfold ColumnDemand.ofPattern
  cases pattern.isEmpty <;> rfl

@[simp] theorem beq_booleanText (left right : Bool) :
    (booleanText left == booleanText right) = (left == right) := by
  cases left <;> cases right <;> rfl

theorem rule_of_dockerfileLineDemand?
    (demanded : dockerfileLineDemand? fields = some demand) :
    ∃ rule, fields.lineRule = some rule ∧
      demand.columns.map (·.1) ⊆ ImageLayer.labels ∧
      demand.rule ImageLayer.part = .instruction rule := by
  obtain ⟨rule, set, decided⟩ := Option.bind_eq_some_iff.1 demanded
  split at decided
  · simp at decided
  · cases decided
    refine ⟨rule, set, by simp [ImageLayer.labels], ?_⟩
    simp [LinkedDemand.rule, RecordRule.instruction, ImageLayer.part, LinkedTemplate.alerts,
      LinkedTemplate.cell]

theorem rule_of_cveDemand?
    (demanded : cveDemand? fields = some demand) :
    ∃ pattern, nonEmpty? fields.cve = some pattern ∧
      demand.columns.map (·.1) ⊆ Vulnerability.labels ∧
      demand.rule Vulnerability.part = .identifier pattern := by
  obtain ⟨pattern, set, decided⟩ := Option.bind_eq_some_iff.1 demanded
  cases decided
  refine ⟨pattern, set, by simp [Vulnerability.labels], ?_⟩
  simp [LinkedDemand.rule, RecordRule.identifier, ColumnDemand.accepts, Vulnerability.part,
    LinkedTemplate.alerts, LinkedTemplate.cell]

theorem rule_of_cvssDemand?
    (demanded : cvssDemand? fields = some demand) :
    ∃ policy, fields.cvss = some policy ∧
      demand.columns.map (·.1) ⊆ Vulnerability.labels ∧
      demand.rule Vulnerability.part = .score policy (nonEmpty? fields.fixedBy) := by
  obtain ⟨policy, set, decided⟩ := Option.bind_eq_some_iff.1 demanded
  cases decided
  refine ⟨policy, set, ?_, ?_⟩
  · rw [List.map_append, List.map_map]
    cases nonEmpty? fields.fixedBy <;> simp [Vulnerability.labels]
  · simp only [LinkedDemand.rule, RecordRule.score, RecordRule.mk.injEq]
    cases nonEmpty? fields.fixedBy <;>
      simp [ColumnDemand.accepts, Vulnerability.part, LinkedTemplate.alerts, LinkedTemplate.cell]

theorem rule_of_fixedByDemand?
    (demanded : fixedByDemand? fields = some demand) :
    ∃ pattern, fields.cvss = none ∧ nonEmpty? fields.fixedBy = some pattern ∧
      demand.columns.map (·.1) ⊆ Vulnerability.labels ∧
      demand.rule Vulnerability.part = .fixedVersion pattern := by
  unfold fixedByDemand? at demanded
  split at demanded
  · simp at demanded
  · rename_i unset
    obtain ⟨pattern, set, decided⟩ := Option.bind_eq_some_iff.1 demanded
    cases decided
    refine ⟨pattern, unset, set, by simp [Vulnerability.labels], ?_⟩
    simp [LinkedDemand.rule, RecordRule.fixedVersion, ColumnDemand.accepts, Vulnerability.part,
      LinkedTemplate.alerts, LinkedTemplate.cell]

theorem rule_of_hostMountDemand?
    (demanded : hostMountDemand? fields = some demand) :
    ∃ policy, fields.hostMount = some policy ∧
      demand.columns.map (·.1) ⊆ Volume.labels ∧
      demand.rule Volume.part = .hostMount (policy.readOnly.getD false) := by
  obtain ⟨policy, set, decided⟩ := Option.bind_eq_some_iff.1 demanded
  cases decided
  refine ⟨policy, set, by simp [Volume.labels], ?_⟩
  simp [LinkedDemand.rule, RecordRule.hostMount, ColumnDemand.accepts, Volume.part,
    LinkedTemplate.alerts, LinkedTemplate.cell]

section VolumeColumns

variable (part : FieldLabel → String)

theorem all_volumeTextColumn (label : FieldLabel) (subject : String) (text : Option String) :
    ((volumeTextColumn label subject text).all fun column =>
        column.1.2.accepts (part column.1.1)) =
      RecordRule.textHolds text (part label) := by
  unfold volumeTextColumn RecordRule.textHolds
  cases nonEmpty? text <;> simp [ColumnDemand.accepts]

theorem all_volumeModeColumn (readOnly : Option Bool) :
    ((volumeModeColumn readOnly).all fun column => column.1.2.accepts (part column.1.1)) =
      readOnly.all fun value => part .volumeReadOnly == booleanText value := by
  unfold volumeModeColumn
  cases readOnly <;> simp [ColumnDemand.accepts]

theorem map_volumeTextColumn (label : FieldLabel) (subject : String) (text : Option String) :
    ((volumeTextColumn label subject text).map fun column : ToldColumn =>
        ({ message := column.2.message (part column.1.1) } : Alert)) =
      RecordRule.textAlerts subject text (part label) := by
  unfold volumeTextColumn RecordRule.textAlerts
  rw [List.map_map]
  rfl

/-- Every column of a volume is told of with its own value. -/
theorem alerts_volume (told : List ToldColumn) :
    LinkedTemplate.alerts (told.map fun column => part column.1.1) (.volume (told.map (·.2))) =
      told.map fun column => { message := column.2.message (part column.1.1) } := by
  apply List.ext_getElem
  · simp [LinkedTemplate.alerts]
  · intro index _ within
    simp only [List.length_map] at within
    simp [LinkedTemplate.alerts, LinkedTemplate.cell, List.getElem?_eq_getElem within]

end VolumeColumns

theorem rule_of_volumeDemand?
    (demanded : volumeDemand? fields = some demand) :
    ∃ policy, fields.volume = some policy ∧
      demand.columns.map (·.1) ⊆ Volume.labels ∧
      demand.rule Volume.part = .volume policy := by
  obtain ⟨policy, set, decided⟩ := Option.bind_eq_some_iff.1 demanded
  split at decided
  · simp at decided
  · cases decided
    have holds (volume : Volume) :
        (((volumeColumns policy).map (·.1)).all fun column =>
            column.2.accepts (volume.part column.1)) =
          (RecordRule.volume policy).holds volume := by
      rw [List.all_map]
      show ((volumeColumns policy).all fun column =>
        column.1.2.accepts (volume.part column.1.1)) = _
      simp only [volumeColumns, List.all_append, all_volumeTextColumn, all_volumeModeColumn]
      simp only [RecordRule.volume, Volume.part, beq_booleanText]
    have alerts (volume : Volume) :
        LinkedTemplate.alerts
            (((volumeColumns policy).map (·.1)).map fun column => volume.part column.1)
            (.volume ((volumeColumns policy).map (·.2))) =
          (RecordRule.volume policy).alerts volume := by
      rw [List.map_map]
      refine (alerts_volume volume.part (volumeColumns policy)).trans ?_
      simp only [volumeColumns, List.map_append, map_volumeTextColumn]
      simp only [RecordRule.volume, Volume.part, volumeModeColumn]
      congr 1
      cases policy.readOnly with
      | none => rfl
      | some readOnly => cases readOnly <;> rfl
    refine ⟨policy, set, ?_, ?_⟩
    · rw [List.map_map]
      exact (labels_volumeColumns_sublist policy).subset
    · simp only [LinkedDemand.rule, holds, alerts]

/-! ## Whole records -/

/-- A check whose demand sees one value per record goes by the rule of its demand. -/
theorem exists_goesBy_rule
    {α : Type}
    {check : LinkedCheck}
    {registry : FieldRegistry}
    {contribution : Contribution}
    (isStandard : registry.IsStandard)
    (contributed :
      (LeafCheck.linked check).contribution? fields registry = .ok (some contribution)) :
    ∃ demand, check.demand? fields = some demand ∧
      ∀ (now : Calendar.Instant) (values : FieldValues) (records : List α)
        (part : α → FieldLabel → String),
        (∀ label ∈ demand.columns.map (·.1),
          values.get label.metadata.path = records.map fun record => part record label) →
        contribution.GoesBy now values records (demand.rule part) := by
  obtain ⟨plain, run, rfl⟩ := LeafCheck.contribution?_eq_ok_some_iff.1 contributed
  have isPlain := LeafCheck.isPlain_of_plainContribution? run
  obtain ⟨demand, demanded, compiled⟩ := LeafCheck.linked_contributed_iff.1 run
  refine ⟨demand, demanded, fun now values records part columnar => ?_⟩
  exact (demand.goesBy_rule isStandard compiled now columnar).keyed isPlain check.name

/-- The linked checks go by whole records: by layers, vulnerabilities and volumes.  A
policy on scores that also names a version asks both of one vulnerability. -/
theorem goesBy_records
    {registry : FieldRegistry}
    (isStandard : registry.IsStandard)
    (now : Calendar.Instant)
    (fields : PolicyFields)
    (image : Image)
    (deployment : Deployment)
    (contribution : Contribution) :
    ((LeafCheck.linked dockerfileLine).contribution? fields registry = .ok (some contribution) →
      ∃ rule, fields.lineRule = some rule ∧
        contribution.GoesBy now image.fieldValues image.layers (.instruction rule)) ∧
    ((LeafCheck.linked cve).contribution? fields registry = .ok (some contribution) →
      ∃ pattern, nonEmpty? fields.cve = some pattern ∧
        contribution.GoesBy now image.fieldValues image.vulnerabilities (.identifier pattern)) ∧
    ((LeafCheck.linked cvss).contribution? fields registry = .ok (some contribution) →
      ∃ policy, fields.cvss = some policy ∧
        contribution.GoesBy now image.fieldValues image.vulnerabilities
          (.score policy (nonEmpty? fields.fixedBy))) ∧
    ((LeafCheck.linked fixedBy).contribution? fields registry = .ok (some contribution) →
      ∃ pattern, fields.cvss = none ∧ nonEmpty? fields.fixedBy = some pattern ∧
        contribution.GoesBy now image.fieldValues image.vulnerabilities (.fixedVersion pattern)) ∧
    ((LeafCheck.linked volume).contribution? fields registry = .ok (some contribution) →
      ∃ policy, fields.volume = some policy ∧
        contribution.GoesBy now deployment.fieldValues deployment.volumes (.volume policy)) ∧
    ((LeafCheck.linked hostMount).contribution? fields registry = .ok (some contribution) →
      ∃ policy, fields.hostMount = some policy ∧
        contribution.GoesBy now deployment.fieldValues deployment.volumes
          (.hostMount (policy.readOnly.getD false))) := by
  refine ⟨?dockerfileLine, ?cve, ?cvss, ?fixedBy, ?volume, ?hostMount⟩ <;> intro contributed
  case dockerfileLine =>
    obtain ⟨demand, demanded, goesBy⟩ := exists_goesBy_rule isStandard contributed
    obtain ⟨rule, set, labels, ofRecords⟩ := rule_of_dockerfileLineDemand? demanded
    refine ⟨rule, set, ofRecords ▸ goesBy now _ _ _ fun label member => ?_⟩
    exact image.get_layers (labels member)
  case cve =>
    obtain ⟨demand, demanded, goesBy⟩ := exists_goesBy_rule isStandard contributed
    obtain ⟨pattern, set, labels, ofRecords⟩ := rule_of_cveDemand? demanded
    refine ⟨pattern, set, ofRecords ▸ goesBy now _ _ _ fun label member => ?_⟩
    exact image.get_vulnerabilities (labels member)
  case cvss =>
    obtain ⟨demand, demanded, goesBy⟩ := exists_goesBy_rule isStandard contributed
    obtain ⟨policy, set, labels, ofRecords⟩ := rule_of_cvssDemand? demanded
    refine ⟨policy, set, ofRecords ▸ goesBy now _ _ _ fun label member => ?_⟩
    exact image.get_vulnerabilities (labels member)
  case fixedBy =>
    obtain ⟨demand, demanded, goesBy⟩ := exists_goesBy_rule isStandard contributed
    obtain ⟨pattern, unset, set, labels, ofRecords⟩ := rule_of_fixedByDemand? demanded
    refine ⟨pattern, unset, set, ofRecords ▸ goesBy now _ _ _ fun label member => ?_⟩
    exact image.get_vulnerabilities (labels member)
  case volume =>
    obtain ⟨demand, demanded, goesBy⟩ := exists_goesBy_rule isStandard contributed
    obtain ⟨policy, set, labels, ofRecords⟩ := rule_of_volumeDemand? demanded
    refine ⟨policy, set, ofRecords ▸ goesBy now _ _ _ fun label member => ?_⟩
    exact deployment.get_volumes (labels member)
  case hostMount =>
    obtain ⟨demand, demanded, goesBy⟩ := exists_goesBy_rule isStandard contributed
    obtain ⟨policy, set, labels, ofRecords⟩ := rule_of_hostMountDemand? demanded
    refine ⟨policy, set, ofRecords ▸ goesBy now _ _ _ fun label member => ?_⟩
    exact deployment.get_volumes (labels member)

/-- Two containers that mount host paths, of which one may be written. -/
def mountingDeployment : Deployment where
  id := ""
  name := ""
  namespaceName := ""
  clusterId := ""
  containers :=
    [{ name := "web"
       volumes :=
        [{ name := "certs", source := "/etc/certs", readOnly := true, volumeType := "HostPath" }] },
      { name := "log"
        volumes := [{ name := "logs", source := "/var/log", volumeType := "HostPath" }] }]

/-- Of two mounts in two containers, a policy on writable mounts tells of the second. -/
theorem goesBy_records_of_writable_mount :
    ∃ contribution,
      (LeafCheck.linked hostMount).contribution? { hostMount := some {} } .standard =
          .ok (some contribution) ∧
        ∀ now,
          contribution.printer.alerts
              (contribution.query.evaluate now mountingDeployment.fieldValues).found =
            [{ message := "Writable host mount '/var/log' found" }] := by
  refine ⟨_, rfl, fun now => ?_⟩
  obtain ⟨policy, set, goesBy⟩ :=
    (goesBy_records FieldRegistry.isStandard_standard now { hostMount := some {} } { id := "" }
      mountingDeployment _).2.2.2.2.2 rfl
  cases set
  exact goesBy.alerts

end LinkedCheck
end WorkloadPolicy
