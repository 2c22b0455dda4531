import WorkloadPolicy.Proofs.Blanks
import WorkloadPolicy.Proofs.Capabilities
import WorkloadPolicy.Proofs.Failure

/-!
# Fields that a policy needs

The parts of a policy that ask for something determine which fields are looked
up, whatever comes of the lookup.  Registries that agree about these fields compile
the policy to the same, and a registry compiles it only if it serves them all.
-/

namespace WorkloadPolicy

namespace FieldRegistry

/-- A field is registered and stored. -/
def Serves (registry : FieldRegistry) (label : FieldLabel) : Prop :=
  ∃ metadata, registry.lookup label = some metadata ∧ metadata.stored = true

end FieldRegistry

/-! ## Runs that look fields up -/

section Runs

variable {ε α β : Type}

/-- A run depends on some fields of a registry only, and succeeds only if the
registry serves them all. -/
structure LooksUp
    (labels : List FieldLabel)
    (run : FieldRegistry → Except ε α) : Prop where
  congr : ∀ {first second : FieldRegistry},
    (∀ label ∈ labels, first.lookup label = second.lookup label) → run first = run second
  serves : ∀ {registry : FieldRegistry} {result : α},
    run registry = .ok result → ∀ label ∈ labels, registry.Serves label

namespace LooksUp

variable {labels others : List FieldLabel}

/-- A run without a registry needs no field. -/
theorem const (run : Except ε α) : LooksUp [] fun _ => run where
  congr _ := rfl
  serves _ := by simp

/-- A run that fails in any case may be said to need any fields. -/
theorem error (labels : List FieldLabel) (error : ε) :
    LooksUp labels fun _ => (.error error : Except ε α) where
  congr _ := rfl
  serves run := by simp at run

theorem requireField (check : String) (label : FieldLabel) :
    LooksUp [label] fun registry => WorkloadPolicy.requireField check registry label where
  congr agree := by
    rw [WorkloadPolicy.requireField, FieldRegistry.require,
      agree label (List.mem_singleton_self label)]
    rfl
  serves run := by
    rw [List.forall_mem_singleton]
    exact ⟨_, requireField_eq_ok_iff.1 run⟩

theorem bind
    {run : FieldRegistry → Except ε α}
    {next : α → FieldRegistry → Except ε β}
    (first : LooksUp labels run)
    (after : ∀ value, LooksUp others (next value)) :
    LooksUp (labels ++ others) fun registry =>
      run registry >>= fun value => next value registry where
  congr agree := by
    rw [List.forall_mem_append] at agree
    rw [first.congr agree.1]
    congr
    funext value
    exact (after value).congr agree.2
  serves succeeded := by
    obtain ⟨value, ran, rest⟩ := Outcome.bind_eq_ok_iff.1 succeeded
    exact List.forall_mem_append.2 ⟨first.serves ran, (after value).serves rest⟩

/-- What follows a run may need no field. -/
theorem bind_const
    {run : FieldRegistry → Except ε α}
    (first : LooksUp labels run)
    (next : α → Except ε β) :
    LooksUp labels fun registry => run registry >>= next := by
  simpa using bind first fun value => const (next value)

theorem map
    {run : FieldRegistry → Except ε α}
    (looks : LooksUp labels run)
    (change : α → β) :
    LooksUp labels fun registry => (run registry).map change where
  congr agree := by rw [looks.congr agree]
  serves succeeded := by
    obtain ⟨value, ran, -⟩ := Outcome.map_eq_ok_iff.1 succeeded
    exact looks.serves ran

theorem mapError
    {δ : Type}
    {run : FieldRegistry → Except ε α}
    (looks : LooksUp labels run)
    (change : ε → δ) :
    LooksUp labels fun registry => (run registry).mapError change where
  congr agree := by rw [looks.congr agree]
  serves succeeded := looks.serves (Outcome.mapError_eq_ok_iff.1 succeeded)

theorem mapM
    {step : FieldRegistry → α → Except ε β}
    {needs : α → List FieldLabel}
    (each : ∀ input, LooksUp (needs input) fun registry => step registry input)
    (inputs : List α) :
    LooksUp (inputs.flatMap needs) fun registry => inputs.mapM (step registry) := by
  induction inputs with
  | nil => exact const _
  | cons input inputs hypothesis =>
      simp only [List.mapM_cons, List.flatMap_cons]
      refine bind (each input) fun first => ?_
      exact bind_const hypothesis fun others => pure (first :: others)

end LooksUp
end Runs

/-! ## Fields that a check needs -/

/-- Whether a text is set and not empty. -/
def hasText (text : Option String) : Bool :=
  (nonEmpty? text).isSome

/-- Some fields, if something asks for them. -/
def neededIf (asked : Bool) (labels : List FieldLabel) : List FieldLabel :=
  if asked then labels else []

@[simp] theorem neededIf_true (labels : List FieldLabel) : neededIf true labels = labels := rfl

@[simp] theorem neededIf_false (labels : List FieldLabel) : neededIf false labels = [] := rfl

theorem neededIf_subset
    (asked : Bool)
    {labels others : List FieldLabel}
    (subset : labels ⊆ others) :
    neededIf asked labels ⊆ others := by
  cases asked
  · exact List.nil_subset _
  · exact subset

/-- The fields that name a service account. -/
def accountLabels : List FieldLabel := [.clusterId, .namespaceName, .serviceAccount]

theorem looksUp_ofRegistry : LooksUp accountLabels AccountFields.ofRegistry := by
  show LooksUp ([.clusterId] ++ ([.namespaceName] ++ [.serviceAccount])) _
  refine .bind (.requireField ..) fun cluster => ?_
  refine .bind (.requireField ..) fun namespaceName => ?_
  exact .bind_const (.requireField ..) fun account => .ok _

namespace LeafCheck

/-- The fields that a check needs for the demand that it makes. -/
def labels (fields : PolicyFields) : LeafCheck → List FieldLabel
  | field check =>
      match check.demand? fields with
      | .ok (some _) => [check.label]
      | _ => []
  | linked check => (check.demand? fields).elim [] fun demand => demand.columns.map (·.1)
  | permission _ => neededIf fields.permission.isSome accountLabels

theorem looksUp_field (check : FieldCheck) (fields : PolicyFields) :
    LooksUp ((field check).labels fields) fun registry => check.contribution? fields registry := by
  unfold FieldCheck.contribution?
  cases demanded : check.demand? fields with
  | error error => exact .error _ error
  | ok demand =>
      cases demand with
      | none =>
          simp only [labels, demanded]
          exact .const (.ok none)
      | some demand =>
          simp only [labels, demanded]
          exact .bind_const (.requireField check.name check.label) fun metadata =>
            demand.contribution? check.name check.label metadata

theorem looksUp_linked (check : LinkedCheck) (fields : PolicyFields) :
    LooksUp ((linked check).labels fields) fun registry => check.contribution? fields registry := by
  unfold LinkedCheck.contribution?
  cases demanded : check.demand? fields with
  | none =>
      simp only [labels, demanded]
      exact .const (.ok none)
  | some demand =>
      simp only [labels, demanded, Option.elim_some]
      refine .map ?_ some
      unfold LinkedDemand.contribution
      cases compiled : demand.columns.mapM fun column => do
          let operation ← column.2.operation check.name
          .ok (column.1, operation) with
      | error error => exact .error _ error
      | ok columns =>
          rw [← LinkedDemand.labels_of_compiled compiled, List.map_eq_flatMap]
          refine .bind_const (.mapM (fun column => ?_) columns) fun leaves => .ok _
          exact .bind_const (.requireField check.name column.1) fun metadata => .ok _

theorem looksUp_permission (store : Access.Store) (fields : PolicyFields) :
    LooksUp ((permission store).labels fields) fun registry =>
      permissionContribution? store fields registry := by
  unfold permissionContribution?
  cases set : fields.permission with
  | none =>
      simp only [labels, set, Option.isSome_none, neededIf_false]
      exact .const (.ok none)
  | some policy =>
      simp only [labels, set, Option.isSome_some, neededIf_true]
      exact .bind_const looksUp_ofRegistry fun accountFields => _

/-- The leaves that a check contributes test fields that it needs. -/
theorem label_mem_labels
    {check : LeafCheck}
    {fields : PolicyFields}
    {registry : FieldRegistry}
    {part : Contribution}
    (contributed : check.contribution? fields registry = .ok (some part))
    {field : FieldQuery}
    (member : field ∈ part.query.fields) :
    field.label ∈ check.labels fields := by
  obtain ⟨plain, run, rfl⟩ := contribution?_eq_ok_some_iff.1 contributed
  rw [Contribution.keyed, Query.fields_keyed] at member
  obtain ⟨bare, inPlain, rfl⟩ := List.mem_map.1 member
  show bare.label ∈ check.labels fields
  cases check with
  | field check =>
      obtain ⟨demand, metadata, operations, demanded, -, served⟩ :=
        served_of_field_contributed run
      obtain ⟨operation, -, rfl⟩ := served.madeOf.of_mem_fields inPlain
      simp [labels, demanded, FieldQuery.ofField]
  | linked check =>
      obtain ⟨demand, leaves, demanded, served⟩ := served_of_linked_contributed run
      rw [served.query, Query.fields_linked] at inPlain
      rw [labels, demanded, Option.elim_some, ← served.labels]
      exact List.mem_map_of_mem inPlain
  | permission store =>
      obtain ⟨accountFields, -, madeOf, -⟩ := served_of_permission_contributed run
      have asked : fields.permission.isSome = true := by
        cases set : fields.permission with
        | none => simp [plainContribution?, permissionContribution?, set] at run
        | some policy => rfl
      rw [labels, asked, neededIf_true]
      obtain ⟨⟨_, rfl⟩ | ⟨_, rfl⟩ | ⟨_, rfl⟩, -⟩ := madeOf.of_mem_fields inPlain <;>
        simp [accountLabels, FieldQuery.ofField]

/-- A check looks up the fields that it needs. -/
theorem looksUp (check : LeafCheck) (fields : PolicyFields) :
    LooksUp (check.labels fields) fun registry => check.contribution? fields registry := by
  refine .map ?_ _
  cases check with
  | field check => exact looksUp_field check fields
  | linked check => exact looksUp_linked check fields
  | permission store => exact looksUp_permission store fields

end LeafCheck

/-- A tree looks up what its leaves need. -/
theorem Check.looksUp (check : Check) (fields : PolicyFields) :
    LooksUp (check.leaves.flatMap (LeafCheck.labels fields)) fun registry =>
      check.contribution? fields registry where
  congr agree := by
    apply contribution?_congr
    intro leaf member
    apply (leaf.looksUp fields).congr
    exact fun label needed => agree label (List.mem_flatMap.2 ⟨leaf, member, needed⟩)
  serves {registry outcome} succeeded := by
    intro label needed
    obtain ⟨leaf, member, inLeaf⟩ := List.mem_flatMap.1 needed
    obtain ⟨part, leafRun⟩ := exists_outcome_of_mem_leaves succeeded member
    exact (leaf.looksUp fields).serves leafRun label inLeaf

/-! ## Fields that a scope needs -/

namespace Scope

/-- The fields that an entry of a scope needs for what it sets. -/
def labels (scope : Scope) : List FieldLabel :=
  neededIf (hasText scope.cluster) [.clusterId] ++
    neededIf (hasText scope.namespaceName) [.namespaceName] ++
    neededIf (hasText (scope.label.bind (·.key))) [.deploymentLabels]

theorem looksUp_exactQuery? (label : FieldLabel) (text : Option String) :
    LooksUp (neededIf (hasText text) [label]) fun registry => exactQuery? registry label text := by
  unfold exactQuery? hasText
  cases nonEmpty? text with
  | none => exact .const (.ok none)
  | some expected => exact .bind_const (.requireField scopeName label) fun metadata => .ok _

theorem looksUp_labelQuery? (label : Option KeyValuePolicy) :
    LooksUp (neededIf (hasText (label.bind (·.key))) [.deploymentLabels]) fun registry =>
      labelQuery? registry label := by
  unfold labelQuery? hasText
  cases label with
  | none => exact .const (.ok none)
  | some policy =>
      simp only [Option.bind_some]
      cases nonEmpty? policy.key with
      | some key => exact .bind_const (.requireField scopeName .deploymentLabels) fun metadata => _
      | none =>
          cases nonEmpty? policy.value with
          | none => exact .const (.ok none)
          | some value => exact .error _ (CheckError.valueWithoutKey scopeName)

/-- An entry of a scope looks up the fields that it needs. -/
theorem looksUp (scope : Scope) :
    LooksUp scope.labels fun registry => query? registry scope := by
  unfold query? labels
  rw [List.append_assoc]
  refine .bind (looksUp_exactQuery? ..) fun cluster => ?_
  refine .bind (looksUp_exactQuery? ..) fun namespaceName => ?_
  exact .bind_const (looksUp_labelQuery? scope.label) fun label => .ok _

theorem looksUp_listQuery? (scopes : List Scope) :
    LooksUp (scopes.flatMap labels) fun registry => listQuery? registry scopes :=
  .bind_const (.mapM looksUp scopes) fun queries => .ok (Query.any? (queries.filterMap id))

end Scope

/-! ## Fields that constraints need -/

namespace PolicyFields

/-- The names of the capabilities of a policy can all be cut. -/
def NamesCapabilities (fields : PolicyFields) : Prop :=
  ∀ name ∈ fields.dropCapabilities ++ fields.addCapabilities, Capability.reduced? name ≠ none

/-- The fields that the parts of a policy need, part by part.  A part that is blank
needs none, and neither does a value without a key, which is refused before any
field is looked up. -/
def needs (fields : PolicyFields) : List (List FieldLabel) :=
  [neededIf (hasText (fields.imageName.bind (·.registry))) [.imageRegistry],
    neededIf (hasText (fields.imageName.bind (·.remote))) [.imageRemote],
    neededIf (hasText (fields.imageName.bind (·.tag))) [.imageTag],
    neededIf fields.imageAgeDays.isSome [.imageCreatedTime],
    neededIf (fields.lineRule.any fun rule => !(rule.instruction.isEmpty && rule.value.isEmpty))
      [.dockerfileInstruction, .dockerfileValue],
    neededIf (hasText fields.cve) [.cve, .cveLink],
    neededIf fields.cvss.isSome ([.cvss, .cve] ++ neededIf (hasText fields.fixedBy) [.fixedBy]),
    neededIf (fields.cvss.isNone && hasText fields.fixedBy) [.fixedBy, .cve],
    neededIf (hasText (fields.component.bind (·.name))) [.component],
    neededIf (hasText (fields.component.bind (·.version))) [.componentVersion],
    neededIf fields.scanAgeDays.isSome [.imageScanTime],
    neededIf (fields.noScanExists == some true) [.imageScanTime],
    neededIf (hasText (fields.env.bind (·.key))) [.environmentVariable],
    neededIf (hasText (fields.volume.bind (·.name))) [.volumeName] ++
      neededIf (hasText (fields.volume.bind (·.source))) [.volumeSource] ++
      neededIf (hasText (fields.volume.bind (·.destination))) [.volumeDestination] ++
      neededIf (hasText (fields.volume.bind (·.volumeType))) [.volumeType] ++
      neededIf (fields.volume.bind (·.readOnly)).isSome [.volumeReadOnly],
    neededIf (fields.port.bind (·.port)).isSome [.port],
    neededIf (hasText (fields.port.bind (·.protocol))) [.protocol],
    neededIf (!fields.portExposure.isEmpty) [.portExposure],
    neededIf (hasText (fields.labelRequired.bind (·.key))) [.deploymentLabels],
    neededIf (hasText (fields.annotationRequired.bind (·.key))) [.deploymentAnnotations],
    neededIf (hasText (fields.annotationDisallowed.bind (·.key))) [.deploymentAnnotations],
    neededIf (hasText (fields.imageLabelRequired.bind (·.key))) [.imageLabels],
    neededIf (hasText (fields.imageLabelDisallowed.bind (·.key))) [.imageLabels],
    neededIf fields.privileged.isSome [.privileged],
    neededIf (hasText (fields.process.bind (·.name))) [.processName],
    neededIf (hasText (fields.process.bind (·.args))) [.processArguments],
    neededIf fields.hostMount.isSome [.volumeType, .volumeReadOnly, .volumeSource],
    neededIf fields.readOnlyRootFs.isSome [.readOnlyRootFilesystem],
    neededIf (!fields.dropCapabilities.all Capability.isBlank) [.dropCapabilities],
    neededIf (!fields.addCapabilities.all Capability.isBlank) [.addCapabilities],
    neededIf (fields.resources.bind (·.cpuRequest)).isSome [.cpuCoresRequest],
    neededIf (fields.resources.bind (·.cpuLimit)).isSome [.cpuCoresLimit],
    neededIf (fields.resources.bind (·.memoryRequest)).isSome [.memoryRequest],
    neededIf (fields.resources.bind (·.memoryLimit)).isSome [.memoryLimit]]

end PolicyFields

theorem hasText_eq_true {text : String} (inhabited : text ≠ "") : hasText (some text) = true := by
  simp [hasText, nonEmpty?, inhabited]

/-- A number is not written as the empty text. -/
theorem hasText_toString (number : Option Nat) :
    hasText (number.map toString) = number.isSome := by
  cases number with
  | none => rfl
  | some number =>
      apply hasText_eq_true
      intro empty
      have digits := congrArg String.toList empty
      simp at digits

theorem hasText_exposurePattern? (fields : PolicyFields) :
    hasText (Check.exposurePattern? fields) = !fields.portExposure.isEmpty := by
  unfold Check.exposurePattern?
  cases fields.portExposure with
  | nil => rfl
  | cons level levels =>
      apply hasText_eq_true
      intro empty
      have characters := congrArg String.toList empty
      cases levels <;> cases level <;> simp [ExposureLevel.name] at characters

/-- Nothing is left of a list of capabilities if all of it is blank. -/
theorem Capability.isEmpty_reduced
    {names : List String}
    (reducible : ∀ name ∈ names, reduced? name ≠ none) :
    ((names.filterMap reduced?).filter (!·.isEmpty)).isEmpty = names.all isBlank := by
  induction names with
  | nil => rfl
  | cons name names hypothesis =>
      obtain ⟨first, others⟩ := List.forall_mem_cons.1 reducible
      obtain ⟨reduced, found⟩ := Option.ne_none_iff_exists'.1 first
      have same : isBlank name = reduced.isEmpty := by
        rw [isBlank, found, Bool.eq_iff_iff, String.isEmpty_iff]
        simp
      rw [List.filterMap_cons_some found, List.all_cons, same, ← hypothesis others]
      cases empty : reduced.isEmpty <;> simp [empty]

namespace LeafCheck

section Families

variable
  {fields : PolicyFields}
  (name : String)
  (label : FieldLabel)

@[simp] theorem labels_pattern
    (subject : String)
    (anywhere : Bool)
    (source : PolicyFields → Option String) :
    (field (.pattern name label subject anywhere source)).labels fields =
      neededIf (hasText (source fields)) [label] := by
  simp only [labels, FieldCheck.pattern, hasText]
  cases nonEmpty? (source fields) <;> rfl

@[simp] theorem labels_exact (subject : String) (source : PolicyFields → Option String) :
    (field (.exact name label subject source)).labels fields =
      neededIf (hasText (source fields)) [label] := by
  simp only [labels, FieldCheck.exact, hasText]
  cases nonEmpty? (source fields) <;> rfl

@[simp] theorem labels_process (aspect : String) (source : PolicyFields → Option String) :
    (field (.process name label aspect source)).labels fields =
      neededIf (hasText (source fields)) [label] := by
  simp only [labels, FieldCheck.process, hasText]
  cases nonEmpty? (source fields) <;> rfl

@[simp] theorem labels_threshold
    (description : String)
    (source : PolicyFields → Option NumericalPolicy) :
    (field (.threshold name label description source)).labels fields =
      neededIf (source fields).isSome [label] := by
  simp only [labels, FieldCheck.threshold]
  cases source fields <;> rfl

@[simp] theorem labels_age (subject : String) (source : PolicyFields → Option Int) :
    (field (.age name label subject source)).labels fields =
      neededIf (source fields).isSome [label] := by
  simp only [labels, FieldCheck.age]
  cases source fields <;> rfl

@[simp] theorem labels_flag
    (whenTrue whenFalse : String)
    (source : PolicyFields → Option Bool) :
    (field (.flag name label whenTrue whenFalse source)).labels fields =
      neededIf (source fields).isSome [label] := by
  simp only [labels, FieldCheck.flag]
  cases source fields <;> rfl

@[simp] theorem labels_missing (message : String) (source : PolicyFields → Option Bool) :
    (field (.missing name label message source)).labels fields =
      neededIf (source fields == some true) [label] := by
  simp only [labels, FieldCheck.missing]
  cases source fields == some true <;> rfl

@[simp] theorem labels_entry
    (demand : String → Option String → FieldDemand)
    (source : PolicyFields → Option KeyValuePolicy) :
    (field (.entry name label demand source)).labels fields =
      neededIf (hasText ((source fields).bind (·.key))) [label] := by
  simp only [labels, FieldCheck.entry, hasText]
  cases source fields with
  | none => rfl
  | some policy =>
      simp only [Option.bind_some]
      cases nonEmpty? policy.key with
      | some key => rfl
      | none => cases nonEmpty? policy.value <;> rfl

/-- A list of capabilities needs its field unless all of it is blank. -/
theorem labels_capabilities
    (demand : List String → FieldDemand)
    {source : PolicyFields → List String}
    (reducible : ∀ capability ∈ source fields, Capability.reduced? capability ≠ none) :
    (field (.capabilities name label demand source)).labels fields =
      neededIf (!(source fields).all Capability.isBlank) [label] := by
  have reduced := Capability.reducedNames_eq_ok_iff.2 ⟨reducible, rfl⟩
  simp only [labels, FieldCheck.capabilities, reduced, bind, Except.bind,
    Capability.isEmpty_reduced reducible]
  cases (source fields).all Capability.isBlank <;> rfl

theorem labels_dockerfileLine :
    (linked .dockerfileLine).labels fields =
      neededIf (fields.lineRule.any fun rule => !(rule.instruction.isEmpty && rule.value.isEmpty))
        [.dockerfileInstruction, .dockerfileValue] := by
  simp only [labels, LinkedCheck.dockerfileLine, LinkedCheck.dockerfileLineDemand?]
  cases fields.lineRule with
  | none => rfl
  | some rule =>
      simp only [bind, Option.bind_some, Option.any_some]
      cases rule.instruction.isEmpty && rule.value.isEmpty <;> rfl

theorem labels_cve :
    (linked .cve).labels fields = neededIf (hasText fields.cve) [.cve, .cveLink] := by
  simp only [labels, LinkedCheck.cve, LinkedCheck.cveDemand?, hasText]
  cases nonEmpty? fields.cve <;> rfl

theorem labels_cvss :
    (linked .cvss).labels fields =
      neededIf fields.cvss.isSome
        ([.cvss, .cve] ++ neededIf (hasText fields.fixedBy) [.fixedBy]) := by
  simp only [labels, LinkedCheck.cvss, LinkedCheck.cvssDemand?, hasText]
  cases fields.cvss with
  | none => rfl
  | some policy =>
      simp only [bind, Option.bind_some, Option.elim_some, List.map_append]
      cases nonEmpty? fields.fixedBy <;> rfl

theorem labels_fixedBy :
    (linked .fixedBy).labels fields =
      neededIf (fields.cvss.isNone && hasText fields.fixedBy) [.fixedBy, .cve] := by
  simp only [labels, LinkedCheck.fixedBy, LinkedCheck.fixedByDemand?, hasText]
  cases fields.cvss with
  | some policy => rfl
  | none => cases nonEmpty? fields.fixedBy <;> rfl

theorem labels_hostMount :
    (linked .hostMount).labels fields =
      neededIf fields.hostMount.isSome [.volumeType, .volumeReadOnly, .volumeSource] := by
  simp only [labels, LinkedCheck.hostMount, LinkedCheck.hostMountDemand?]
  cases fields.hostMount <;> rfl

theorem labels_volumeTextColumn
    (subject : String)
    (text : Option String) :
    (LinkedCheck.volumeTextColumn label subject text).map (·.1.1) =
      neededIf (hasText text) [label] := by
  unfold LinkedCheck.volumeTextColumn hasText
  cases nonEmpty? text <;> rfl

theorem labels_volumeModeColumn (readOnly : Option Bool) :
    (LinkedCheck.volumeModeColumn readOnly).map (·.1.1) =
      neededIf readOnly.isSome [.volumeReadOnly] := by
  cases readOnly <;> rfl

theorem labels_volume :
    (linked .volume).labels fields =
      neededIf (hasText (fields.volume.bind (·.name))) [.volumeName] ++
        neededIf (hasText (fields.volume.bind (·.source))) [.volumeSource] ++
        neededIf (hasText (fields.volume.bind (·.destination))) [.volumeDestination] ++
        neededIf (hasText (fields.volume.bind (·.volumeType))) [.volumeType] ++
        neededIf (fields.volume.bind (·.readOnly)).isSome [.volumeReadOnly] := by
  simp only [labels, LinkedCheck.volume, LinkedCheck.volumeDemand?]
  cases fields.volume with
  | none => rfl
  | some policy =>
      have columns :
          (LinkedCheck.volumeColumns policy).map (·.1.1) =
            neededIf (hasText policy.name) [.volumeName] ++
              neededIf (hasText policy.source) [.volumeSource] ++
              neededIf (hasText policy.destination) [.volumeDestination] ++
              neededIf (hasText policy.volumeType) [.volumeType] ++
              neededIf policy.readOnly.isSome [.volumeReadOnly] := by
        simp only [LinkedCheck.volumeColumns, List.map_append, labels_volumeTextColumn,
          labels_volumeModeColumn]
      simp only [bind, Option.bind_some, ← columns]
      split
      · rename_i unset
        rw [unset]
        rfl
      · rw [Option.elim_some, List.map_map]
        rfl

end Families

/-- The standard checks need the fields of the parts of a policy, in order. -/
theorem map_labels_standard {fields : PolicyFields} (reducible : fields.NamesCapabilities) :
    (Check.leavesOfAll Check.standard).map (labels fields) = fields.needs := by
  obtain ⟨dropped, added⟩ := List.forall_mem_append.1 reducible
  simp only [Check.standard, Check.imageName, Check.component, Check.port, Check.process,
    Check.resources, Check.ofField, Check.ofLinked, Check.leavesOfAll, Check.leaves,
    List.cons_append, List.nil_append, List.append_nil, List.map_cons, List.map_nil,
    labels_pattern, labels_exact, labels_process, labels_threshold, labels_age, labels_flag,
    labels_missing, labels_entry, labels_dockerfileLine, labels_cve, labels_cvss,
    labels_fixedBy, labels_hostMount, labels_volume, hasText_toString, hasText_exposurePattern?]
  rw [labels_capabilities _ _ _ dropped, labels_capabilities _ _ _ added]
  rfl

end LeafCheck

/-! ## Fields that a policy needs -/

namespace Compiler

variable {compiler : Compiler} {policy : Policy}

/-- The fields that constraints need: those of their parts, and those of service
accounts if a threshold for permissions is in force. -/
def constraintLabels (compiler : Compiler) (fields : PolicyFields) : List FieldLabel :=
  fields.needs.flatten ++ neededIf (compiler.enforces fields) accountLabels

/-- The fields that a policy needs for its constraints and for its scope. -/
def labels (compiler : Compiler) (policy : Policy) : List FieldLabel :=
  policy.fields.elim [] compiler.constraintLabels ++ policy.scope.flatMap Scope.labels

theorem looksUp_tree
    (standard : compiler.checks = Check.standard)
    {fields : PolicyFields}
    (reducible : fields.NamesCapabilities)
    {policyName : String}
    {added : List Check}
    (permitted : compiler.permissionChecks policyName fields = .ok added) :
    LooksUp (compiler.constraintLabels fields) fun registry =>
      (compiler.tree added).contribution? fields registry := by
  have looks := Check.looksUp (compiler.tree added) fields
  rw [leaves_tree, standard, List.flatMap_append, List.flatMap_def,
    LeafCheck.map_labels_standard reducible] at looks
  have ofThreshold :
      (Check.leavesOfAll added).flatMap (LeafCheck.labels fields) =
        neededIf (compiler.enforces fields) accountLabels := by
    rw [permissionChecks_eq] at permitted
    cases bound : compiler.enforces fields with
    | false =>
        rw [if_neg (by simp [bound])] at permitted
        cases permitted
        rfl
    | true =>
        have set : fields.permission.isSome = true := (Bool.and_eq_true_iff.1 bound).1
        rw [if_pos bound] at permitted
        split at permitted
        · cases permitted
          simp [Check.leavesOfAll, LeafCheck.labels, set]
        · simp at permitted
  rwa [ofThreshold] at looks

/-- What the checks of a policy contribute depends on the fields of its constraints. -/
theorem looksUp_contribution
    (standard : compiler.checks = Check.standard)
    {fields : PolicyFields}
    (reducible : fields.NamesCapabilities)
    (policyName : String) :
    LooksUp (compiler.constraintLabels fields) fun registry =>
      ({ compiler with registry := registry } : Compiler).contribution policyName fields := by
  have same (registry : FieldRegistry) :
      ({ compiler with registry := registry } : Compiler).permissionChecks policyName fields =
        compiler.permissionChecks policyName fields := rfl
  unfold contribution
  simp only [same]
  cases permitted : compiler.permissionChecks policyName fields with
  | error error => exact .error _ error
  | ok added => exact .bind_const ((looksUp_tree standard reducible permitted).mapError _) _

/-- A policy looks up the fields that it needs. -/
theorem looksUp_compile
    (standard : compiler.checks = Check.standard)
    (reducible : ∀ fields, policy.fields = some fields → fields.NamesCapabilities) :
    LooksUp (compiler.labels policy) fun registry =>
      ({ compiler with registry := registry } : Compiler).compile policy := by
  refine .bind_const ?_ _
  unfold gatedContribution labels
  cases constrained : policy.constraints with
  | error error => exact .error _ error
  | ok fields =>
      have set := fields_of_constraints constrained
      rw [set, Option.elim_some]
      refine (looksUp_contribution standard (reducible fields set) policy.name).bind ?_
      intro contribution
      exact .bind_const ((Scope.looksUp_listQuery? policy.scope).mapError _) _

/-- Registries that agree about the fields that a policy needs compile it to the same,
and a registry that does not serve one of these fields does not compile it. -/
theorem compile_needs_labels
    (standard : compiler.checks = Check.standard)
    (reducible : ∀ fields, policy.fields = some fields → fields.NamesCapabilities) :
    (∀ registry : FieldRegistry,
        (∀ label ∈ compiler.labels policy,
          registry.lookup label = compiler.registry.lookup label) →
        ({ compiler with registry := registry } : Compiler).compile policy =
          compiler.compile policy) ∧
      ((∃ label ∈ compiler.labels policy, ¬ compiler.registry.Serves label) →
        ∃ error, compiler.compile policy = .error error ∧
          ∀ name, error ≠ .check (.brokenCapability name)) := by
  have looks := looksUp_compile standard reducible
  refine ⟨fun registry agree => looks.congr agree, fun ⟨label, needed, unserved⟩ => ?_⟩
  cases outcome : compiler.compile policy with
  | ok matcher => exact absurd (looks.serves outcome label needed) unserved
  | error error =>
      refine ⟨error, rfl, ?_⟩
      rintro name rfl
      obtain ⟨fields, constrained, isOver | ⟨cause, equal⟩⟩ :=
        isOver_or_store_of_compile standard outcome
      · rcases isOver with ordinary | ⟨capability, listed, broken, -⟩
        · cases ordinary
        · exact reducible fields (fields_of_constraints constrained) capability listed broken
      · cases equal

/-- A policy on privileged containers of a cluster compiles to the same without the
field of vulnerabilities, and not without that of clusters. -/
theorem compile_needs_labels_of_privileged :
    ({ registry := FieldRegistry.standard.erase .cve } : Compiler).compile
          { name := "privileged"
            fields := some { privileged := some true }
            scope := [{ cluster := some "east" }] } =
        ({ registry := .standard } : Compiler).compile
          { name := "privileged"
            fields := some { privileged := some true }
            scope := [{ cluster := some "east" }] } ∧
      ∃ error,
        ({ registry := FieldRegistry.standard.erase .clusterId } : Compiler).compile
            { name := "privileged"
              fields := some { privileged := some true }
              scope := [{ cluster := some "east" }] } =
          .error error := by
  have reducible :
      ∀ fields, some ({ privileged := some true } : PolicyFields) = some fields →
        fields.NamesCapabilities := by
    rintro fields ⟨⟩
    exact List.forall_mem_nil _
  constructor
  · exact (@compile_needs_labels { registry := .standard } _ rfl reducible).1
      (FieldRegistry.standard.erase .cve) (by decide)
  · obtain ⟨error, failed, -⟩ :=
      (@compile_needs_labels { registry := FieldRegistry.standard.erase .clusterId }
        { name := "privileged"
          fields := some { privileged := some true }
          scope := [{ cluster := some "east" }] }
        rfl reducible).2 ⟨.clusterId, by decide, by simp [FieldRegistry.Serves]⟩
    exact ⟨error, failed⟩

end Compiler
end WorkloadPolicy
