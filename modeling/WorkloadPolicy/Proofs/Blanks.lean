import WorkloadPolicy.Proofs.Compilation

/-!
# Blank parts of policies

A policy may mention a family of constraints without asking anything of it: an empty
text, a record without parts, a capability of which no name is left.  The checks pass
over such blanks, so that a policy compiles to the same with and without them.  Only a
policy that consists of blanks fails in another way once they are removed.
-/

namespace WorkloadPolicy

/-! ## Removing blanks -/

/-- A record, unless it is the blank one. -/
def unlessBlank [DecidableEq α] (blank record : α) : Option α :=
  if record = blank then none else some record

/-- What a blank record does not have may be looked for before it is removed. -/
theorem bind_unlessBlank
    [DecidableEq α]
    {blank : α}
    {part : α → Option β}
    (without : part blank = none)
    (record : α) :
    (unlessBlank blank record).bind part = part record := by
  unfold unlessBlank
  split
  · rename_i isBlank
    rw [isBlank, without, Option.bind_none]
  · rfl

/-- A constraint on the entries of a map without empty texts. -/
def KeyValuePolicy.cleaned? (policy : KeyValuePolicy) : Option KeyValuePolicy :=
  unlessBlank {} { key := nonEmpty? policy.key, value := nonEmpty? policy.value }

/-- A constraint on the name of an image without empty texts. -/
def ImageNamePolicy.cleaned? (policy : ImageNamePolicy) : Option ImageNamePolicy :=
  unlessBlank {}
    { registry := nonEmpty? policy.registry
      remote := nonEmpty? policy.remote
      tag := nonEmpty? policy.tag }

/-- A constraint on instructions, unless both of its texts are empty. -/
def DockerfileLineRule.cleaned? (rule : DockerfileLineRule) : Option DockerfileLineRule :=
  unlessBlank { instruction := "" } rule

/-- A constraint on components without empty texts. -/
def ComponentPolicy.cleaned? (policy : ComponentPolicy) : Option ComponentPolicy :=
  unlessBlank {} { name := nonEmpty? policy.name, version := nonEmpty? policy.version }

/-- A constraint on volumes without empty texts. -/
def VolumePolicy.cleaned? (policy : VolumePolicy) : Option VolumePolicy :=
  unlessBlank {}
    { name := nonEmpty? policy.name
      source := nonEmpty? policy.source
      destination := nonEmpty? policy.destination
      readOnly := policy.readOnly
      volumeType := nonEmpty? policy.volumeType }

/-- A constraint on ports without empty texts. -/
def PortPolicy.cleaned? (policy : PortPolicy) : Option PortPolicy :=
  unlessBlank {} { port := policy.port, protocol := nonEmpty? policy.protocol }

/-- A constraint on processes without empty texts. -/
def ProcessPolicy.cleaned? (policy : ProcessPolicy) : Option ProcessPolicy :=
  unlessBlank {} { name := nonEmpty? policy.name, args := nonEmpty? policy.args }

/-- Constraints on resources, unless there are none. -/
def ResourcePolicy.cleaned? (policy : ResourcePolicy) : Option ResourcePolicy :=
  if policy.cpuRequest.isNone && policy.cpuLimit.isNone && policy.memoryRequest.isNone &&
      policy.memoryLimit.isNone then
    none
  else
    some policy

/-- A part of constraints on resources that is absent where all are may be looked for
before they are removed. -/
theorem ResourcePolicy.bind_cleaned?
    {policy : ResourcePolicy}
    {part : ResourcePolicy → Option NumericalPolicy}
    (absent : policy.cpuRequest = none → policy.cpuLimit = none → policy.memoryRequest = none →
      policy.memoryLimit = none → part policy = none) :
    policy.cleaned?.bind part = part policy := by
  unfold cleaned?
  split
  · rename_i blank
    simp only [Bool.and_eq_true, Option.isNone_iff_eq_none] at blank
    obtain ⟨⟨⟨cpuRequest, cpuLimit⟩, memoryRequest⟩, memoryLimit⟩ := blank
    rw [absent cpuRequest cpuLimit memoryRequest memoryLimit, Option.bind_none]
  · rfl

/-- Whether no name is left of a capability. -/
def Capability.isBlank (name : String) : Bool :=
  reduced? name == some ""

/-- Constraints without their blanks.  A constraint on mounts of host paths is never
blank: without parts it looks for writable mounts. -/
def PolicyFields.cleaned (fields : PolicyFields) : PolicyFields :=
  { fields with
    imageName := fields.imageName.bind ImageNamePolicy.cleaned?
    lineRule := fields.lineRule.bind DockerfileLineRule.cleaned?
    cve := nonEmpty? fields.cve
    fixedBy := nonEmpty? fields.fixedBy
    component := fields.component.bind ComponentPolicy.cleaned?
    noScanExists := fields.noScanExists.filter id
    env := fields.env.bind KeyValuePolicy.cleaned?
    volume := fields.volume.bind VolumePolicy.cleaned?
    port := fields.port.bind PortPolicy.cleaned?
    labelRequired := fields.labelRequired.bind KeyValuePolicy.cleaned?
    annotationRequired := fields.annotationRequired.bind KeyValuePolicy.cleaned?
    annotationDisallowed := fields.annotationDisallowed.bind KeyValuePolicy.cleaned?
    imageLabelRequired := fields.imageLabelRequired.bind KeyValuePolicy.cleaned?
    imageLabelDisallowed := fields.imageLabelDisallowed.bind KeyValuePolicy.cleaned?
    process := fields.process.bind ProcessPolicy.cleaned?
    addCapabilities := fields.addCapabilities.filter (!Capability.isBlank ·)
    dropCapabilities := fields.dropCapabilities.filter (!Capability.isBlank ·)
    resources := fields.resources.bind ResourcePolicy.cleaned? }

/-- A policy whose constraints have no blanks. -/
def Policy.cleaned (policy : Policy) : Policy :=
  { policy with fields := policy.fields.map PolicyFields.cleaned }

theorem nonEmpty?_nonEmpty? (text : Option String) :
    nonEmpty? (nonEmpty? text) = nonEmpty? text := by
  apply Option.ext
  intro value
  simp only [nonEmpty?_eq_some_iff, and_assoc, and_self]

/-- A text of a record is the same with and without blanks, if it is not empty. -/
theorem nonEmpty?_bind_cleaned
    {record : Option α}
    {cleaned? : α → Option α}
    {part : α → Option String}
    (keeps : ∀ policy, (cleaned? policy).bind part = nonEmpty? (part policy)) :
    nonEmpty? ((record.bind cleaned?).bind part) = nonEmpty? (record.bind part) := by
  cases record with
  | none => rfl
  | some policy => rw [Option.bind_some, keeps, nonEmpty?_nonEmpty?, Option.bind_some]

/-- Blank capabilities are left out of a list in any case. -/
theorem Capability.reducedNames_filter (names : List String) :
    reducedNames (names.filter (!isBlank ·)) = reducedNames names := by
  induction names with
  | nil => rfl
  | cons name names hypothesis =>
      cases blank : isBlank name with
      | true =>
          have reduced : reduced? name = some "" := eq_of_beq blank
          have passed : reducedNames (name :: names) = reducedNames names := by
            simp only [reducedNames, reduced]
            cases reducedNames names <;> rfl
          rw [List.filter_cons_of_neg (by simp [blank]), hypothesis, passed]
      | false =>
          rw [List.filter_cons_of_pos (by simp [blank])]
          simp only [reducedNames, hypothesis]

/-! ## Checks that pass over blanks -/

namespace LinkedDemand

theorem eq_of_columns_of_template
    {first second : LinkedDemand}
    (columns : first.columns = second.columns)
    (template : first.template = second.template) :
    first = second := by
  cases first
  cases second
  cases columns
  cases template
  rfl

end LinkedDemand

namespace LinkedCheck

theorem cvssDemand?_congr
    {first second : PolicyFields}
    (score : first.cvss = second.cvss)
    (fixed : nonEmpty? first.fixedBy = nonEmpty? second.fixedBy) :
    cvssDemand? first = cvssDemand? second := by
  unfold cvssDemand?
  rw [score]
  cases second.cvss with
  | none => rfl
  | some policy =>
      refine congrArg some (LinkedDemand.eq_of_columns_of_template ?_ rfl)
      show _ ++ _ = _ ++ _
      rw [fixed]

theorem fixedByDemand?_congr
    {first second : PolicyFields}
    (score : first.cvss = second.cvss)
    (fixed : nonEmpty? first.fixedBy = nonEmpty? second.fixedBy) :
    fixedByDemand? first = fixedByDemand? second := by
  unfold fixedByDemand?
  rw [score]
  cases second.cvss with
  | none => simp only [fixed]
  | some policy => rfl

theorem cveDemand?_congr
    {first second : PolicyFields}
    (cve : nonEmpty? first.cve = nonEmpty? second.cve) :
    cveDemand? first = cveDemand? second := by
  simp only [cveDemand?, cve]

/-- A constraint on instructions without texts demands nothing. -/
theorem dockerfileLineDemand?_congr
    {first second : PolicyFields}
    (cleaned : first.lineRule = second.lineRule.bind DockerfileLineRule.cleaned?) :
    dockerfileLineDemand? first = dockerfileLineDemand? second := by
  unfold dockerfileLineDemand?
  rw [cleaned]
  cases second.lineRule with
  | none => rfl
  | some rule =>
      rw [Option.bind_some, DockerfileLineRule.cleaned?]
      exact bind_unlessBlank rfl rule

/-- Demands on volumes are the same if their columns are. -/
theorem volumeDemand?_congr
    {first second : PolicyFields}
    (columns : first.volume.elim [] volumeColumns = second.volume.elim [] volumeColumns) :
    volumeDemand? first = volumeDemand? second := by
  have none_of_nil
      {fields : PolicyFields}
      (nil : fields.volume.elim [] volumeColumns = []) :
      volumeDemand? fields = none := by
    unfold volumeDemand?
    cases set : fields.volume with
    | none => rfl
    | some policy =>
        rw [set] at nil
        exact dif_pos nil
  by_cases nil : second.volume.elim [] volumeColumns = []
  · rw [none_of_nil nil, none_of_nil (columns.trans nil)]
  · cases firstSet : first.volume with
    | none => simp [← columns, firstSet] at nil
    | some firstPolicy =>
        cases secondSet : second.volume with
        | none => simp [secondSet] at nil
        | some secondPolicy =>
            simp only [firstSet, secondSet, Option.elim_some] at columns nil
            have firstNil : volumeColumns firstPolicy ≠ [] := columns ▸ nil
            simp only [volumeDemand?, firstSet, secondSet, bind, Option.bind_some,
              dif_neg nil, dif_neg firstNil]
            refine congrArg some (LinkedDemand.eq_of_columns_of_template ?_ ?_)
            · exact congrArg (List.map (·.1)) columns
            · exact congrArg (fun columns => LinkedTemplate.volume (columns.map (·.2))) columns

theorem volumeColumns_cleaned? (policy : VolumePolicy) :
    policy.cleaned?.elim [] volumeColumns = volumeColumns policy := by
  have columns :
      volumeColumns
          { name := nonEmpty? policy.name
            source := nonEmpty? policy.source
            destination := nonEmpty? policy.destination
            readOnly := policy.readOnly
            volumeType := nonEmpty? policy.volumeType } =
        volumeColumns policy := by
    simp only [volumeColumns, volumeTextColumn, nonEmpty?_nonEmpty?]
  unfold VolumePolicy.cleaned? unlessBlank
  split
  · rename_i isBlank
    rw [← columns, isBlank]
    rfl
  · exact columns

end LinkedCheck

namespace LeafCheck

/-- A check makes no difference between two sets of constraints. -/
def Equates (first second : PolicyFields) (check : LeafCheck) : Prop :=
  ∀ registry, check.contribution? first registry = check.contribution? second registry

variable {first second : PolicyFields}

/-- A check of one field sees a policy through its demand. -/
theorem equates_of_demand?
    {check : FieldCheck}
    (same : check.demand? first = check.demand? second) :
    (field check).Equates first second := by
  intro registry
  have plain : check.contribution? first registry = check.contribution? second registry := by
    rw [FieldCheck.contribution?, same, FieldCheck.contribution?]
  exact congrArg (Except.map _) plain

theorem equates_of_linkedDemand?
    {check : LinkedCheck}
    (same : check.demand? first = check.demand? second) :
    (linked check).Equates first second := by
  intro registry
  have plain : check.contribution? first registry = check.contribution? second registry := by
    rw [LinkedCheck.contribution?, same, LinkedCheck.contribution?]
  exact congrArg (Except.map _) plain

theorem equates_pattern
    {name : String}
    {label : FieldLabel}
    {subject : String}
    {anywhere : Bool}
    {source : PolicyFields → Option String}
    (same : nonEmpty? (source first) = nonEmpty? (source second)) :
    (field (.pattern name label subject anywhere source)).Equates first second := by
  apply equates_of_demand?
  simp only [FieldCheck.pattern, same]

theorem equates_exact
    {name : String}
    {label : FieldLabel}
    {subject : String}
    {source : PolicyFields → Option String}
    (same : source first = source second) :
    (field (.exact name label subject source)).Equates first second := by
  apply equates_of_demand?
  simp only [FieldCheck.exact, same]

theorem equates_threshold
    {name : String}
    {label : FieldLabel}
    {description : String}
    {source : PolicyFields → Option NumericalPolicy}
    (same : source first = source second) :
    (field (.threshold name label description source)).Equates first second := by
  apply equates_of_demand?
  simp only [FieldCheck.threshold, same]

theorem equates_process
    {name : String}
    {label : FieldLabel}
    {aspect : String}
    {source : PolicyFields → Option String}
    (same : nonEmpty? (source first) = nonEmpty? (source second)) :
    (field (.process name label aspect source)).Equates first second := by
  apply equates_of_demand?
  simp only [FieldCheck.process, same]

/-- A check that there are no values asks for nothing unless it is told to. -/
theorem equates_missing
    {name : String}
    {label : FieldLabel}
    {message : String}
    {source : PolicyFields → Option Bool}
    (cleaned : source first = (source second).filter id) :
    (field (.missing name label message source)).Equates first second := by
  apply equates_of_demand?
  simp only [FieldCheck.missing, cleaned]
  cases source second with
  | none => rfl
  | some value => cases value <;> rfl

theorem equates_capabilities
    {name : String}
    {label : FieldLabel}
    {demand : List String → FieldDemand}
    {source : PolicyFields → List String}
    (cleaned : source first = (source second).filter (!Capability.isBlank ·)) :
    (field (.capabilities name label demand source)).Equates first second := by
  apply equates_of_demand?
  simp only [FieldCheck.capabilities, cleaned, Capability.reducedNames_filter]

theorem equates_entry
    {name : String}
    {label : FieldLabel}
    {demand : String → Option String → FieldDemand}
    {source : PolicyFields → Option KeyValuePolicy}
    (cleaned : source first = (source second).bind KeyValuePolicy.cleaned?) :
    (field (.entry name label demand source)).Equates first second := by
  apply equates_of_demand?
  simp only [FieldCheck.entry, cleaned]
  cases source second with
  | none => rfl
  | some policy =>
      rw [Option.bind_some, KeyValuePolicy.cleaned?, unlessBlank]
      by_cases isBlank :
          ({ key := nonEmpty? policy.key, value := nonEmpty? policy.value } : KeyValuePolicy) = {}
      · obtain ⟨key, value⟩ := (KeyValuePolicy.mk.injEq ..).mp isBlank
        rw [if_pos isBlank]
        simp only [key, value]
      · rw [if_neg isBlank]
        simp only [nonEmpty?_nonEmpty?]

end LeafCheck

namespace Check

open LeafCheck

/-- No standard check sees the blanks of a policy. -/
theorem equates_cleaned_standard (fields : PolicyFields) :
    ∀ leaf ∈ leavesOfAll standard, leaf.Equates fields.cleaned fields := by
  have volume : LinkedCheck.volumeDemand? fields.cleaned = LinkedCheck.volumeDemand? fields := by
    apply LinkedCheck.volumeDemand?_congr
    show (fields.volume.bind VolumePolicy.cleaned?).elim _ _ = _
    cases fields.volume with
    | none => rfl
    | some policy => exact LinkedCheck.volumeColumns_cleaned? policy
  have port : fields.cleaned.port.bind (·.port) = fields.port.bind (·.port) := by
    show (fields.port.bind PortPolicy.cleaned?).bind _ = _
    rw [Option.bind_assoc]
    congr
    funext policy
    exact bind_unlessBlank rfl _
  have resource
      {part : ResourcePolicy → Option NumericalPolicy}
      (absent : ∀ policy : ResourcePolicy, policy.cpuRequest = none → policy.cpuLimit = none →
        policy.memoryRequest = none → policy.memoryLimit = none → part policy = none) :
      fields.cleaned.resources.bind part = fields.resources.bind part := by
    show (fields.resources.bind ResourcePolicy.cleaned?).bind _ = _
    rw [Option.bind_assoc]
    congr
    funext policy
    exact ResourcePolicy.bind_cleaned? (absent policy)
  simp only [standard, imageName, component, Check.port, process, resources, ofField, ofLinked,
    leavesOfAll, leaves, List.cons_append, List.nil_append, List.append_nil,
    List.forall_mem_cons, List.not_mem_nil, false_implies, implies_true, and_true]
  exact
    ⟨equates_pattern (nonEmpty?_bind_cleaned fun _ => bind_unlessBlank rfl _),
      equates_pattern (nonEmpty?_bind_cleaned fun _ => bind_unlessBlank rfl _),
      equates_pattern (nonEmpty?_bind_cleaned fun _ => bind_unlessBlank rfl _),
      fun _ => rfl,
      equates_of_linkedDemand? (LinkedCheck.dockerfileLineDemand?_congr rfl),
      equates_of_linkedDemand? (LinkedCheck.cveDemand?_congr (nonEmpty?_nonEmpty? _)),
      equates_of_linkedDemand? (LinkedCheck.cvssDemand?_congr rfl (nonEmpty?_nonEmpty? _)),
      equates_of_linkedDemand? (LinkedCheck.fixedByDemand?_congr rfl (nonEmpty?_nonEmpty? _)),
      equates_pattern (nonEmpty?_bind_cleaned fun _ => bind_unlessBlank rfl _),
      equates_pattern (nonEmpty?_bind_cleaned fun _ => bind_unlessBlank rfl _),
      fun _ => rfl,
      equates_missing rfl,
      equates_entry rfl,
      equates_of_linkedDemand? volume,
      equates_exact (congrArg (Option.map toString) port),
      equates_pattern (nonEmpty?_bind_cleaned fun _ => bind_unlessBlank rfl _),
      fun _ => rfl,
      equates_entry rfl,
      equates_entry rfl,
      equates_entry rfl,
      equates_entry rfl,
      equates_entry rfl,
      fun _ => rfl,
      equates_process (nonEmpty?_bind_cleaned fun _ => bind_unlessBlank rfl _),
      equates_process (nonEmpty?_bind_cleaned fun _ => bind_unlessBlank rfl _),
      fun _ => rfl,
      fun _ => rfl,
      equates_capabilities rfl,
      equates_capabilities rfl,
      equates_threshold (resource fun _ cpuRequest _ _ _ => cpuRequest),
      equates_threshold (resource fun _ _ cpuLimit _ _ => cpuLimit),
      equates_threshold (resource fun _ _ _ memoryRequest _ => memoryRequest),
      equates_threshold (resource fun _ _ _ _ memoryLimit => memoryLimit)⟩

end Check

namespace Compiler

/-! ## Compiling without blanks -/

variable {compiler : Compiler} {policy : Policy} {fields : PolicyFields}

/-- The checks of a compiler make no difference between constraints with and without
their blanks. -/
theorem contribution_cleaned
    (standard : compiler.checks = Check.standard)
    (policyName : String) :
    compiler.contribution policyName fields.cleaned = compiler.contribution policyName fields := by
  have permissions :
      compiler.permissionChecks policyName fields.cleaned =
        compiler.permissionChecks policyName fields := rfl
  unfold contribution
  rw [permissions]
  cases permitted : compiler.permissionChecks policyName fields with
  | error error => rfl
  | ok added =>
      have same :
          (compiler.tree added).contribution? fields.cleaned compiler.registry =
            (compiler.tree added).contribution? fields compiler.registry := by
        apply Check.contribution?_congr
        intro leaf member
        rw [leaves_tree, List.mem_append, standard] at member
        rcases member with inStandard | inAdded
        · exact Check.equates_cleaned_standard fields leaf inStandard compiler.registry
        · obtain ⟨store, rfl⟩ := exists_store_of_mem_permissionChecks permitted inAdded
          rfl
      rw [tree] at same
      simp only [bind, Except.bind, same]

/-- Without constraints there is nothing to contribute. -/
theorem contribution_empty
    (standard : compiler.checks = Check.standard)
    (policyName : String) :
    compiler.contribution policyName {} = .error (.noPredicate policyName) := by
  unfold contribution
  rw [standard]
  rfl

/-- A policy may be compiled if it has a name and some constraints. -/
theorem constraints_eq_ok
    (named : (Text.trim policy.name).isEmpty = false)
    (constrained : policy.fields = some fields)
    (set : fields ≠ {}) :
    policy.constraints = .ok fields := by
  have notEmpty : fields.isEmpty = false :=
    Bool.eq_false_iff.2 fun empty => set (fields.isEmpty_iff.1 empty)
  exact constraints_eq_ok_iff.2 ⟨named, constrained, notEmpty⟩

theorem compile_eq_error_emptyFields
    (named : (Text.trim policy.name).isEmpty = false)
    (constrained : policy.fields = some {}) :
    compiler.compile policy = .error (.emptyFields policy.name) := by
  have refused : policy.constraints = .error (.emptyFields policy.name) := by
    rw [Policy.constraints, constrained, named]
    rfl
  rw [compile, gatedContribution, refused]
  rfl

/-- A policy compiles to the same with and without its blanks.  If it has nothing else,
it has no constraints once they are removed, and demands nothing before. -/
theorem compile_cleaned
    (standard : compiler.checks = Check.standard)
    (named : (Text.trim policy.name).isEmpty = false)
    (constrained : policy.fields = some fields) :
    (fields.cleaned ≠ {} → compiler.compile policy.cleaned = compiler.compile policy) ∧
      (fields.cleaned = {} →
        compiler.compile policy.cleaned = .error (.emptyFields policy.name) ∧
        (fields ≠ {} → compiler.compile policy = .error (.noPredicate policy.name)) ∧
        (fields = {} → compiler.compile policy = .error (.emptyFields policy.name))) ∧
      (fields.hostMount = some {} →
        fields.cleaned ≠ {} ∧
        (LinkedCheck.hostMountDemand? fields.cleaned).map (·.columns) =
          some
            [(.volumeType, .exact "HostPath"), (.volumeReadOnly, .exact "false"),
              (.volumeSource, .any)]) := by
  have cleaned : policy.cleaned.fields = some fields.cleaned := by
    rw [Policy.cleaned, constrained, Option.map_some]
  refine ⟨fun remains => ?same, fun blank => ⟨?_, fun set => ?empty, ?_⟩, fun mounts => ?mounts⟩
  case same =>
    have set : fields ≠ {} := by
      rintro rfl
      exact remains rfl
    have constraints : policy.cleaned.constraints = .ok fields.cleaned :=
      constraints_eq_ok named cleaned remains
    have gathered :
        compiler.gatedContribution policy.cleaned = compiler.gatedContribution policy := by
      rw [gatedContribution, gatedContribution, constraints_eq_ok named constrained set,
        constraints]
      show (do
        let contribution ← compiler.contribution policy.name fields.cleaned
        _) = _
      rw [contribution_cleaned standard]
      rfl
    rw [compile, compile, gathered]
    rfl
  case empty =>
    have undemanding :
        compiler.contribution policy.name fields = .error (.noPredicate policy.name) := by
      rw [← contribution_cleaned standard, blank, contribution_empty standard]
    rw [compile, gatedContribution, constraints_eq_ok named constrained set]
    show (do
      let contribution ← compiler.contribution policy.name fields
      _) >>= _ = _
    rw [undemanding]
    rfl
  case mounts =>
    have kept : fields.cleaned.hostMount = some {} := mounts
    refine ⟨fun blank => ?_, ?_⟩
    · rw [blank] at kept
      simp at kept
    · simp [LinkedCheck.hostMountDemand?, kept, booleanText]
  · rw [blank] at cleaned
    exact compile_eq_error_emptyFields named cleaned
  · rintro rfl
    exact compile_eq_error_emptyFields named constrained

/-- An empty identifier and a capability without a name change nothing of a policy on
privileged containers, and demand nothing by themselves. -/
theorem compile_cleaned_of_privileged :
    ({ registry := .standard } : Compiler).compile
        { name := "privileged", fields := some { privileged := some true } } =
      ({ registry := .standard } : Compiler).compile
        { name := "privileged"
          fields :=
            some { privileged := some true, cve := some "", dropCapabilities := [" CAP_ "] } } ∧
      ({ registry := .standard } : Compiler).compile
          { name := "blank", fields := some { cve := some "", dropCapabilities := [" CAP_ "] } } =
        .error (.noPredicate "blank") := by
  have named : (Text.trim "privileged").isEmpty = false := by decide
  have namedBlank : (Text.trim "blank").isEmpty = false := by decide
  have nameless : Capability.isBlank " CAP_ " = true := by decide +kernel
  constructor
  · have cleaned :
        PolicyFields.cleaned
            { privileged := some true, cve := some "", dropCapabilities := [" CAP_ "] } =
          { privileged := some true } := by
      simp [PolicyFields.cleaned, nonEmpty?, nameless]
    have set : ({ privileged := some true } : PolicyFields) ≠ {} := by
      intro blank
      have part := congrArg (·.privileged) blank
      cases part
    have same :=
      (@compile_cleaned { registry := .standard }
        { name := "privileged"
          fields :=
            some { privileged := some true, cve := some "", dropCapabilities := [" CAP_ "] } }
        _ rfl named rfl).1
    rw [Policy.cleaned, Option.map_some, cleaned] at same
    exact same set
  · have cleaned :
        PolicyFields.cleaned { cve := some "", dropCapabilities := [" CAP_ "] } = {} := by
      simp [PolicyFields.cleaned, nonEmpty?, nameless]
    have set : ({ cve := some "", dropCapabilities := [" CAP_ "] } : PolicyFields) ≠ {} := by
      intro blank
      have part := congrArg (·.cve) blank
      cases part
    exact
      ((@compile_cleaned { registry := .standard }
        { name := "blank", fields := some { cve := some "", dropCapabilities := [" CAP_ "] } }
        _ rfl namedBlank rfl).2.1 cleaned).2.1 set

end Compiler
end WorkloadPolicy
