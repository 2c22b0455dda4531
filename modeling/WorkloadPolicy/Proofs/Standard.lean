import Mathlib.Data.List.Nodup
import WorkloadPolicy.Check.Standard
import WorkloadPolicy.Proofs.Paths
import WorkloadPolicy.Proofs.Tree

/-!
# The leaves of the standard checks

The standard checks and the permission check have distinct names without a
slash, so that no two of them share a highlight key.  Only the checks of ages
demand an age.
-/

namespace WorkloadPolicy

namespace LeafCheck

variable {fields : PolicyFields}

/-- A check of one field fails over its field or over what it demands. -/
theorem lookup_eq_none_or_of_demand
    {check : FieldCheck}
    {demand : FieldDemand}
    {registry : FieldRegistry}
    (isStandard : registry.IsStandard)
    (demanded : check.demand? fields = .ok (some demand))
    {error : CheckError}
    (failed : (field check).contribution? fields registry = .error error) :
    registry.lookup check.label = none ∨
      demand.contribution? check.name check.label check.label.metadata = .error error := by
  rw [← Outcome.failure?_eq_some_iff, contribution?, Outcome.failure?_map,
    Outcome.failure?_eq_some_iff, plainContribution?_of_demand demanded] at failed
  cases found : registry.lookup check.label with
  | none => exact .inl rfl
  | some metadata =>
      cases isStandard _ _ found
      have stored : check.label.metadata.stored = true := by
        cases check.label <;> rfl
      rw [requireField_eq_ok_iff.2 ⟨found, stored⟩] at failed
      exact .inr failed

/-! ## Ages -/

/-- A check of a value that a policy may set demands ages that fit if it does so
of every value. -/
theorem agesFit_of_map
    {name : String}
    {label : FieldLabel}
    {source : PolicyFields → Option α}
    {demand : α → FieldDemand}
    (fit : ∀ value, source fields = some value → (demand value).agesFit = true) :
    (field ⟨name, label, fun fields => .ok ((source fields).map demand)⟩).AgesFit fields := by
  intro demanded equal
  obtain ⟨value, found, rfl⟩ := Option.map_eq_some_iff.1 (Except.ok.inj equal)
  exact fit value found

@[simp] theorem agesFit_pattern
    (name : String)
    (label : FieldLabel)
    (subject : String)
    (anywhere : Bool)
    (source : PolicyFields → Option String) :
    (field (.pattern name label subject anywhere source)).AgesFit fields :=
  agesFit_of_map fun _ _ => rfl

@[simp] theorem agesFit_exact
    (name : String)
    (label : FieldLabel)
    (subject : String)
    (source : PolicyFields → Option String) :
    (field (.exact name label subject source)).AgesFit fields :=
  agesFit_of_map fun _ _ => rfl

@[simp] theorem agesFit_threshold
    (name : String)
    (label : FieldLabel)
    (description : String)
    (source : PolicyFields → Option NumericalPolicy) :
    (field (.threshold name label description source)).AgesFit fields :=
  agesFit_of_map fun _ _ => rfl

theorem agesFit_age
    {name : String}
    {label : FieldLabel}
    {subject : String}
    {source : PolicyFields → Option Int}
    (fit : ∀ days, source fields = some days → Calendar.Instant.dayCountFits days = true) :
    (field (.age name label subject source)).AgesFit fields :=
  agesFit_of_map fit

@[simp] theorem agesFit_flag
    (name : String)
    (label : FieldLabel)
    (whenTrue whenFalse : String)
    (source : PolicyFields → Option Bool) :
    (field (.flag name label whenTrue whenFalse source)).AgesFit fields :=
  agesFit_of_map fun _ _ => rfl

@[simp] theorem agesFit_missing
    (name : String)
    (label : FieldLabel)
    (message : String)
    (source : PolicyFields → Option Bool) :
    (field (.missing name label message source)).AgesFit fields := by
  intro demanded equal
  simp only [FieldCheck.missing] at equal
  split at equal
  · cases equal
    rfl
  · simp at equal

@[simp] theorem agesFit_process
    (name : String)
    (label : FieldLabel)
    (aspect : String)
    (source : PolicyFields → Option String) :
    (field (.process name label aspect source)).AgesFit fields :=
  agesFit_of_map fun _ _ => rfl

theorem agesFit_capabilities
    {name : String}
    {label : FieldLabel}
    {demand : List String → FieldDemand}
    {source : PolicyFields → List String}
    (fit : ∀ names, (demand names).agesFit = true) :
    (field (.capabilities name label demand source)).AgesFit fields := by
  intro demanded equal
  obtain ⟨names, -, rest⟩ := Outcome.bind_eq_ok_iff.1 equal
  split at rest
  · simp at rest
  · cases rest
    exact fit names

theorem agesFit_entry
    {name : String}
    {label : FieldLabel}
    {demand : String → Option String → FieldDemand}
    {source : PolicyFields → Option KeyValuePolicy}
    (fit : ∀ key value, (demand key value).agesFit = true) :
    (field (.entry name label demand source)).AgesFit fields := by
  intro demanded equal
  simp only [FieldCheck.entry] at equal
  split at equal
  · simp at equal
  · split at equal
    · simp at equal
    · simp at equal
    · cases equal
      exact fit _ _

@[simp] theorem agesFit_linked (check : LinkedCheck) : (linked check).AgesFit fields := trivial

end LeafCheck

namespace Check

/-- The standard checks other than those of the ages of images and of scans demand ages that
fit. -/
theorem agesFit_or_eq_age (fields : PolicyFields) :
    ∀ leaf ∈ leavesOfAll standard,
      leaf.AgesFit fields ∨
        leaf = .field (.age "image age" .imageCreatedTime "Time of image creation"
          fun fields => fields.imageAgeDays) ∨
        leaf = .field (.age "scan age" .imageScanTime "Time of last scan"
          fun fields => fields.scanAgeDays) := by
  simp only [standard, imageName, component, port, process, resources, ofField, ofLinked,
    leavesOfAll, leaves, List.cons_append, List.nil_append, List.append_nil,
    List.forall_mem_cons, LeafCheck.agesFit_pattern, LeafCheck.agesFit_exact,
    LeafCheck.agesFit_threshold, LeafCheck.agesFit_flag, LeafCheck.agesFit_missing,
    LeafCheck.agesFit_process, LeafCheck.agesFit_linked, true_or, or_true, true_and]
  exact
    ⟨.inl (LeafCheck.agesFit_entry fun _ _ => rfl),
      .inl (LeafCheck.agesFit_entry fun _ _ => rfl),
      .inl (LeafCheck.agesFit_entry fun _ _ => rfl),
      .inl (LeafCheck.agesFit_entry fun _ _ => rfl),
      .inl (LeafCheck.agesFit_entry fun _ _ => rfl),
      .inl (LeafCheck.agesFit_entry fun _ _ => rfl),
      .inl (LeafCheck.agesFit_capabilities fun _ => rfl),
      .inl (LeafCheck.agesFit_capabilities fun _ => rfl), by simp⟩

/-- The standard checks demand no ages but those of images and of scans. -/
theorem agesFit_standard
    {fields : PolicyFields}
    (imageAge : ∀ days, fields.imageAgeDays = some days →
      Calendar.Instant.dayCountFits days = true)
    (scanAge : ∀ days, fields.scanAgeDays = some days →
      Calendar.Instant.dayCountFits days = true) :
    ∀ leaf ∈ leavesOfAll standard, leaf.AgesFit fields := by
  intro leaf member
  rcases agesFit_or_eq_age fields leaf member with fit | rfl | rfl
  · exact fit
  · exact LeafCheck.agesFit_age imageAge
  · exact LeafCheck.agesFit_age scanAge

/-! ## Names -/

/-- The standard checks and the permission check have distinct names. -/
theorem names_standard_nodup :
    ((leavesOfAll standard).map LeafCheck.name ++ [permissionCheckName]).Nodup := by
  decide +kernel

/-- None of these names contains a slash. -/
theorem slash_not_mem_names_standard :
    ∀ name ∈ (leavesOfAll standard).map LeafCheck.name ++ [permissionCheckName],
      '/' ∉ name.toList := by
  decide +kernel

end Check

namespace LeafCheck

/-- A check is one of the standard checks or a permission check. -/
def IsKnown (check : LeafCheck) : Prop :=
  check ∈ Check.leavesOfAll Check.standard ∨ ∃ store, check = .permission store

namespace IsKnown

theorem slash_not_mem_name {check : LeafCheck} (known : check.IsKnown) :
    '/' ∉ check.name.toList := by
  apply Check.slash_not_mem_names_standard
  rw [List.mem_append, List.mem_singleton]
  rcases known with inStandard | ⟨store, rfl⟩
  · exact .inl (List.mem_map_of_mem inStandard)
  · exact .inr rfl

/-- Known checks of one name are the same, or both are permission checks. -/
theorem eq_of_name_eq
    {check other : LeafCheck}
    (known : check.IsKnown)
    (otherKnown : other.IsKnown)
    (same : check.name = other.name) :
    check = other ∨ (∃ store, check = .permission store) ∧ ∃ store, other = .permission store := by
  obtain ⟨distinct, -, apart⟩ := List.nodup_append.1 Check.names_standard_nodup
  rcases known with inStandard | ⟨store, rfl⟩
  · rcases otherKnown with otherInStandard | ⟨otherStore, rfl⟩
    · exact .inl (List.inj_on_of_nodup_map distinct inStandard otherInStandard same)
    · exact absurd same
        (apart _ (List.mem_map_of_mem inStandard) _ (List.mem_singleton_self _))
  · rcases otherKnown with otherInStandard | otherPermission
    · exact absurd same.symm
        (apart _ (List.mem_map_of_mem otherInStandard) _ (List.mem_singleton_self _))
    · exact .inr ⟨⟨store, rfl⟩, otherPermission⟩

end IsKnown

/-! ## Kinds of entities -/

/-- A check reads one kind of entity, by the standard metadata of its fields. -/
def Reads (kind : EntityKind) : LeafCheck → Prop
  | field check => check.label.metadata.kind = kind
  | linked check =>
      ∀ fields demand, check.demand? fields = some demand →
        ∀ column ∈ demand.columns, column.1.metadata.kind = kind
  | permission _ => .deployment = kind

theorem Reads.kind_eq
    {check : LeafCheck}
    {kind : EntityKind}
    (reads : check.Reads kind)
    {fields : PolicyFields}
    {registry : FieldRegistry}
    (isStandard : registry.IsStandard)
    {contribution : Contribution}
    (contributed : check.contribution? fields registry = .ok (some contribution)) :
    ∀ field ∈ contribution.query.fields, field.kind = kind := by
  obtain ⟨plain, run, rfl⟩ := contribution?_eq_ok_some_iff.1 contributed
  rw [Contribution.keyed, Query.fields_keyed, List.forall_mem_map]
  show ∀ field ∈ plain.query.fields, field.kind = kind
  cases check with
  | field check =>
      obtain ⟨demand, metadata, operations, -, lookup, served⟩ :=
        served_of_field_contributed run
      intro field member
      obtain ⟨operation, -, rfl⟩ := served.madeOf.of_mem_fields member
      rw [← reads, ← isStandard _ _ lookup]
      rfl
  | linked check =>
      obtain ⟨demand, leaves, demanded, served⟩ := served_of_linked_contributed run
      rw [served.query, Query.fields_linked]
      intro field member
      obtain ⟨metadata, lookup, -, sameKind⟩ := served.registered field member
      have inLabels : field.label ∈ demand.columns.map (·.1) := by
        rw [← served.labels]
        exact List.mem_map_of_mem member
      obtain ⟨column, inColumns, label⟩ := List.mem_map.1 inLabels
      rw [sameKind, isStandard _ _ lookup, ← label]
      exact reads fields demand demanded column inColumns
  | permission store =>
      obtain ⟨accountFields, registered, madeOf, -⟩ := served_of_permission_contributed run
      intro field member
      obtain ⟨⟨_, rfl⟩ | ⟨_, rfl⟩ | ⟨_, rfl⟩, -⟩ := madeOf.of_mem_fields member
      · rw [← reads]
        show accountFields.cluster.kind = _
        rw [isStandard _ _ registered.1]
        rfl
      · rw [← reads]
        show accountFields.namespaceName.kind = _
        rw [isStandard _ _ registered.2.1]
        rfl
      · rw [← reads]
        show accountFields.account.kind = _
        rw [isStandard _ _ registered.2.2]
        rfl

theorem reads_dockerfileLine : (linked .dockerfileLine).Reads .image := by
  intro fields demand demanded
  obtain ⟨rule, -, decided⟩ := Option.bind_eq_some_iff.1 demanded
  split at decided
  · simp at decided
  · cases decided
    simp [FieldLabel.metadata, FieldLabel.standard]

theorem reads_cve : (linked .cve).Reads .image := by
  intro fields demand demanded
  obtain ⟨text, -, decided⟩ := Option.bind_eq_some_iff.1 demanded
  cases decided
  simp [FieldLabel.metadata, FieldLabel.standard]

theorem reads_cvss : (linked .cvss).Reads .image := by
  intro fields demand demanded
  obtain ⟨policy, -, decided⟩ := Option.bind_eq_some_iff.1 demanded
  cases decided
  intro column member
  rcases List.mem_append.1 member with always | fixed
  · simp only [List.mem_cons, List.not_mem_nil, or_false] at always
    rcases always with rfl | rfl <;> rfl
  · obtain ⟨text, -, rfl⟩ := List.mem_map.1 fixed
    rfl

theorem reads_fixedBy : (linked .fixedBy).Reads .image := by
  intro fields demand demanded
  simp only [LinkedCheck.fixedBy, LinkedCheck.fixedByDemand?] at demanded
  split at demanded
  · simp at demanded
  · obtain ⟨text, -, decided⟩ := Option.bind_eq_some_iff.1 demanded
    cases decided
    simp [FieldLabel.metadata, FieldLabel.standard]

theorem reads_hostMount : (linked .hostMount).Reads .deployment := by
  intro fields demand demanded
  obtain ⟨policy, -, decided⟩ := Option.bind_eq_some_iff.1 demanded
  cases decided
  simp [FieldLabel.metadata, FieldLabel.standard]

theorem reads_volume : (linked .volume).Reads .deployment := by
  intro fields demand demanded
  obtain ⟨policy, -, decided⟩ := Option.bind_eq_some_iff.1 demanded
  split at decided
  · simp at decided
  · cases decided
    intro column member
    obtain ⟨told, inColumns, rfl⟩ := List.mem_map.1 member
    have ofVolume :=
      (LinkedCheck.labels_volumeColumns_sublist policy).subset (List.mem_map_of_mem inColumns)
    simp only [List.mem_cons, List.not_mem_nil, or_false] at ofVolume
    rcases ofVolume with label | label | label | label | label <;> rw [label] <;> rfl

/-- Every standard check reads one kind of entity. -/
theorem exists_reads_of_mem_standard
    {check : LeafCheck}
    (member : check ∈ Check.leavesOfAll Check.standard) :
    ∃ kind, check.Reads kind := by
  cases check with
  | field check => exact ⟨_, rfl⟩
  | permission store => exact ⟨_, rfl⟩
  | linked check =>
      simp only [Check.standard, Check.imageName, Check.component, Check.port, Check.process,
        Check.resources, Check.ofField, Check.ofLinked, Check.leavesOfAll, Check.leaves,
        List.cons_append, List.nil_append, List.append_nil, List.mem_cons, List.not_mem_nil,
        linked.injEq, reduceCtorEq, false_or, or_false] at member
      rcases member with rfl | rfl | rfl | rfl | rfl | rfl
      · exact ⟨_, reads_dockerfileLine⟩
      · exact ⟨_, reads_cve⟩
      · exact ⟨_, reads_cvss⟩
      · exact ⟨_, reads_fixedBy⟩
      · exact ⟨_, reads_volume⟩
      · exact ⟨_, reads_hostMount⟩

/-- Only checks of images demand ages that may not fit. -/
theorem IsKnown.agesFit_or_reads_image
    {check : LeafCheck}
    (known : check.IsKnown)
    (fields : PolicyFields) :
    check.AgesFit fields ∨ check.Reads .image := by
  rcases known with inStandard | ⟨store, rfl⟩
  · rcases Check.agesFit_or_eq_age fields check inStandard with fit | rfl | rfl
    · exact .inl fit
    · exact .inr rfl
    · exact .inr rfl
  · exact .inl trivial

theorem IsKnown.exists_reads {check : LeafCheck} (known : check.IsKnown) :
    ∃ kind, check.Reads kind := by
  rcases known with inStandard | ⟨store, rfl⟩
  · exact exists_reads_of_mem_standard inStandard
  · exact ⟨_, rfl⟩

end LeafCheck
end WorkloadPolicy
