import WorkloadPolicy.Proofs.Columns
import WorkloadPolicy.Proofs.Firing
import WorkloadPolicy.Proofs.Independence
import WorkloadPolicy.Proofs.Justification
import WorkloadPolicy.Proofs.Lookup
import WorkloadPolicy.Proofs.Records

/-!
# Images that are reported as not scanned

Whether an image has been scanned is told from the time of its scan, which is optional.  An
image that has a scan without a time is therefore reported as not scanned, whatever the scan
found.  A policy that asks for images without a scan and for something that a scan holds
fires on such images only, and never if it asks for the age of the scan.
-/

namespace WorkloadPolicy

/-! ## Checks that find values -/

namespace LeafCheck

variable
  {check : LeafCheck}
  {fields : PolicyFields}
  {registry : FieldRegistry}
  {part : Contribution}
  {outcome : Option Contribution}
  {now : Calendar.Instant}
  {values : FieldValues}

/-- A linked check tells of highlights only. -/
theorem isQuiet_linked (check : LinkedCheck) : (linked check).IsQuiet := by
  intro fields registry contribution contributed
  obtain ⟨plain, run, rfl⟩ := contribution?_eq_ok_some_iff.1 contributed
  obtain ⟨demand, leaves, -, served⟩ := served_of_linked_contributed run
  show (plain.keyed check.name).printer.alerts {} = []
  rw [served.printer_keyed, Printer.alerts_linked_empty]

/-- A check that tells of highlights only matches where one of its leaves finds values. -/
theorem IsQuiet.exists_values_of_isMatch
    (quiet : check.IsQuiet)
    (contributed : check.contribution? fields registry = .ok (some part))
    (isMatch : (part.query.evaluate now values).isMatch = true) :
    ∃ field ∈ part.query.fields, values.get field.path ≠ [] := by
  have silent := quiet fields registry part contributed
  obtain ⟨plain, run, rfl⟩ := contribution?_eq_ok_some_iff.1 contributed
  rw [Contribution.isMatch_keyed (isPlain_of_plainContribution? run)] at isMatch
  suffices found : ∃ field ∈ plain.query.fields, values.get field.path ≠ [] by
    obtain ⟨field, member, present⟩ := found
    refine ⟨field.keyed check.name, ?_, present⟩
    rw [Contribution.keyed, Query.fields_keyed]
    exact List.mem_map_of_mem member
  cases check with
  | field check =>
      obtain ⟨demand, metadata, operations, -, -, served⟩ := served_of_field_contributed run
      rcases served.printer with ⟨message, printer⟩ | ⟨-, highlights⟩
      · simp [Contribution.keyed, printer, Printer.keyed, Printer.alerts] at silent
      · obtain ⟨field, member⟩ := List.exists_mem_of_ne_nil _ served.madeOf.populated.fields_ne_nil
        refine ⟨field, member, ?_⟩
        rw [Query.evaluate_of_any?_eq_some now values served.query] at isMatch
        obtain ⟨-, ⟨_, inVerdicts, matched⟩, -⟩ :=
          Verdict.any_eq_matched_iff.1 (Verdict.eq_matched_found isMatch)
        obtain ⟨leaf, inLeaves, rfl⟩ := List.mem_map.1 inVerdicts
        obtain ⟨operation, inOperations, rfl⟩ := List.mem_map.1 inLeaves
        -- All leaves of the check lie under the path of its field.
        obtain ⟨_, -, rfl⟩ := served.madeOf.of_mem_fields member
        exact FieldQuery.ne_nil_of_isMatch (highlights operation inOperations) matched
  | linked check =>
      obtain ⟨demand, leaves, -, served⟩ := served_of_linked_contributed run
      rw [served.query, Query.isMatch_linked_iff served.agesFit] at isMatch
      obtain ⟨index, ⟨field, member, within⟩, -⟩ := isMatch
      rw [served.query, Query.fields_linked]
      exact ⟨field, member, List.ne_nil_of_length_pos (Nat.zero_lt_of_lt within)⟩
  | permission store =>
      obtain ⟨accountFields, -, -, message, printer⟩ := served_of_permission_contributed run
      simp [Contribution.keyed, printer, Printer.keyed, Printer.alerts] at silent

/-- Under a standard registry the values are found under the paths of fields that the
check needs. -/
theorem IsQuiet.exists_label_of_isMatch
    (quiet : check.IsQuiet)
    (isStandard : registry.IsStandard)
    (contributed : check.contribution? fields registry = .ok (some part))
    (isMatch : (part.query.evaluate now values).isMatch = true) :
    ∃ label ∈ check.labels fields, values.get label.metadata.path ≠ [] := by
  obtain ⟨field, member, present⟩ := quiet.exists_values_of_isMatch contributed isMatch
  obtain ⟨metadata, found, path, -⟩ :=
    (founded_of_contribution? contributed).registered field member
  refine ⟨field.label, label_mem_labels contributed member, ?_⟩
  rwa [← isStandard _ _ found, ← path]

/-- A check of a pattern that a policy sets contributes something unless it fails. -/
theorem exists_part_of_pattern
    {name subject : String}
    {label : FieldLabel}
    {anywhere : Bool}
    {source : PolicyFields → Option String}
    (asked : hasText (source fields) = true)
    (contributed :
      (field (.pattern name label subject anywhere source)).contribution? fields registry =
        .ok outcome) :
    ∃ part, outcome = some part := by
  obtain ⟨text, given⟩ := Option.isSome_iff_exists.1 asked
  have demanded :
      (FieldCheck.pattern name label subject anywhere source).demand? fields =
        .ok (some (.pattern subject text anywhere)) := by
    simp [FieldCheck.pattern, given]
  obtain ⟨metadata, plain, -, served, -, rfl⟩ := exists_plain_of_demand demanded contributed
  cases anywhere <;>
    (obtain ⟨compiled, -, equal⟩ := Outcome.bind_eq_ok_iff.1 served
     cases equal
     exact ⟨_, rfl⟩)

/-- A check of an age that a policy sets contributes something unless it fails. -/
theorem exists_part_of_age
    {name subject : String}
    {label : FieldLabel}
    {source : PolicyFields → Option Int}
    (asked : (source fields).isSome = true)
    (contributed :
      (field (.age name label subject source)).contribution? fields registry = .ok outcome) :
    ∃ part, outcome = some part := by
  obtain ⟨days, given⟩ := Option.isSome_iff_exists.1 asked
  obtain ⟨metadata, printer, -, rfl⟩ := Check.exists_leaf_of_age contributed given
  exact ⟨_, rfl⟩

/-- A linked check that needs some field contributes something unless it fails. -/
theorem exists_part_of_linked
    {check : LinkedCheck}
    (needed : (linked check).labels fields ≠ [])
    (contributed : (linked check).contribution? fields registry = .ok outcome) :
    ∃ part, outcome = some part := by
  cases demanded : check.demand? fields with
  | none => simp [labels, demanded] at needed
  | some demand =>
      obtain ⟨_, run, rfl⟩ := Outcome.map_eq_ok_iff.1 contributed
      obtain ⟨plain, -, rfl⟩ :=
        Outcome.map_eq_ok_iff.1 ((linkedContribution?_of_demand demanded).symm.trans run)
      exact ⟨_, rfl⟩

section Missing

variable
  {name message : String}
  {label : FieldLabel}
  {source : PolicyFields → Option Bool}
  (asked : source fields = some true)
  (isStandard : registry.IsStandard)

include asked

theorem demand?_of_missing :
    (FieldCheck.missing name label message source).demand? fields =
      .ok (some (.missing message)) := by
  simp [FieldCheck.missing, asked]

include isStandard

/-- A check that there are no values matches where there are none, and gives its message. -/
theorem exists_part_of_missing
    (contributed :
      (field (.missing name label message source)).contribution? fields registry = .ok outcome) :
    ∃ part, outcome = some part ∧ part.printer = .fixed message ∧
      ∀ now values,
        (part.query.evaluate now values).isMatch = true ↔
          values.get label.metadata.path = [] := by
  obtain ⟨metadata, plain, found, served, -, rfl⟩ :=
    exists_plain_of_demand (demand?_of_missing asked) contributed
  cases isStandard _ _ found
  cases served
  refine ⟨_, rfl, rfl, fun now values => ?_⟩
  rw [← List.isEmpty_iff]
  show (if (values.get label.metadata.path).isEmpty then Verdict.matched {}
    else .unmatched).isMatch = true ↔ _
  split <;> simp [*]

/-- A check that there are no values fails over its field only. -/
theorem lookup_eq_none_of_missing
    {error : CheckError}
    (failed :
      (field (.missing name label message source)).contribution? fields registry =
        .error error) :
    registry.lookup label = none := by
  rcases lookup_eq_none_or_of_demand isStandard (demand?_of_missing asked) failed with
    absent | refused
  · exact absent
  · cases refused

end Missing

end LeafCheck

/-! ## What a scan holds -/

/-- Constraints ask for something that a scan holds: for a vulnerability, for a component or
for the age of the scan. -/
def PolicyFields.asksOfScan (fields : PolicyFields) : Bool :=
  hasText fields.cve || fields.cvss.isSome || hasText fields.fixedBy ||
    hasText (fields.component.bind (·.name)) || hasText (fields.component.bind (·.version)) ||
    fields.scanAgeDays.isSome

theorem ImageScan.kind_of_mem_labels :
    ∀ label ∈ labels, label.metadata.kind = .image := by
  decide

namespace Check

/-- The check of the age of scans. -/
def scanAge : LeafCheck :=
  .field (.age "scan age" .imageScanTime "Time of last scan" fun fields => fields.scanAgeDays)

/-- The check of the names of components. -/
def componentName : LeafCheck :=
  .field (.pattern "component name" .component "Component name" false
    fun fields => fields.component.bind (·.name))

/-- The check of the versions of components. -/
def componentVersion : LeafCheck :=
  .field (.pattern "component version" .componentVersion "Component version" false
    fun fields => fields.component.bind (·.version))

/-- The standard checks of what a scan holds. -/
def ofScan : List LeafCheck :=
  [.linked .cve, .linked .cvss, .linked .fixedBy, componentName, componentVersion, scanAge]

theorem isQuiet_of_mem_ofScan : ∀ leaf ∈ ofScan, leaf.IsQuiet := by
  simp only [ofScan, componentName, componentVersion, scanAge, List.forall_mem_cons]
  exact
    ⟨LeafCheck.isQuiet_linked _, LeafCheck.isQuiet_linked _, LeafCheck.isQuiet_linked _,
      LeafCheck.isQuiet_pattern, LeafCheck.isQuiet_pattern, LeafCheck.isQuiet_age,
      List.forall_mem_nil _⟩

/-- The checks of what a scan holds need fields of scans only. -/
theorem labels_subset_of_mem_ofScan (fields : PolicyFields) :
    ∀ leaf ∈ ofScan, leaf.labels fields ⊆ ImageScan.labels := by
  simp only [ofScan, componentName, componentVersion, scanAge, List.forall_mem_cons,
    LeafCheck.labels_cve, LeafCheck.labels_cvss, LeafCheck.labels_fixedBy,
    LeafCheck.labels_pattern, LeafCheck.labels_age]
  exact
    ⟨neededIf_subset _ (by decide),
      neededIf_subset _ (List.append_subset.2 ⟨by decide, neededIf_subset _ (by decide)⟩),
      neededIf_subset _ (by decide), neededIf_subset _ (by decide),
      neededIf_subset _ (by decide), neededIf_subset _ (by decide),
      List.forall_mem_nil _⟩

/-- What is asked of a scan is asked by one of the checks. -/
theorem exists_part_of_asksOfScan
    {fields : PolicyFields}
    (asks : fields.asksOfScan = true) :
    ∃ leaf ∈ ofScan, ∀ registry outcome,
      leaf.contribution? fields registry = .ok outcome → ∃ part, outcome = some part := by
  simp only [PolicyFields.asksOfScan, Bool.or_eq_true, or_assoc] at asks
  rcases asks with identified | scored | fixed | named | versioned | aged
  · refine ⟨.linked .cve, by simp [ofScan], fun _ _ => LeafCheck.exists_part_of_linked ?_⟩
    simp [LeafCheck.labels_cve, identified]
  · refine ⟨.linked .cvss, by simp [ofScan], fun _ _ => LeafCheck.exists_part_of_linked ?_⟩
    simp [LeafCheck.labels_cvss, scored]
  · cases scored : fields.cvss with
    | none =>
        refine ⟨.linked .fixedBy, by simp [ofScan], fun _ _ => LeafCheck.exists_part_of_linked ?_⟩
        simp [LeafCheck.labels_fixedBy, scored, fixed]
    | some policy =>
        refine ⟨.linked .cvss, by simp [ofScan], fun _ _ => LeafCheck.exists_part_of_linked ?_⟩
        simp [LeafCheck.labels_cvss, scored]
  · exact ⟨componentName, by simp [ofScan], fun _ _ => LeafCheck.exists_part_of_pattern named⟩
  · exact ⟨componentVersion, by simp [ofScan], fun _ _ =>
      LeafCheck.exists_part_of_pattern versioned⟩
  · exact ⟨scanAge, by simp [ofScan], fun _ _ => LeafCheck.exists_part_of_age aged⟩

/-- Only the checks of resources are alternatives among the standard checks. -/
theorem alternativesOfAll_standard : alternativesOfAll standard = resources.leaves := rfl

/-- The checks of scans are standard ones, and no alternatives. -/
theorem mem_standard_of_mem_ofScan :
    ∀ leaf ∈ noScan :: ofScan,
      leaf ∈ leavesOfAll standard ∧ leaf ∉ alternativesOfAll standard := by
  have listed : ∀ leaf ∈ noScan :: ofScan, leaf ∈ leavesOfAll standard := by
    simp [noScan, ofScan, componentName, componentVersion, scanAge, standard, imageName, component,
      port, process, resources, ofField, ofLinked, leavesOfAll, leaves]
  have distinct :
      ∀ leaf ∈ noScan :: ofScan, ∀ alternative ∈ resources.leaves,
        leaf.name ≠ alternative.name := by
    decide
  refine fun leaf member => ⟨listed leaf member, fun alternative => ?_⟩
  exact distinct leaf member leaf (alternativesOfAll_standard ▸ alternative) rfl

end Check

/-! ## Policies that ask for images without a scan -/

namespace Compiler

section Gathers

variable
  {compiler : Compiler}
  {policy : Policy}
  {fields : PolicyFields}
  {added : List Check}
  {contribution : Contribution}
  {scope : Option Query}
  {queries : KindQueries}
  {policyName : String}
  {printer : Printer}
  {now : Calendar.Instant}
  {subjects : Subjects}
  {leaf : LeafCheck}
  (gathers : compiler.Gathers policy fields added contribution scope)
  (standardChecks : compiler.checks = Check.standard)

include standardChecks in
theorem mem_leaves_tree (listed : leaf ∈ Check.leavesOfAll Check.standard) :
    leaf ∈ (compiler.tree added).leaves := by
  rw [leaves_tree, standardChecks]
  exact List.mem_append_left _ listed

include gathers standardChecks

/-- When a policy matches some values, so does each of its checks that is no alternative. -/
theorem Gathers.exists_outcome_of_conjoined
    {values : FieldValues}
    (matched : ((gated scope contribution.query).evaluate now values).isMatch = true)
    (listed : leaf ∈ Check.leavesOfAll Check.standard)
    (conjoined : leaf ∉ Check.alternativesOfAll Check.standard) :
    ∃ outcome, leaf.contribution? fields compiler.registry = .ok outcome ∧
      ∀ part ∈ outcome, (part.query.evaluate now values).isMatch = true := by
  have inLeaves : leaf ∈ (compiler.tree added).leaves := mem_leaves_tree standardChecks listed
  obtain ⟨outcome, run⟩ := Check.exists_outcome_of_mem_leaves gathers.contributed inLeaves
  refine ⟨outcome, run, fun part present => ?_⟩
  rw [Query.evaluate_gated, Verdict.isMatch_both, Bool.and_eq_true] at matched
  refine (Check.isMatch_or_mem_alternatives gathers.contributed matched.2 inLeaves
    (present ▸ run)).resolve_right fun alternative => ?_
  obtain ⟨tree, inTrees, inTree⟩ := Check.mem_alternativesOfAll_iff.1 alternative
  rcases List.mem_append.1 inTrees with inChecks | inAdded
  · rw [standardChecks] at inChecks
    exact conjoined (Check.mem_alternativesOfAll_iff.2 ⟨tree, inChecks, inTree⟩)
  · rcases permissionChecks_eq_ok gathers.permitted with rfl | ⟨store, rfl⟩
    · simp at inAdded
    · cases List.mem_singleton.1 inAdded
      simp [Check.alternatives] at inTree

/-- A policy that fires with a check of images in force matches one of the images, together
with some values of other kinds. -/
theorem Gathers.exists_image_of_fires
    (isStandard : compiler.registry.IsStandard)
    (split : (gated scope contribution.query).split? = some queries)
    (fires : (matcher policyName queries printer).Fires now subjects)
    (listed : leaf ∈ Check.leavesOfAll Check.standard)
    (reads : leaf.Reads .image)
    {part : Contribution}
    (leafRun : leaf.contribution? fields compiler.registry = .ok (some part)) :
    ∃ image ∈ subjects.images, ∃ values,
      ((gated scope contribution.query).evaluate now values).isMatch = true ∧
        ∀ label : FieldLabel, label.metadata.kind = .image →
          values.get label.metadata.path = image.fieldValues.get label.metadata.path := by
  obtain ⟨parts, belong, matched, supplied⟩ :=
    gathers.exists_isMatch_of_fires isStandard split fires
  have inLeaves : leaf ∈ (compiler.tree added).leaves := mem_leaves_tree standardChecks listed
  have asked : queries.ofKind .image ≠ [] := by
    obtain ⟨field, member⟩ :=
      List.exists_mem_of_ne_nil _
        (LeafCheck.founded_of_contribution? leafRun).populated.fields_ne_nil
    rw [← reads.kind_eq isStandard leafRun field member]
    exact
      Query.ofKind_ne_nil_of_mem_fields split
        (gathers.mem_fields_of_leaf inLeaves leafRun member)
  obtain ⟨image, inImages, same⟩ := List.mem_map.1 ((supplied .image).resolve_left asked)
  refine ⟨image, inImages, _, matched, fun label ofImage => ?_⟩
  rw [FieldValues.get_append_of_owns belong (ofImage ▸ label.owns_metadata), same]

/-- When a policy matches some values, a check of scans that contributes anything finds some
of them under the paths of the fields that it needs. -/
theorem Gathers.exists_label_of_ofScan
    (isStandard : compiler.registry.IsStandard)
    {values : FieldValues}
    (matched : ((gated scope contribution.query).evaluate now values).isMatch = true)
    (member : leaf ∈ Check.ofScan)
    (contributes : ∀ registry outcome, leaf.contribution? fields registry = .ok outcome →
      ∃ part, outcome = some part) :
    ∃ label ∈ leaf.labels fields, label ∈ ImageScan.labels ∧
      values.get label.metadata.path ≠ [] := by
  obtain ⟨listed, conjoined⟩ :=
    Check.mem_standard_of_mem_ofScan leaf (List.mem_cons_of_mem _ member)
  obtain ⟨outcome, run, each⟩ :=
    gathers.exists_outcome_of_conjoined standardChecks matched listed conjoined
  obtain ⟨part, rfl⟩ := contributes _ _ run
  obtain ⟨label, needed, present⟩ :=
    (Check.isQuiet_of_mem_ofScan leaf member).exists_label_of_isMatch isStandard run
      (each part rfl)
  exact ⟨label, needed, Check.labels_subset_of_mem_ofScan fields leaf member needed, present⟩

/-- A policy that asks for an image without a scan, and for something that a scan holds,
fires only on an image that has a scan without a time. -/
theorem Gathers.exists_untimed_of_fires
    (isStandard : compiler.registry.IsStandard)
    (split : (gated scope contribution.query).split? = some queries)
    (fires : (matcher policyName queries printer).Fires now subjects)
    (unscanned : fields.noScanExists = some true)
    (asks : fields.asksOfScan = true) :
    fields.scanAgeDays = none ∧
      ∃ image ∈ subjects.images, ∃ scan, image.scan = some scan ∧ scan.scanTime = none := by
  obtain ⟨listed, conjoined⟩ := Check.mem_standard_of_mem_ofScan _ List.mem_cons_self
  obtain ⟨outcome, run⟩ :=
    Check.exists_outcome_of_mem_leaves gathers.contributed (mem_leaves_tree standardChecks listed)
  obtain ⟨part, rfl, -, isMatch_iff⟩ :=
    LeafCheck.exists_part_of_missing unscanned isStandard run
  obtain ⟨image, inImages, values, matched, same⟩ :=
    gathers.exists_image_of_fires standardChecks isStandard split fires listed rfl run
  have absent : values.get FieldLabel.imageScanTime.metadata.path = [] := by
    obtain ⟨_, sameRun, each⟩ :=
      gathers.exists_outcome_of_conjoined standardChecks matched listed conjoined
    cases sameRun.symm.trans run
    exact (isMatch_iff now values).1 (each part rfl)
  have untimed : image.scanTime = none := by
    rw [same _ rfl, image.get_scanTime] at absent
    simpa using absent
  constructor
  · by_contra aged
    have asked : fields.scanAgeDays.isSome = true := Option.isSome_iff_ne_none.2 aged
    obtain ⟨label, needed, -, present⟩ :=
      gathers.exists_label_of_ofScan standardChecks isStandard matched
        (by simp [Check.ofScan] : Check.scanAge ∈ Check.ofScan)
        fun _ _ => LeafCheck.exists_part_of_age asked
    rw [Check.scanAge, LeafCheck.labels_age, asked, neededIf_true] at needed
    cases List.mem_singleton.1 needed
    exact present absent
  · obtain ⟨leaf, member, contributes⟩ := Check.exists_part_of_asksOfScan asks
    obtain ⟨label, -, ofScan, present⟩ :=
      gathers.exists_label_of_ofScan standardChecks isStandard matched member contributes
    rw [same label (ImageScan.kind_of_mem_labels label ofScan),
      image.get_fieldValues_of_scan ofScan] at present
    cases scanned : image.scan with
    | none => simp [scanned] at present
    | some scan =>
        refine ⟨image, inImages, scan, scanned, ?_⟩
        simpa [Image.scanTime, scanned] using untimed

end Gathers

end Compiler

/-! ### An image with a scan without a time -/

/-- An image with a scan that found a vulnerability but has no time. -/
def Image.untimed : Image where
  id := "sha256:1"
  scan := some { components := [{ name := "openssl", vulnerabilities := [{ cve := "1" }] }] }

/-- Constraints that an image has not been scanned and has a vulnerability. -/
def PolicyFields.unscannedVulnerable : PolicyFields where
  noScanExists := some true
  cve := some "1"

namespace Compiler

/-- The image is reported both as not scanned and for what its scan found. -/
theorem exists_fires_of_untimed :
    ∃ matcher,
      ({ registry := .standard } : Compiler).compile
          { name := "unscanned", fields := some .unscannedVulnerable } = .ok matcher ∧
        matcher.Fires Check.newYear { images := [.untimed] } := by
  obtain ⟨matcher, compiled, ran⟩ :=
    @exists_run_of_outcome?_eq_some { registry := .standard }
      { name := "unscanned", fields := some .unscannedVulnerable } Check.newYear
      { images := [.untimed] }
      (.ok
        { alerts :=
            [{ message := "CVE 1 matched regex '1'" },
              { message := "Image has not been scanned" }] })
      (by decide +kernel)
  exact ⟨matcher, compiled, _, ran, rfl⟩

/-! ### What the check of images without a scan tests -/

/-- The check of images without a scan tests the time of the scan: it matches, and gives its
message, where there is none, whether or not there is a scan.  With a demand on what a scan
holds it lets a policy fire on an image that has a scan without a time only, and with one on
the age of the scan never. -/
theorem noScan_tests_scanTime
    {compiler : Compiler}
    (isStandard : compiler.registry.IsStandard)
    {fields : PolicyFields}
    (unscanned : fields.noScanExists = some true) :
    (∃ leaf, Check.standardLeaf? "no scan exists" = some leaf ∧
      match leaf.contribution? fields compiler.registry with
      | .ok outcome =>
          ∃ part, outcome = some part ∧ part.printer = .fixed "Image has not been scanned" ∧
            ∀ (now : Calendar.Instant) (image : Image),
              (part.query.evaluate now image.fieldValues).isMatch = true ↔ image.scanTime = none
      | .error _ => compiler.registry.lookup .imageScanTime = none) ∧
    ∀ policy matcher, compiler.checks = Check.standard → policy.fields = some fields →
      compiler.compile policy = .ok matcher → fields.asksOfScan = true →
      ∀ now subjects, matcher.Fires now subjects →
        fields.scanAgeDays = none ∧
          ∃ image ∈ subjects.images, ∃ scan, image.scan = some scan ∧ scan.scanTime = none := by
  refine ⟨⟨Check.noScan, rfl, ?_⟩, ?_⟩
  · cases run : Check.noScan.contribution? fields compiler.registry with
    | ok outcome =>
        obtain ⟨part, rfl, printer, isMatch_iff⟩ :=
          LeafCheck.exists_part_of_missing unscanned isStandard run
        refine ⟨part, rfl, printer, fun now image => ?_⟩
        rw [isMatch_iff, image.get_scanTime]
        simp
    | error error => exact LeafCheck.lookup_eq_none_of_missing unscanned isStandard run
  · intro policy matcher standardChecks set compiled asks now subjects fires
    obtain ⟨_, added, contribution, scope, queries, gathers, split, rfl⟩ :=
      exists_gathers_of_compile_eq_ok compiled
    cases Option.some.inj (set.symm.trans (fields_of_constraints gathers.constrained))
    exact gathers.exists_untimed_of_fires standardChecks isStandard split fires unscanned asks

/-- The image on which a policy fires that asks for images without a scan and for a
vulnerability has a scan without a time. -/
theorem noScan_tests_scanTime_of_untimed :
    ∃ matcher,
      ({ registry := .standard } : Compiler).compile
          { name := "unscanned", fields := some .unscannedVulnerable } = .ok matcher ∧
        matcher.Fires Check.newYear { images := [.untimed] } ∧
        ∃ image ∈ [Image.untimed], ∃ scan, image.scan = some scan ∧ scan.scanTime = none := by
  obtain ⟨matcher, compiled, fires⟩ := exists_fires_of_untimed
  obtain ⟨-, only⟩ :=
    @noScan_tests_scanTime { registry := .standard } FieldRegistry.isStandard_standard
      .unscannedVulnerable rfl
  obtain ⟨-, untimed⟩ := only _ matcher rfl rfl compiled rfl _ _ fires
  exact ⟨matcher, compiled, fires, untimed⟩

/-- An image with a scan is reported as not scanned, along with a vulnerability that the scan
has found. -/
theorem not_noScan_tests_scan :
    Image.untimed.scan ≠ none ∧
    (∃ leaf part,
      Check.standardLeaf? "no scan exists" = some leaf ∧
        leaf.contribution? .unscannedVulnerable .standard = .ok (some part) ∧
          ∀ now, (part.query.evaluate now Image.untimed.fieldValues).isMatch = true) ∧
    ∃ matcher,
      ({ registry := .standard } : Compiler).compile
          { name := "unscanned", fields := some .unscannedVulnerable } = .ok matcher ∧
        matcher.Fires Check.newYear { images := [.untimed] } :=
  ⟨by simp [Image.untimed], ⟨Check.noScan, _, rfl, rfl, fun _ => rfl⟩, exists_fires_of_untimed⟩

end Compiler
end WorkloadPolicy
