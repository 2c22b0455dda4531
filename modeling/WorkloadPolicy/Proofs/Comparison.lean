import WorkloadPolicy.Proofs.Ages
import WorkloadPolicy.Proofs.Gating
import WorkloadPolicy.Proofs.Telling

/-!
# Ages that cannot be compared

Any count of days compiles, but only one that fits a duration can be compared with a time.  A
run comes to the comparison if the process and the deployment satisfy the policy and an image
whose time can be read matches what the checks in front of the age ask for.  It then breaks off;
any other run gives a report.
-/

namespace WorkloadPolicy

open Calendar

/-! ## Verdicts of conjunctions -/

namespace Verdict

theorem all_flatMap (items : List α) (parts : α → List Verdict) :
    all (items.flatMap parts) = all (items.map fun item => all (parts item)) := by
  induction items with
  | nil => rfl
  | cons item items hypothesis =>
      rw [List.flatMap_cons, all_append, hypothesis, List.map_cons, all_cons]

/-- Behind verdicts that are no faults, a verdict is a fault or passes to those after it. -/
theorem all_append_cons_eq_fault_iff
    {front rest : List Verdict}
    {verdict : Verdict}
    (sound : fault ∉ front) :
    all (front ++ verdict :: rest) = fault ↔
      (∀ earlier ∈ front, earlier.isMatch = true) ∧
        (verdict = fault ∨ verdict.isMatch = true ∧ all rest = fault) := by
  rw [all_append, both_eq_fault_iff, or_iff_right (all_ne_fault sound), isMatch_all,
    List.all_eq_true, all_cons, both_eq_fault_iff]

end Verdict

/-! ## Verdicts on one kind of entity -/

namespace Query

variable {kind : EntityKind} {now : Instant} {values : FieldValues} {query : Query}

/-- The verdict of the conjuncts of a predicate that read one kind of entity. -/
def verdictOn
    (kind : EntityKind)
    (now : Instant)
    (values : FieldValues)
    (query : Query) : Verdict :=
  .all ((query.conjuncts.filter fun conjunct => conjunct.kindSet = [kind]).map
    (evaluate now values))

theorem verdictOn_of_all?_eq_some
    {queries : List Query}
    (combined : all? queries = some query) :
    query.verdictOn kind now values = .all (queries.map (verdictOn kind now values)) := by
  rw [verdictOn, conjuncts_of_all?_eq_some combined, List.filter_flatMap, List.map_flatMap,
    Verdict.all_flatMap]
  rfl

theorem verdictOn_gated (scope : Option Query) :
    (Compiler.gated scope query).verdictOn kind now values =
      (Verdict.all (scope.toList.map (verdictOn kind now values))).both
        (query.verdictOn kind now values) := by
  rw [verdictOn, conjuncts_gated, List.filter_append, List.map_append, Verdict.all_append,
    List.filter_flatMap, List.map_flatMap, Verdict.all_flatMap]
  rfl

/-- A predicate that reads one kind of entity is evaluated as a whole on that kind. -/
theorem verdictOn_of_kind_eq
    (populated : query.Populated)
    (ofKind : ∀ field ∈ query.fields, field.kind = kind) :
    query.verdictOn kind now values = query.evaluate now values := by
  have every : ∀ conjunct ∈ query.conjuncts, conjunct.kindSet = [kind] := fun conjunct member =>
    kindSet_eq_singleton (populated.of_mem_conjuncts member).fields_ne_nil fun field inConjunct =>
      ofKind field (mem_fields_of_mem_conjuncts member inConjunct)
  rw [evaluate_eq_all_conjuncts, verdictOn, List.filter_eq_self.2 (by simpa using every)]

/-- On any other kind it asks for nothing. -/
theorem verdictOn_of_kind_ne
    (populated : query.Populated)
    (ofOther : ∀ field ∈ query.fields, field.kind ≠ kind) :
    query.verdictOn kind now values = .matched {} := by
  have none : ∀ conjunct ∈ query.conjuncts, conjunct.kindSet ≠ [kind] := by
    intro conjunct member single
    obtain ⟨field, inConjunct⟩ :=
      List.exists_mem_of_ne_nil _ (populated.of_mem_conjuncts member).fields_ne_nil
    exact ofOther field (mem_fields_of_mem_conjuncts member inConjunct)
      (kind_of_kindSet_eq_singleton single inConjunct)
  rw [verdictOn, List.filter_eq_nil_iff.2 (by simpa using none)]
  rfl

theorem verdictOn_ne_fault
    (fit : ∀ field ∈ query.fields, field.operation.agesFit = true) :
    query.verdictOn kind now values ≠ .fault := by
  apply Verdict.all_ne_fault
  intro member
  obtain ⟨conjunct, inConjuncts, isFault⟩ := List.mem_map.1 member
  have inQuery := List.mem_of_mem_filter inConjuncts
  exact evaluate_ne_fault now
    (fun field inConjunct => fit field (mem_fields_of_mem_conjuncts inQuery inConjunct)) values
    isFault

end Query

/-- The verdict on a kind is a fault if the verdict of the conjuncts of that kind is on some
entity. -/
theorem Compiler.kindVerdict_eq_fault_iff
    {whole : Query}
    {queries : KindQueries}
    {policyName : String}
    {printer : Printer}
    {now : Instant}
    {subjects : Subjects}
    (split : whole.split? = some queries)
    {kind : EntityKind} :
    (matcher policyName queries printer).kindVerdict now subjects kind = .fault ↔
      ∃ values ∈ subjects.values kind, whole.verdictOn kind now values = .fault := by
  have conjuncts := Query.ofKind_of_split?_eq_some split kind
  cases combined : Query.all? (queries.ofKind kind) with
  | none =>
      rw [Matcher.kindVerdict_of_none (by rw [predicate_matcher, combined])]
      simp [Query.verdictOn, ← conjuncts, Query.all?_eq_none_iff.1 combined]
  | some query =>
      rw [kindVerdict_matcher combined, Verdict.any_eq_fault_iff, List.mem_map]
      simp only [Query.verdictOn, ← conjuncts, Query.evaluate_of_all?_eq_some now _ combined]

/-! ## Verdicts of checks -/

namespace Check

variable
  {kind : EntityKind}
  {fields : PolicyFields}
  {registry : FieldRegistry}
  {now : Instant}
  {values : FieldValues}
  {check : Check}

/-- The verdict of what a tree of checks asks of one kind of entity. -/
def verdictOn
    (kind : EntityKind)
    (fields : PolicyFields)
    (registry : FieldRegistry)
    (now : Instant)
    (values : FieldValues)
    (check : Check) : Verdict :=
  match check.contribution? fields registry with
  | .ok (some part) => part.query.verdictOn kind now values
  | _ => .matched {}

theorem all_verdictOn_of_contributions
    {checks : List Check}
    {parts : List Contribution}
    (run : contributions fields registry checks = .ok parts) :
    Verdict.all (parts.map fun part => part.query.verdictOn kind now values) =
      .all (checks.map (verdictOn kind fields registry now values)) := by
  induction checks generalizing parts with
  | nil =>
      cases run
      rfl
  | cons check checks hypothesis =>
      obtain ⟨first, others, firstRun, othersRun, rfl⟩ := contributions_cons_eq_ok_iff.1 run
      have head :
          Verdict.all (first.toList.map fun part => part.query.verdictOn kind now values) =
            check.verdictOn kind fields registry now values := by
        rw [verdictOn, firstRun]
        cases first <;> simp
      rw [List.map_append, Verdict.all_append, head, hypothesis othersRun, List.map_cons,
        Verdict.all_cons]

theorem verdictOn_ne_fault (fit : ∀ leaf ∈ check.leaves, leaf.AgesFit fields) :
    check.verdictOn kind fields registry now values ≠ .fault := by
  unfold verdictOn
  split
  · rename_i part run
    exact Query.verdictOn_ne_fault (agesFit_of_contribution? fit run)
  · simp

/-- Values pass a tree of checks: they match what it contributes, if that is something. -/
def PassedBy
    (fields : PolicyFields)
    (registry : FieldRegistry)
    (now : Instant)
    (values : FieldValues)
    (check : Check) : Prop :=
  ∀ part, check.contribution? fields registry = .ok (some part) →
    (part.query.evaluate now values).isMatch = true

/-- A tree that reads one kind of entity is evaluated as a whole on that kind. -/
theorem verdictOn_of_reads
    (isStandard : registry.IsStandard)
    (reads : ∀ leaf ∈ check.leaves, leaf.Reads kind)
    {part : Contribution}
    (run : check.contribution? fields registry = .ok (some part)) :
    check.verdictOn kind fields registry now values = part.query.evaluate now values := by
  rw [verdictOn, run]
  refine Query.verdictOn_of_kind_eq (founded_of_contribution? run).populated fun field member => ?_
  obtain ⟨leaf, inLeaves, _, leafRun, inPart⟩ := exists_leaf_of_mem_fields run member
  exact (reads leaf inLeaves).kind_eq isStandard leafRun field inPart

theorem isMatch_verdictOn_iff
    (isStandard : registry.IsStandard)
    (reads : ∀ leaf ∈ check.leaves, leaf.Reads kind) :
    (check.verdictOn kind fields registry now values).isMatch = true ↔
      check.PassedBy fields registry now values := by
  constructor
  · intro isMatch part run
    rwa [verdictOn_of_reads isStandard reads run] at isMatch
  · intro passed
    cases run : check.contribution? fields registry with
    | error error =>
        rw [verdictOn, run]
        rfl
    | ok outcome =>
        cases outcome with
        | none =>
            rw [verdictOn, run]
            rfl
        | some part =>
            rw [verdictOn_of_reads isStandard reads run]
            exact passed part run

/-! ### The checks in front of the ages -/

/-- The standard checks in front of the first one of a given name. -/
def ahead (name : String) : List Check :=
  standard.takeWhile (·.name != name)

/-- The standard checks between those of ages. -/
def betweenAges : List Check :=
  [ofLinked .dockerfileLine, ofLinked .cve, ofLinked .cvss, ofLinked .fixedBy, component]

/-- The standard checks after those of ages. -/
def afterAges : List Check :=
  standard.drop 8

theorem standard_eq :
    standard =
      ahead ImageTime.created.name ++ leaf ImageTime.created.check ::
        (betweenAges ++ leaf ImageTime.scanned.check :: afterAges) :=
  rfl

theorem ahead_scanned :
    ahead ImageTime.scanned.name =
      ahead ImageTime.created.name ++ leaf ImageTime.created.check :: betweenAges :=
  rfl

/-- The checks in front of the ages read images. -/
theorem reads_image_of_mem_ahead :
    ∀ check ∈ ahead ImageTime.scanned.name, ∀ leaf ∈ check.leaves, leaf.Reads .image := by
  have listed :
      ahead ImageTime.scanned.name =
        [imageName, leaf ImageTime.created.check, ofLinked .dockerfileLine, ofLinked .cve,
          ofLinked .cvss, ofLinked .fixedBy, component] :=
    rfl
  simp only [listed, imageName, component, ofField, ofLinked, List.forall_mem_cons, leaves,
    leavesOfAll, List.append_nil, List.cons_append, List.nil_append]
  exact
    ⟨⟨rfl, rfl, rfl, by simp⟩, ⟨rfl, by simp⟩, ⟨LeafCheck.reads_dockerfileLine, by simp⟩,
      ⟨LeafCheck.reads_cve, by simp⟩, ⟨LeafCheck.reads_cvss, by simp⟩,
      ⟨LeafCheck.reads_fixedBy, by simp⟩, ⟨rfl, rfl, by simp⟩, by simp⟩

/-- The standard checks around those of ages demand ages that fit. -/
theorem agesFit_of_mem_around (fields : PolicyFields) :
    ∀ check ∈ ahead ImageTime.created.name ++ (betweenAges ++ afterAges),
      ∀ leaf ∈ check.leaves, leaf.AgesFit fields := by
  intro check member leaf inLeaves
  have around :
      leaf ∈ leavesOfAll (ahead ImageTime.created.name ++ (betweenAges ++ afterAges)) :=
    mem_leavesOfAll_iff.2 ⟨check, member, inLeaves⟩
  have ageless :
      ∀ leaf ∈ leavesOfAll (ahead ImageTime.created.name ++ (betweenAges ++ afterAges)),
        leaf.name ≠ ImageTime.created.name ∧ leaf.name ≠ ImageTime.scanned.name := by
    decide
  have inStandard : leaf ∈ leavesOfAll standard := by
    refine mem_leavesOfAll_iff.2 ⟨check, ?_, inLeaves⟩
    rw [standard_eq]
    simp only [List.mem_append, List.mem_cons] at member ⊢
    tauto
  rcases agesFit_or_eq_age fields leaf inStandard with fit | rfl | rfl
  · exact fit
  · exact absurd rfl (ageless _ around).1
  · exact absurd rfl (ageless _ around).2

/-- The standard checks around those of ages can be compared with anything. -/
theorem fault_not_mem_verdictOn
    {checks : List Check}
    (around : checks ⊆ ahead ImageTime.created.name ++ (betweenAges ++ afterAges)) :
    .fault ∉ checks.map (verdictOn kind fields registry now values) := by
  intro member
  obtain ⟨check, inChecks, isFault⟩ := List.mem_map.1 member
  exact verdictOn_ne_fault (agesFit_of_mem_around fields check (around inChecks)) isFault

theorem forall_isMatch_verdictOn_iff
    (isStandard : registry.IsStandard)
    {checks : List Check}
    (inFront : checks ⊆ ahead ImageTime.scanned.name) :
    (∀ verdict ∈ checks.map (verdictOn .image fields registry now values),
        verdict.isMatch = true) ↔
      ∀ check ∈ checks, check.PassedBy fields registry now values := by
  rw [List.forall_mem_map]
  exact forall₂_congr fun check member =>
    isMatch_verdictOn_iff isStandard (reads_image_of_mem_ahead check (inFront member))

end Check

/-- A policy asks for days that fit no duration, and an image has a time that can be read. -/
def ImageTime.Incomparable (time : ImageTime) (fields : PolicyFields) (image : Image) : Prop :=
  ∃ days instant, time.days? fields = some days ∧ Instant.dayCountFits days = false ∧
    time.of? image = some instant ∧ (readStrict? instant.text).isSome = true

section Images

variable
  {fields : PolicyFields}
  {registry : FieldRegistry}
  {now : Instant}
  {image : Image}

theorem ImageTime.verdictOn_eq_fault_iff
    {time : ImageTime}
    (isStandard : registry.IsStandard)
    {outcome : Option Contribution}
    (run : time.check.contribution? fields registry = .ok outcome) :
    (Check.leaf time.check).verdictOn .image fields registry now image.fieldValues = .fault ↔
      time.Incomparable fields image := by
  have treeRun : (Check.leaf time.check).contribution? fields registry = .ok outcome := run
  cases asked : time.days? fields with
  | none =>
      cases eq_none_of_contribution? asked run
      rw [Check.verdictOn, treeRun]
      simp [Incomparable, asked]
  | some days =>
      cases eq_part_of_contribution? isStandard asked run
      have reads : ∀ leaf ∈ (Check.leaf time.check).leaves, leaf.Reads .image := by
        rw [Check.leaves_leaf, List.forall_mem_singleton]
        cases time <;> rfl
      rw [Check.verdictOn_of_reads isStandard reads treeRun, evaluate_part]
      cases present : time.of? image with
      | none => simp [Incomparable, present]
      | some instant =>
          have faults_iff :
              (Operation.olderThanDays days).faults instant.text = true ↔
                time.Incomparable fields image := by
            simp [Operation.faults, Incomparable, asked, present]
          rw [← faults_iff]
          simp only
          by_cases faulty : (Operation.olderThanDays days).faults instant.text = true
          · simp [faulty]
          · rw [if_neg faulty, iff_false_right faulty]
            split <;> simp

/-- The standard checks are a fault on an image if it passes those in front of an age that cannot
be compared. -/
theorem Check.all_verdictOn_standard_eq_fault_iff
    (isStandard : registry.IsStandard)
    (succeeds : ∀ time : ImageTime, ∃ outcome,
      time.check.contribution? fields registry = .ok outcome) :
    Verdict.all (standard.map (verdictOn .image fields registry now image.fieldValues)) =
        .fault ↔
      ∃ time : ImageTime, time.Incomparable fields image ∧
        ∀ check ∈ ahead time.name, check.PassedBy fields registry now image.fieldValues := by
  have fault_iff (time : ImageTime) :
      (leaf time.check).verdictOn .image fields registry now image.fieldValues = .fault ↔
        time.Incomparable fields image := by
    obtain ⟨_, run⟩ := succeeds time
    exact time.verdictOn_eq_fault_iff isStandard run
  have late :
      Verdict.all (afterAges.map (verdictOn .image fields registry now image.fieldValues)) ≠
        .fault :=
    Verdict.all_ne_fault (fault_not_mem_verdictOn fun check member => by simp [member])
  have createdInFront : leaf ImageTime.created.check ∈ ahead ImageTime.scanned.name := by
    simp [ahead_scanned]
  have beforeCreated :
      .fault ∉ (ahead ImageTime.created.name).map
        (verdictOn .image fields registry now image.fieldValues) :=
    fault_not_mem_verdictOn (List.subset_append_left ..)
  have beforeScanned :
      .fault ∉ betweenAges.map (verdictOn .image fields registry now image.fieldValues) :=
    fault_not_mem_verdictOn fun check member => by simp [member]
  rw [standard_eq, List.map_append, List.map_cons,
    Verdict.all_append_cons_eq_fault_iff beforeCreated, List.map_append, List.map_cons,
    Verdict.all_append_cons_eq_fault_iff beforeScanned,
    forall_isMatch_verdictOn_iff isStandard fun check member => by simp [ahead_scanned, member],
    forall_isMatch_verdictOn_iff isStandard fun check member => by simp [ahead_scanned, member],
    isMatch_verdictOn_iff isStandard (reads_image_of_mem_ahead _ createdInFront), fault_iff,
    fault_iff]
  simp only [late, and_false, or_false]
  constructor
  · rintro ⟨front, incomparable | ⟨compared, between, incomparable⟩⟩
    · exact ⟨.created, incomparable, front⟩
    · refine ⟨.scanned, incomparable, ?_⟩
      rw [ahead_scanned, List.forall_mem_append, List.forall_mem_cons]
      exact ⟨front, compared, between⟩
  · rintro ⟨time, incomparable, passed⟩
    cases time with
    | created => exact ⟨passed, .inl incomparable⟩
    | scanned =>
        rw [ahead_scanned, List.forall_mem_append, List.forall_mem_cons] at passed
        exact ⟨passed.1, .inr ⟨passed.2.1, passed.2.2, incomparable⟩⟩

end Images

/-! ## Runs -/

namespace Compiler

variable
  {compiler : Compiler}
  {policy : Policy}
  {fields : PolicyFields}
  {added : List Check}
  {contribution : Contribution}
  {scope : Option Query}
  {queries : KindQueries}
  {policyName : String}
  {printer : Printer}
  {now : Instant}
  {subjects : Subjects}

/-- What a policy asks of images is what the standard checks ask of them. -/
theorem Gathers.verdictOn_image
    (gathers : compiler.Gathers policy fields added contribution scope)
    (isStandard : compiler.registry.IsStandard)
    (standardChecks : compiler.checks = Check.standard)
    (values : FieldValues) :
    (gated scope contribution.query).verdictOn .image now values = .fault ↔
      Verdict.all (Check.standard.map
        (Check.verdictOn .image fields compiler.registry now values)) = .fault := by
  have ofScope : Verdict.all (scope.toList.map (Query.verdictOn .image now values)) =
      .matched {} := by
    cases scope with
    | none => rfl
    | some query =>
        have madeOf : query.MadeOf (Scope.IsLeaf compiler.registry) := gathers.scope_madeOf rfl
        have asksNothing : query.verdictOn .image now values = .matched {} := by
          refine Query.verdictOn_of_kind_ne madeOf.populated fun field member => ?_
          rw [(madeOf.of_mem_fields member).kind_eq isStandard]
          simp
        simp [asksNothing]
  have ofAdded : Verdict.all (added.map
      (Check.verdictOn .image fields compiler.registry now values)) ≠ .fault := by
    apply Verdict.all_ne_fault
    intro member
    obtain ⟨check, inAdded, isFault⟩ := List.mem_map.1 member
    refine Check.verdictOn_ne_fault (fun leaf inLeaves => ?_) isFault
    obtain ⟨store, rfl⟩ := exists_store_of_mem_permissionChecks gathers.permitted
      (Check.mem_leavesOfAll_iff.2 ⟨check, inAdded, inLeaves⟩)
    trivial
  obtain ⟨parts, run, combined⟩ := Check.contribution?_all_eq_ok_iff.1 gathers.contributed
  have ofChecks :
      contribution.query.verdictOn .image now values =
        .all (parts.map fun part => part.query.verdictOn .image now values) := by
    rw [Query.verdictOn_of_all?_eq_some (Contribution.combined?_eq_some_iff.1 combined).1,
      List.map_map]
    rfl
  rw [Query.verdictOn_gated, ofScope, Verdict.matched_empty_both, ofChecks,
    Check.all_verdictOn_of_contributions run, standardChecks, List.map_append,
    Verdict.all_append, Verdict.both_eq_fault_iff]
  simp only [ofAdded, and_false, or_false]

/-- A run comes to an age that cannot be compared: the process and the deployment satisfy the
policy, and an image with such an age passes the checks in front of it. -/
def MeetsIncomparable
    (compiler : Compiler)
    (fields : PolicyFields)
    (matcher : Matcher)
    (now : Instant)
    (subjects : Subjects) : Prop :=
  matcher.Satisfied now subjects .process ∧ matcher.Satisfied now subjects .deployment ∧
    ∃ image ∈ subjects.images, ∃ time : ImageTime, time.Incomparable fields image ∧
      ∀ check ∈ Check.ahead time.name,
        check.PassedBy fields compiler.registry now image.fieldValues

/-- A run of a policy breaks off if it comes to an age that cannot be compared. -/
theorem Gathers.verdict_eq_fault_iff
    (gathers : compiler.Gathers policy fields added contribution scope)
    (isStandard : compiler.registry.IsStandard)
    (standardChecks : compiler.checks = Check.standard)
    (split : (gated scope contribution.query).split? = some queries) :
    (matcher policyName queries printer).verdict (Query.evaluate now) subjects = .fault ↔
      compiler.MeetsIncomparable fields (matcher policyName queries printer) now subjects := by
  have sound {kind : EntityKind} (other : kind ≠ .image) :
      (matcher policyName queries printer).kindVerdict now subjects kind ≠ .fault :=
    gathers.kindVerdict_ne_fault_of_ne_image isStandard standardChecks split other
  have succeeds (time : ImageTime) :
      ∃ outcome, time.check.contribution? fields compiler.registry = .ok outcome := by
    refine Check.exists_outcome_of_mem_leaves gathers.contributed ?_
    exact mem_leaves_tree standardChecks (List.mem_of_find?_eq_some time.standardLeaf?_name)
  have ofImages :
      (matcher policyName queries printer).kindVerdict now subjects .image = .fault ↔
        ∃ image ∈ subjects.images, ∃ time : ImageTime, time.Incomparable fields image ∧
          ∀ check ∈ Check.ahead time.name,
            check.PassedBy fields compiler.registry now image.fieldValues := by
    rw [kindVerdict_eq_fault_iff split]
    simp only [Subjects.values, List.mem_map, exists_exists_and_eq_and]
    refine exists_congr fun image => and_congr_right fun _ => ?_
    rw [gathers.verdictOn_image isStandard standardChecks,
      Check.all_verdictOn_standard_eq_fault_iff isStandard succeeds]
  rw [Matcher.verdict_eq, Verdict.both_eq_fault_iff, Verdict.both_eq_fault_iff,
    or_iff_right (sound (by simp)), or_iff_right (sound (by simp)),
    Matcher.isMatch_kindVerdict_iff (sound (by simp)),
    Matcher.isMatch_kindVerdict_iff (sound (by simp)), ofImages]
  rfl

/-- A policy that compiles with the standard checks gives a report on whatever it is run on,
unless the run comes to an age that cannot be compared.  It then breaks off. -/
theorem run_reports_unless_incomparable
    {compiler : Compiler}
    (isStandard : compiler.registry.IsStandard)
    (standardChecks : compiler.checks = Check.standard)
    {policy : Policy}
    {matcher : Matcher}
    (compiled : compiler.compile policy = .ok matcher)
    {fields : PolicyFields}
    (set : policy.fields = some fields)
    (now : Instant)
    (subjects : Subjects) :
    match matcher.run now subjects with
    | .ok _ => ¬ compiler.MeetsIncomparable fields matcher now subjects
    | .error error =>
        error = .incomparableAge policy.name ∧
          compiler.MeetsIncomparable fields matcher now subjects := by
  obtain ⟨_, added, contribution, scope, queries, gathers, split, rfl⟩ :=
    exists_gathers_of_compile_eq_ok compiled
  cases Option.some.inj (set.symm.trans (fields_of_constraints gathers.constrained))
  obtain ⟨kind, query, present⟩ :=
    exists_predicate policy.name contribution.printer gathers.populated split
  have fault_iff :
      (Compiler.matcher policy.name queries contribution.printer).verdict (Query.evaluate now)
          subjects = .fault ↔ _ :=
    gathers.verdict_eq_fault_iff isStandard standardChecks split
  rw [Matcher.run_eq present]
  cases outcome : (Compiler.matcher policy.name queries contribution.printer).verdict
      (Query.evaluate now) subjects with
  | unmatched =>
      show ¬ _
      rw [← fault_iff, outcome]
      simp
  | fault => exact ⟨rfl, fault_iff.1 outcome⟩
  | matched highlights =>
      have known : compiler.IsKnown := fun leaf member => .inl (standardChecks ▸ member)
      have told := gathers.alerts_ne_nil known.linksApart isStandard.hasDistinctPaths split outcome
      have reported :
          ((Compiler.matcher policy.name queries contribution.printer).report subjects
            highlights).isEmpty = false := by
        have alerts :
            ((Compiler.matcher policy.name queries contribution.printer).report subjects
              highlights).alerts ≠ [] := told
        simp [Violations.isEmpty, alerts]
      simp only [reported, Bool.false_eq_true, if_false]
      rw [← fault_iff, outcome]
      simp

end Compiler

/-! ### An age that no duration reaches -/

/-- Constraints that an image is older than the most days that a policy can hold. -/
def PolicyFields.ancient : PolicyFields where
  imageAgeDays := some 9223372036854775807

/-- An image with the time at which it was built. -/
def Image.dated : Image where
  id := "sha256:1"
  metadata := some { created := some ⟨⟨2001, 2, 3⟩, 14706, 0⟩ }

namespace Compiler

theorem exists_breaksOff_of_ancient :
    ∃ matcher,
      ({ registry := .standard } : Compiler).compile
          { name := "ancient", fields := some .ancient } = .ok matcher ∧
        matcher.run Check.newYear { images := [.dated] } = .error (.incomparableAge "ancient") := by
  apply exists_run_of_outcome?_eq_some
  decide +kernel

/-- The run that breaks off comes to the image with its time. -/
theorem run_reports_unless_incomparable_of_ancient :
    ∃ matcher,
      ({ registry := .standard } : Compiler).compile
          { name := "ancient", fields := some .ancient } = .ok matcher ∧
        ({ registry := .standard } : Compiler).MeetsIncomparable .ancient matcher Check.newYear
          { images := [.dated] } := by
  obtain ⟨matcher, compiled, breaksOff⟩ := exists_breaksOff_of_ancient
  have outcome :=
    run_reports_unless_incomparable FieldRegistry.isStandard_standard rfl compiled rfl
      Check.newYear { images := [.dated] }
  rw [breaksOff] at outcome
  exact ⟨matcher, compiled, outcome.2⟩

/-- A policy compiles and gives no report on some image. -/
theorem not_run_reports :
    ¬ ∀ (policy : Policy) (matcher : Matcher),
      ({ registry := .standard } : Compiler).compile policy = .ok matcher →
        ∀ now subjects, ∃ violations, matcher.run now subjects = .ok violations := by
  intro reports
  obtain ⟨matcher, compiled, breaksOff⟩ := exists_breaksOff_of_ancient
  obtain ⟨violations, reported⟩ := reports _ matcher compiled Check.newYear { images := [.dated] }
  cases breaksOff.symm.trans reported

end Compiler
end WorkloadPolicy
