import WorkloadPolicy.Proofs.Compilation
import WorkloadPolicy.Proofs.Standard

/-!
# Flat trees of checks

In the standard checks only single checks are alternatives of each other: those
of resources, which read one kind of entity and tell of highlights only.  The
predicate of such a tree therefore always splits by kind of entity, and a match
of it highlights what its leaves highlight one after the other.
-/

namespace WorkloadPolicy

/-- A check tells nothing unless something is highlighted. -/
def LeafCheck.IsQuiet (check : LeafCheck) : Prop :=
  ∀ fields registry contribution,
    check.contribution? fields registry = .ok (some contribution) →
      contribution.printer.alerts {} = []

namespace LeafCheck

variable {name : String} {label : FieldLabel}

/-- A check of a value that a policy may set tells of highlights only, if it demands
nothing with a fixed message. -/
theorem isQuiet_of_map
    {source : PolicyFields → Option α}
    {demand : α → FieldDemand}
    (tells : ∀ value metadata plain,
      (demand value).contribution? name label metadata = .ok (some plain) →
        ∃ template, plain.printer = .field metadata.path template) :
    (field ⟨name, label, fun fields => .ok ((source fields).map demand)⟩).IsQuiet := by
  intro fields registry contribution contributed
  obtain ⟨plain, run, rfl⟩ := contribution?_eq_ok_some_iff.1 contributed
  obtain ⟨demanded, given, rest⟩ := Outcome.bind_eq_ok_iff.1 run
  cases demanded with
  | none => simp at rest
  | some demanded =>
      obtain ⟨value, -, rfl⟩ := Option.map_eq_some_iff.1 (Except.ok.inj given)
      obtain ⟨metadata, -, rest⟩ := Outcome.bind_eq_ok_iff.1 rest
      obtain ⟨template, printer⟩ := tells value metadata plain rest
      simp [Contribution.keyed, printer, Printer.keyed, Printer.alerts]

theorem isQuiet_threshold
    {description : String}
    {source : PolicyFields → Option NumericalPolicy} :
    (field (.threshold name label description source)).IsQuiet :=
  isQuiet_of_map fun policy metadata plain run => by
    cases run
    exact ⟨_, rfl⟩

theorem isQuiet_age
    {subject : String}
    {source : PolicyFields → Option Int} :
    (field (.age name label subject source)).IsQuiet :=
  isQuiet_of_map fun days metadata plain run => by
    cases run
    exact ⟨_, rfl⟩

theorem isQuiet_pattern
    {subject : String}
    {anywhere : Bool}
    {source : PolicyFields → Option String} :
    (field (.pattern name label subject anywhere source)).IsQuiet :=
  isQuiet_of_map fun text metadata plain run => by
    cases anywhere <;>
      (obtain ⟨compiled, -, equal⟩ := Outcome.bind_eq_ok_iff.1 run
       cases equal
       exact ⟨_, rfl⟩)

end LeafCheck

namespace Check

/-- A tree whose alternatives are single checks that read one kind of entity and
tell of highlights only. -/
inductive Flat : Check → Prop
  | leaf (check : LeafCheck) : Flat (leaf check)
  | all {checks : List Check} (each : ∀ check ∈ checks, Flat check) : Flat (all checks)
  | any
      {checks : List Check}
      (kind : EntityKind)
      (each : ∀ check ∈ checks, ∃ leaf : LeafCheck,
        check = .leaf leaf ∧ leaf.IsQuiet ∧ leaf.Reads kind) :
      Flat (any checks)

/-- The standard checks are flat: only resources are alternatives. -/
theorem flat_standard : ∀ check ∈ standard, check.Flat := by
  simp only [standard, imageName, component, port, process, resources, ofField, ofLinked,
    List.forall_mem_cons, Flat.leaf, true_and]
  refine ⟨?_, ?_, ?_, ?_, ?_, by simp⟩
  · exact .all (by simp [Flat.leaf])
  · exact .all (by simp [Flat.leaf])
  · exact .all (by simp [Flat.leaf])
  · exact .all (by simp [Flat.leaf])
  · refine .any .deployment ?_
    simp only [List.forall_mem_cons]
    exact
      ⟨⟨_, rfl, LeafCheck.isQuiet_threshold, rfl⟩, ⟨_, rfl, LeafCheck.isQuiet_threshold, rfl⟩,
        ⟨_, rfl, LeafCheck.isQuiet_threshold, rfl⟩, ⟨_, rfl, LeafCheck.isQuiet_threshold, rfl⟩,
        List.forall_mem_nil _⟩

section Flat

variable
  {fields : PolicyFields}
  {registry : FieldRegistry}
  {now : Calendar.Instant}
  {values : FieldValues}

theorem exists_outcome_of_mem
    {checks : List Check}
    {parts : List Contribution}
    (run : contributions fields registry checks = .ok parts)
    {check : Check}
    (member : check ∈ checks) :
    ∃ outcome, check.contribution? fields registry = .ok outcome ∧
      ∀ part ∈ outcome, part ∈ parts := by
  induction checks generalizing parts with
  | nil => simp at member
  | cons head checks hypothesis =>
      obtain ⟨first, others, firstRun, othersRun, rfl⟩ := contributions_cons_eq_ok_iff.1 run
      rcases List.mem_cons.1 member with rfl | inChecks
      · exact ⟨first, firstRun, fun part present =>
          List.mem_append_left _ (Option.mem_toList.2 present)⟩
      · obtain ⟨outcome, outcomeRun, subset⟩ := hypothesis othersRun inChecks
        exact ⟨outcome, outcomeRun, fun part present =>
          List.mem_append_right _ (subset part present)⟩

/-- A flat tree that matches highlights what its leaves do, in order. -/
theorem Flat.get_found
    {check : Check}
    (flat : check.Flat)
    {contribution : Contribution}
    (run : check.contribution? fields registry = .ok (some contribution))
    (matched : (contribution.query.evaluate now values).isMatch = true)
    (key : String) :
    (contribution.query.evaluate now values).found.get key =
      (check.contributed fields registry).flatMap fun part =>
        (part.query.evaluate now values).found.get key := by
  induction flat generalizing contribution with
  | leaf check => rw [contributed_leaf run, List.flatMap_singleton]
  | all _ hypothesis =>
      obtain ⟨parts, partsRun, combined⟩ := contribution?_all_eq_ok_iff.1 run
      rw [Contribution.evaluate_of_combined?_all combined] at matched ⊢
      obtain ⟨each, found⟩ := Verdict.all_eq_matched_iff.1 (Verdict.eq_matched_found matched)
      rw [found, Highlights.get_concat, List.flatMap_map, List.flatMap_map]
      apply collect_of_contributions partsRun
      intro check inChecks part inParts partRun
      exact hypothesis check inChecks partRun
        (each _ (List.mem_map_of_mem inParts))
  | any kind leaves =>
      obtain ⟨parts, partsRun, combined⟩ := contribution?_any_eq_ok_iff.1 run
      rw [Contribution.evaluate_of_combined?_any combined] at matched ⊢
      obtain ⟨-, -, found⟩ := Verdict.any_eq_matched_iff.1 (Verdict.eq_matched_found matched)
      rw [found, Highlights.get_concat, List.flatMap_map, List.flatMap_map]
      apply collect_of_contributions partsRun
      intro check inChecks part _ partRun
      obtain ⟨leaf, rfl, -⟩ := leaves check inChecks
      rw [contributed_leaf partRun, List.flatMap_singleton]

/-- When a flat tree matches, each of its leaves matches or tells of highlights
only. -/
theorem Flat.isMatch_or_isQuiet
    {check : Check}
    (flat : check.Flat)
    {contribution : Contribution}
    (run : check.contribution? fields registry = .ok (some contribution))
    (matched : (contribution.query.evaluate now values).isMatch = true)
    {leaf : LeafCheck}
    (inLeaves : leaf ∈ check.leaves)
    {part : Contribution}
    (leafRun : leaf.contribution? fields registry = .ok (some part)) :
    part.query.evaluate now values ≠ .fault ∧
      ((part.query.evaluate now values).isMatch = true ∨ leaf.IsQuiet) := by
  induction flat generalizing contribution with
  | leaf check =>
      cases List.mem_singleton.1 inLeaves
      have same : contribution = part := by
        have checkRun : leaf.contribution? fields registry = .ok (some contribution) := run
        rw [checkRun] at leafRun
        simpa using leafRun
      subst same
      refine ⟨fun isFault => ?_, .inl matched⟩
      simp [isFault] at matched
  | all _ hypothesis =>
      obtain ⟨parts, partsRun, combined⟩ := contribution?_all_eq_ok_iff.1 run
      rw [Contribution.evaluate_of_combined?_all combined] at matched
      obtain ⟨each, -⟩ := Verdict.all_eq_matched_iff.1 (Verdict.eq_matched_found matched)
      rw [leaves_all, mem_leavesOfAll_iff] at inLeaves
      obtain ⟨tree, inChecks, inTree⟩ := inLeaves
      obtain ⟨outcome, treeRun, subset⟩ := exists_outcome_of_mem partsRun inChecks
      cases outcome with
      | none =>
          have inContributed : part ∈ tree.contributed fields registry :=
            mem_contributed_iff.2 ⟨leaf, inTree, leafRun⟩
          rw [contributed_eq_nil treeRun] at inContributed
          simp at inContributed
      | some whole =>
          have inParts : whole ∈ parts := subset whole rfl
          exact hypothesis tree inChecks treeRun
            (each _ (List.mem_map_of_mem inParts)) inTree
  | any kind leaves =>
      obtain ⟨parts, partsRun, combined⟩ := contribution?_any_eq_ok_iff.1 run
      rw [Contribution.evaluate_of_combined?_any combined] at matched
      obtain ⟨sound, -, -⟩ := Verdict.any_eq_matched_iff.1 (Verdict.eq_matched_found matched)
      rw [leaves_any, mem_leavesOfAll_iff] at inLeaves
      obtain ⟨tree, inChecks, inTree⟩ := inLeaves
      obtain ⟨single, rfl, quiet, -⟩ := leaves tree inChecks
      cases List.mem_singleton.1 inTree
      obtain ⟨outcome, treeRun, subset⟩ := exists_outcome_of_mem partsRun inChecks
      have sameOutcome : outcome = some part := by
        have outcomeRun : leaf.contribution? fields registry = .ok outcome := treeRun
        rw [leafRun] at outcomeRun
        exact (Except.ok.inj outcomeRun).symm
      have inParts : part ∈ parts := subset part sameOutcome
      refine ⟨fun isFault => sound ?_, .inr quiet⟩
      rw [← isFault]
      exact List.mem_map_of_mem inParts

/-- Every conjunct of a flat tree reads one kind of entity. -/
theorem Flat.exists_kind_of_mem_conjuncts
    (isStandard : registry.IsStandard)
    {check : Check}
    (flat : check.Flat)
    (known : ∀ leaf ∈ check.leaves, leaf.IsKnown)
    {contribution : Contribution}
    (run : check.contribution? fields registry = .ok (some contribution))
    {conjunct : Query}
    (member : conjunct ∈ contribution.query.conjuncts) :
    ∃ kind, ∀ field ∈ conjunct.fields, field.kind = kind := by
  induction flat generalizing contribution conjunct with
  | leaf check =>
      obtain ⟨kind, reads⟩ := (known check (by simp)).exists_reads
      refine ⟨kind, fun field inConjunct => ?_⟩
      exact reads.kind_eq isStandard run field (Query.mem_fields_of_mem_conjuncts member inConjunct)
  | all _ hypothesis =>
      obtain ⟨parts, partsRun, combined⟩ := contribution?_all_eq_ok_iff.1 run
      rw [Query.conjuncts_of_all?_eq_some (Contribution.combined?_eq_some_iff.1 combined).1,
        List.flatMap_map] at member
      obtain ⟨part, inParts, inPart⟩ := List.mem_flatMap.1 member
      obtain ⟨tree, inChecks, treeRun⟩ := exists_of_mem_contributions partsRun inParts
      refine hypothesis tree inChecks (fun leaf inTree => known leaf ?_) treeRun inPart
      rw [leaves_all, mem_leavesOfAll_iff]
      exact ⟨tree, inChecks, inTree⟩
  | any kind leaves =>
      obtain ⟨parts, partsRun, combined⟩ := contribution?_any_eq_ok_iff.1 run
      refine ⟨kind, fun field inConjunct => ?_⟩
      have inWhole := Query.mem_fields_of_mem_conjuncts member inConjunct
      rw [(Contribution.Combined.any combined).fields_eq] at inWhole
      obtain ⟨part, inParts, inPart⟩ := List.mem_flatMap.1 inWhole
      obtain ⟨tree, inChecks, treeRun⟩ := exists_of_mem_contributions partsRun inParts
      obtain ⟨leaf, rfl, -, reads⟩ := leaves tree inChecks
      exact reads.kind_eq isStandard treeRun field inPart

end Flat
end Check

/-! ## The tree of a standard compiler -/

namespace Compiler

variable
  {compiler : Compiler}
  {policy : Policy}
  {fields : PolicyFields}
  {added : List Check}
  {contribution : Contribution}
  {scope : Option Query}

/-- The leaves of the standard checks keep distinct names when a permission check
is added. -/
theorem Gathers.names_nodup
    (gathers : compiler.Gathers policy fields added contribution scope)
    (standardChecks : compiler.checks = Check.standard) :
    ((compiler.tree added).leaves.map LeafCheck.name).Nodup := by
  rw [leaves_tree, standardChecks, List.map_append]
  rcases permissionChecks_eq_ok gathers.permitted with rfl | ⟨store, rfl⟩
  · rw [Check.leavesOfAll, List.map_nil, List.append_nil]
    exact (List.nodup_append.1 Check.names_standard_nodup).1
  · exact Check.names_standard_nodup

theorem Gathers.flat_tree
    (gathers : compiler.Gathers policy fields added contribution scope)
    (standardChecks : compiler.checks = Check.standard) :
    (compiler.tree added).Flat := by
  refine .all ?_
  rw [standardChecks, List.forall_mem_append]
  refine ⟨Check.flat_standard, ?_⟩
  rcases permissionChecks_eq_ok gathers.permitted with rfl | ⟨store, rfl⟩
  · simp
  · simp [Check.Flat.leaf]

theorem Gathers.isKnown_of_standard
    (gathers : compiler.Gathers policy fields added contribution scope)
    (standardChecks : compiler.checks = Check.standard)
    {leaf : LeafCheck}
    (member : leaf ∈ (compiler.tree added).leaves) :
    leaf.IsKnown := by
  rw [leaves_tree, standardChecks, List.mem_append] at member
  rcases member with inStandard | inAdded
  · exact .inl inStandard
  · exact .inr (exists_store_of_mem_permissionChecks gathers.permitted inAdded)

end Compiler
end WorkloadPolicy
