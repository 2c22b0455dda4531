import WorkloadPolicy.Proofs.Contribution

/-!
# What trees of checks contribute

A tree contributes something exactly when one of its leaves does, and its
predicate and its printer have the leaves and the messages of all of them, in
order.  What is kept by conjoining and disjoining contributions therefore needs
to be proved of leaves only.
-/

namespace WorkloadPolicy
namespace Contribution

theorem combined?_eq_some_iff
    {combine? : List Query → Option Query}
    {parts : List Contribution}
    {whole : Contribution} :
    combined? combine? parts = some whole ↔
      combine? (parts.map (·.query)) = some whole.query ∧
        Printer.concat? (parts.map (·.printer)) = some whole.printer := by
  obtain ⟨query, printer⟩ := whole
  simp [combined?, Option.bind_eq_some_iff]

theorem evaluate_of_combined?_all
    {parts : List Contribution}
    {whole : Contribution}
    (combined : combined? Query.all? parts = some whole)
    (now : Calendar.Instant)
    (values : FieldValues) :
    whole.query.evaluate now values =
      .all (parts.map fun part => part.query.evaluate now values) := by
  rw [Query.evaluate_of_all?_eq_some now values (combined?_eq_some_iff.1 combined).1,
    List.map_map]
  rfl

theorem evaluate_of_combined?_any
    {parts : List Contribution}
    {whole : Contribution}
    (combined : combined? Query.any? parts = some whole)
    (now : Calendar.Instant)
    (values : FieldValues) :
    whole.query.evaluate now values =
      .any (parts.map fun part => part.query.evaluate now values) := by
  rw [Query.evaluate_of_any?_eq_some now values (combined?_eq_some_iff.1 combined).1,
    List.map_map]
  rfl

/-- Some contributions conjoined or disjoined. -/
inductive Combined (parts : List Contribution) (whole : Contribution) : Prop
  | all (combined : combined? Query.all? parts = some whole)
  | any (combined : combined? Query.any? parts = some whole)

namespace Combined

variable {parts : List Contribution} {whole : Contribution}

theorem concat?_eq_some (combined : Combined parts whole) :
    Printer.concat? (parts.map (·.printer)) = some whole.printer := by
  cases combined with
  | all combined => exact (combined?_eq_some_iff.1 combined).2
  | any combined => exact (combined?_eq_some_iff.1 combined).2

theorem ne_nil (combined : Combined parts whole) : parts ≠ [] := by
  rintro rfl
  have none := combined.concat?_eq_some
  simp [Printer.concat?] at none

theorem groups_eq (combined : Combined parts whole) :
    whole.query.groups = parts.flatMap fun part => part.query.groups := by
  rw [← List.flatMap_map]
  cases combined with
  | all combined => exact Query.groups_of_all?_eq_some (combined?_eq_some_iff.1 combined).1
  | any combined => exact Query.groups_of_any?_eq_some (combined?_eq_some_iff.1 combined).1

theorem fields_eq (combined : Combined parts whole) :
    whole.query.fields = parts.flatMap fun part => part.query.fields := by
  rw [← List.flatMap_map (f := fun part : Contribution => part.query) (g := Query.fields)]
  apply Query.fields_eq_flatMap_of_groups
  rw [combined.groups_eq, List.flatMap_map]

theorem keys_eq (combined : Combined parts whole) :
    whole.printer.keys = parts.flatMap fun part => part.printer.keys := by
  rw [Printer.keys_of_concat?_eq_some combined.concat?_eq_some, List.flatMap_map]

theorem alerts_eq (combined : Combined parts whole) (highlights : Highlights) :
    whole.printer.alerts highlights =
      parts.flatMap fun part => part.printer.alerts highlights := by
  rw [Printer.alerts_of_concat?_eq_some combined.concat?_eq_some, List.flatMap_map]

theorem mem_groups
    (combined : Combined parts whole)
    {part : Contribution}
    (member : part ∈ parts)
    {group : List FieldQuery}
    (inPart : group ∈ part.query.groups) :
    group ∈ whole.query.groups := by
  rw [combined.groups_eq]
  exact List.mem_flatMap.2 ⟨part, member, inPart⟩

/-- What one part tells is told. -/
theorem alerts_ne_nil
    (combined : Combined parts whole)
    {part : Contribution}
    (member : part ∈ parts)
    {highlights : Highlights}
    (told : part.printer.alerts highlights ≠ []) :
    whole.printer.alerts highlights ≠ [] := by
  rw [combined.alerts_eq, Ne, List.flatMap_eq_nil_iff]
  exact fun silent => told (silent part member)

theorem populated
    (combined : Combined parts whole)
    (each : ∀ part ∈ parts, part.query.Populated) :
    whole.query.Populated := by
  have queries : ∀ query ∈ parts.map (·.query), query.Populated := by
    simpa using each
  cases combined with
  | all combined => exact .of_all?_eq_some (combined?_eq_some_iff.1 combined).1 queries
  | any combined => exact .of_any?_eq_some (combined?_eq_some_iff.1 combined).1 queries

end Combined

theorem combined?_all_eq_none_iff {parts : List Contribution} :
    combined? Query.all? parts = none ↔ parts = [] := by
  match parts with
  | [] => simp [combined?, Query.all?]
  | [_] => simp [combined?, Query.all?, Printer.concat?]
  | _ :: _ :: _ => simp [combined?, Query.all?, Printer.concat?]

theorem combined?_any_eq_none_iff {parts : List Contribution} :
    combined? Query.any? parts = none ↔ parts = [] := by
  match parts with
  | [] => simp [combined?, Query.any?]
  | [_] => simp [combined?, Query.any?, Printer.concat?]
  | _ :: _ :: _ => simp [combined?, Query.any?, Printer.concat?]

end Contribution

/-- What a leaf contributes, if it does, as a list. -/
def LeafCheck.contributed
    (fields : PolicyFields)
    (registry : FieldRegistry)
    (check : LeafCheck) : List Contribution :=
  match check.contribution? fields registry with
  | .ok outcome => outcome.toList
  | .error _ => []

theorem LeafCheck.contributed_of_contribution?
    {fields : PolicyFields}
    {registry : FieldRegistry}
    {check : LeafCheck}
    {contribution : Contribution}
    (run : check.contribution? fields registry = .ok (some contribution)) :
    check.contributed fields registry = [contribution] := by
  rw [contributed, run]
  rfl

theorem LeafCheck.mem_contributed_iff
    {fields : PolicyFields}
    {registry : FieldRegistry}
    {check : LeafCheck}
    {contribution : Contribution} :
    contribution ∈ check.contributed fields registry ↔
      check.contribution? fields registry = .ok (some contribution) := by
  unfold contributed
  cases check.contribution? fields registry with
  | error error => simp
  | ok outcome => simp

namespace Check

/-! ## Leaves of trees -/

theorem leavesOfAll_eq_flatMap (checks : List Check) :
    leavesOfAll checks = checks.flatMap leaves := by
  induction checks with
  | nil => rfl
  | cons check checks hypothesis => simp [leavesOfAll, hypothesis]

@[simp] theorem leaves_leaf (check : LeafCheck) : (leaf check).leaves = [check] := rfl

@[simp] theorem leaves_all (checks : List Check) :
    (all checks).leaves = leavesOfAll checks := rfl

@[simp] theorem leaves_any (checks : List Check) :
    (any checks).leaves = leavesOfAll checks := rfl

theorem mem_leavesOfAll_iff {checks : List Check} {check : LeafCheck} :
    check ∈ leavesOfAll checks ↔ ∃ tree ∈ checks, check ∈ tree.leaves := by
  rw [leavesOfAll_eq_flatMap, List.mem_flatMap]

/-! ## Contributions of several trees -/

section Contributions

variable {fields : PolicyFields} {registry : FieldRegistry}

theorem contribution?_all_eq_ok_iff {checks : List Check} {outcome : Option Contribution} :
    (all checks).contribution? fields registry = .ok outcome ↔
      ∃ parts, contributions fields registry checks = .ok parts ∧
        Contribution.combined? Query.all? parts = outcome := by
  rw [contribution?, Outcome.bind_eq_ok_iff]
  simp only [Except.ok.injEq]

theorem contribution?_any_eq_ok_iff {checks : List Check} {outcome : Option Contribution} :
    (any checks).contribution? fields registry = .ok outcome ↔
      ∃ parts, contributions fields registry checks = .ok parts ∧
        Contribution.combined? Query.any? parts = outcome := by
  rw [contribution?, Outcome.bind_eq_ok_iff]
  simp only [Except.ok.injEq]

theorem contributions_cons_eq_ok_iff
    {check : Check}
    {checks : List Check}
    {parts : List Contribution} :
    contributions fields registry (check :: checks) = .ok parts ↔
      ∃ first others, check.contribution? fields registry = .ok first ∧
        contributions fields registry checks = .ok others ∧ first.toList ++ others = parts := by
  simp only [contributions, Outcome.bind_eq_ok_iff, Except.ok.injEq]
  constructor
  · rintro ⟨first, firstRun, others, othersRun, equal⟩
    exact ⟨first, others, firstRun, othersRun, equal⟩
  · rintro ⟨first, others, firstRun, othersRun, equal⟩
    exact ⟨first, firstRun, others, othersRun, equal⟩

theorem contributions_append_eq_ok_iff
    {first second : List Check}
    {parts : List Contribution} :
    contributions fields registry (first ++ second) = .ok parts ↔
      ∃ left right, contributions fields registry first = .ok left ∧
        contributions fields registry second = .ok right ∧ left ++ right = parts := by
  induction first generalizing parts with
  | nil => simp [contributions]
  | cons check checks hypothesis =>
      simp only [List.cons_append, contributions_cons_eq_ok_iff, hypothesis]
      constructor
      · rintro ⟨outcome, _, run, ⟨left, right, leftRun, rightRun, rfl⟩, rfl⟩
        exact ⟨_, right, ⟨outcome, left, run, leftRun, rfl⟩, rightRun, List.append_assoc ..⟩
      · rintro ⟨_, right, ⟨outcome, left, run, leftRun, rfl⟩, rightRun, rfl⟩
        exact ⟨outcome, _, run, ⟨left, right, leftRun, rightRun, rfl⟩,
          (List.append_assoc ..).symm⟩

theorem contributions_congr
    {first second : PolicyFields}
    {firstRegistry secondRegistry : FieldRegistry}
    {checks : List Check}
    (same : ∀ check ∈ checks,
      check.contribution? first firstRegistry = check.contribution? second secondRegistry) :
    contributions first firstRegistry checks = contributions second secondRegistry checks := by
  induction checks with
  | nil => rfl
  | cons check checks hypothesis =>
      obtain ⟨head, tail⟩ := List.forall_mem_cons.1 same
      simp only [contributions, head, hypothesis tail]

/-- A tree makes no difference that its leaves do not make. -/
theorem contribution?_congr
    {first second : PolicyFields}
    {firstRegistry secondRegistry : FieldRegistry}
    {check : Check}
    (same : ∀ leaf ∈ check.leaves,
      leaf.contribution? first firstRegistry = leaf.contribution? second secondRegistry) :
    check.contribution? first firstRegistry = check.contribution? second secondRegistry := by
  have below
      {checks : List Check}
      (hypothesis : ∀ check ∈ checks,
        (∀ leaf ∈ check.leaves,
          leaf.contribution? first firstRegistry = leaf.contribution? second secondRegistry) →
        check.contribution? first firstRegistry = check.contribution? second secondRegistry)
      (same : ∀ leaf ∈ leavesOfAll checks,
        leaf.contribution? first firstRegistry = leaf.contribution? second secondRegistry) :
      contributions first firstRegistry checks = contributions second secondRegistry checks := by
    apply contributions_congr
    intro check member
    refine hypothesis check member fun leaf inLeaves => same leaf ?_
    exact mem_leavesOfAll_iff.2 ⟨check, member, inLeaves⟩
  induction check with
  | leaf check => exact same check (by simp)
  | all checks hypothesis => simp only [contribution?, below hypothesis same]
  | any checks hypothesis => simp only [contribution?, below hypothesis same]

/-- How the first of some leaves that fails does so, if one does. -/
def firstFailure?
    (fields : PolicyFields)
    (registry : FieldRegistry)
    (leaves : List LeafCheck) : Option CheckError :=
  leaves.findSome? fun leaf => Outcome.failure? (leaf.contribution? fields registry)

theorem firstFailure?_append (first second : List LeafCheck) :
    firstFailure? fields registry (first ++ second) =
      (firstFailure? fields registry first).or (firstFailure? fields registry second) :=
  List.findSome?_append

@[simp] theorem firstFailure?_singleton (leaf : LeafCheck) :
    firstFailure? fields registry [leaf] =
      Outcome.failure? (leaf.contribution? fields registry) := by
  rw [firstFailure?, List.findSome?_cons]
  cases Outcome.failure? (leaf.contribution? fields registry) <;> rfl

/-- A tree fails as the first of its leaves that fails. -/
theorem failure?_contribution? (check : Check) :
    Outcome.failure? (check.contribution? fields registry) =
      firstFailure? fields registry check.leaves := by
  have below
      {checks : List Check}
      (hypothesis : ∀ check ∈ checks,
        Outcome.failure? (check.contribution? fields registry) =
          firstFailure? fields registry check.leaves) :
      Outcome.failure? (contributions fields registry checks) =
        firstFailure? fields registry (leavesOfAll checks) := by
    induction checks with
    | nil => rfl
    | cons check checks again =>
        obtain ⟨head, tail⟩ := List.forall_mem_cons.1 hypothesis
        rw [leavesOfAll, firstFailure?_append, ← head, ← again tail, contributions]
        apply Outcome.failure?_bind
        intro first _
        cases contributions fields registry checks <;> rfl
  induction check with
  | leaf check =>
      rw [leaves_leaf, firstFailure?_singleton, contribution?]
  | all checks hypothesis =>
      rw [leaves_all, ← below hypothesis, contribution?]
      cases contributions fields registry checks <;> rfl
  | any checks hypothesis =>
      rw [leaves_any, ← below hypothesis, contribution?]
      cases contributions fields registry checks <;> rfl

/-- When a tree does not fail, neither does any of its leaves. -/
theorem exists_outcome_of_mem_leaves
    {check : Check}
    {outcome : Option Contribution}
    (run : check.contribution? fields registry = .ok outcome)
    {leaf : LeafCheck}
    (member : leaf ∈ check.leaves) :
    ∃ outcome, leaf.contribution? fields registry = .ok outcome := by
  have none : firstFailure? fields registry check.leaves = none := by
    rw [← failure?_contribution?, run, Outcome.failure?_ok]
  exact Outcome.failure?_eq_none_iff.1 (List.findSome?_eq_none_iff.1 none leaf member)

/-- Every part of what several trees contribute is from one of them. -/
theorem exists_of_mem_contributions
    {checks : List Check}
    {parts : List Contribution}
    (run : contributions fields registry checks = .ok parts)
    {part : Contribution}
    (member : part ∈ parts) :
    ∃ check ∈ checks, check.contribution? fields registry = .ok (some part) := by
  induction checks generalizing parts with
  | nil =>
      cases run
      simp at member
  | cons check checks hypothesis =>
      obtain ⟨first, others, firstRun, othersRun, rfl⟩ := contributions_cons_eq_ok_iff.1 run
      rcases List.mem_append.1 member with inFirst | inOthers
      · refine ⟨check, by simp, ?_⟩
        rw [firstRun, Option.mem_toList.1 inFirst]
      · obtain ⟨other, inChecks, otherRun⟩ := hypothesis othersRun inOthers
        exact ⟨other, by simp [inChecks], otherRun⟩

/-- To prove something of what a tree contributes, prove it of what its leaves
contribute and of contributions combined of others that have it. -/
theorem contribution_induction
    {motive : Contribution → Prop}
    {check : Check}
    (leaf : ∀ leaf ∈ check.leaves, ∀ contribution,
      leaf.contribution? fields registry = .ok (some contribution) → motive contribution)
    (all : ∀ parts whole, Contribution.combined? Query.all? parts = some whole →
      (∀ part ∈ parts, motive part) → motive whole)
    (any : ∀ parts whole, Contribution.combined? Query.any? parts = some whole →
      (∀ part ∈ parts, motive part) → motive whole)
    {contribution : Contribution}
    (contributed : check.contribution? fields registry = .ok (some contribution)) :
    motive contribution := by
  induction check generalizing contribution with
  | leaf check => exact leaf check (by simp) contribution contributed
  | all checks hypothesis =>
      obtain ⟨parts, run, combined⟩ := contribution?_all_eq_ok_iff.1 contributed
      apply all parts contribution combined
      intro part member
      obtain ⟨check, inChecks, partRun⟩ := exists_of_mem_contributions run member
      refine hypothesis check inChecks (fun inner inLeaves => leaf inner ?_) partRun
      rw [leaves_all, mem_leavesOfAll_iff]
      exact ⟨check, inChecks, inLeaves⟩
  | any checks hypothesis =>
      obtain ⟨parts, run, combined⟩ := contribution?_any_eq_ok_iff.1 contributed
      apply any parts contribution combined
      intro part member
      obtain ⟨check, inChecks, partRun⟩ := exists_of_mem_contributions run member
      refine hypothesis check inChecks (fun inner inLeaves => leaf inner ?_) partRun
      rw [leaves_any, mem_leavesOfAll_iff]
      exact ⟨check, inChecks, inLeaves⟩

/-! ## Gathering from the leaves -/

/-- What the leaves of several trees contribute, in order. -/
def contributedOfAll
    (fields : PolicyFields)
    (registry : FieldRegistry)
    (checks : List Check) : List Contribution :=
  (leavesOfAll checks).flatMap (LeafCheck.contributed fields registry)

/-- What the leaves of a tree contribute, in order. -/
def contributed
    (fields : PolicyFields)
    (registry : FieldRegistry)
    (check : Check) : List Contribution :=
  check.leaves.flatMap (LeafCheck.contributed fields registry)

theorem contributedOfAll_cons (check : Check) (checks : List Check) :
    contributedOfAll fields registry (check :: checks) =
      check.contributed fields registry ++ contributedOfAll fields registry checks := by
  simp [contributedOfAll, contributed, leavesOfAll]

theorem contributed_leaf
    {check : LeafCheck}
    {contribution : Contribution}
    (run : (leaf check).contribution? fields registry = .ok (some contribution)) :
    (leaf check).contributed fields registry = [contribution] := by
  rw [contributed, leaves_leaf, List.flatMap_singleton]
  exact LeafCheck.contributed_of_contribution? run

/-- The leaves of a tree that contributes nothing contribute nothing. -/
theorem contributed_eq_nil
    {check : Check}
    (run : check.contribution? fields registry = .ok none) :
    check.contributed fields registry = [] := by
  have ofAll
      {checks : List Check}
      (run : contributions fields registry checks = .ok [])
      (hypothesis : ∀ check ∈ checks, check.contribution? fields registry = .ok none →
        check.contributed fields registry = []) :
      contributedOfAll fields registry checks = [] := by
    induction checks with
    | nil => rfl
    | cons check checks again =>
        obtain ⟨first, others, firstRun, othersRun, equal⟩ :=
          contributions_cons_eq_ok_iff.1 run
        obtain ⟨firstNone, rfl⟩ := List.append_eq_nil_iff.1 equal
        cases Option.toList_eq_nil_iff.1 firstNone
        obtain ⟨head, tail⟩ := List.forall_mem_cons.1 hypothesis
        rw [contributedOfAll_cons, head firstRun, again othersRun tail, List.nil_append]
  induction check with
  | leaf check =>
      have leafRun : check.contribution? fields registry = .ok none := run
      simp [contributed, LeafCheck.contributed, leafRun]
  | all checks hypothesis =>
      obtain ⟨parts, partsRun, combined⟩ := contribution?_all_eq_ok_iff.1 run
      cases Contribution.combined?_all_eq_none_iff.1 combined
      exact ofAll partsRun hypothesis
  | any checks hypothesis =>
      obtain ⟨parts, partsRun, combined⟩ := contribution?_any_eq_ok_iff.1 run
      cases Contribution.combined?_any_eq_none_iff.1 combined
      exact ofAll partsRun hypothesis

/-- What is collected from the contributions of several trees is collected from
their leaves, if that is so for each tree that contributes. -/
theorem collect_of_contributions
    {collect : Contribution → List α}
    {checks : List Check}
    {parts : List Contribution}
    (run : contributions fields registry checks = .ok parts)
    (each : ∀ check ∈ checks, ∀ part ∈ parts,
      check.contribution? fields registry = .ok (some part) →
      collect part = (check.contributed fields registry).flatMap collect) :
    parts.flatMap collect = (contributedOfAll fields registry checks).flatMap collect := by
  induction checks generalizing parts with
  | nil =>
      cases run
      rfl
  | cons check checks hypothesis =>
      obtain ⟨first, others, firstRun, othersRun, rfl⟩ := contributions_cons_eq_ok_iff.1 run
      have tail := hypothesis othersRun fun other inChecks part member =>
        each other (by simp [inChecks]) part (by simp [member])
      rw [contributedOfAll_cons, List.flatMap_append, List.flatMap_append, tail]
      congr 1
      cases first with
      | none => simp [contributed_eq_nil firstRun]
      | some part => simpa using each check (by simp) part (by simp) firstRun

/-- What combining contributions only puts in order is collected from the
leaves of a tree. -/
theorem collect_of_contribution?
    {collect : Contribution → List α}
    (additive : ∀ {parts whole}, Contribution.Combined parts whole →
      collect whole = parts.flatMap collect)
    {check : Check}
    {contribution : Contribution}
    (run : check.contribution? fields registry = .ok (some contribution)) :
    collect contribution = (check.contributed fields registry).flatMap collect := by
  induction check generalizing contribution with
  | leaf check => rw [contributed_leaf run, List.flatMap_singleton]
  | all checks hypothesis =>
      obtain ⟨parts, partsRun, combined⟩ := contribution?_all_eq_ok_iff.1 run
      rw [additive (.all combined)]
      exact collect_of_contributions partsRun fun check inChecks part _ =>
        hypothesis check inChecks
  | any checks hypothesis =>
      obtain ⟨parts, partsRun, combined⟩ := contribution?_any_eq_ok_iff.1 run
      rw [additive (.any combined)]
      exact collect_of_contributions partsRun fun check inChecks part _ =>
        hypothesis check inChecks

variable {check : Check} {contribution : Contribution}

/-- The printer of a tree tells what those of its leaves tell, in order. -/
theorem alerts_of_contribution?
    (run : check.contribution? fields registry = .ok (some contribution))
    (highlights : Highlights) :
    contribution.printer.alerts highlights =
      (check.contributed fields registry).flatMap fun part =>
        part.printer.alerts highlights :=
  collect_of_contribution? (fun combined => combined.alerts_eq highlights) run

/-- The printer of a tree reads highlights of checks, none of which stands under a
bare path. -/
theorem slash_mem_of_mem_keys
    (run : check.contribution? fields registry = .ok (some contribution))
    {key : String}
    (member : key ∈ contribution.printer.keys) :
    '/' ∈ key.toList := by
  rw [collect_of_contribution? (fun combined => combined.keys_eq) run] at member
  obtain ⟨part, contributed, inPart⟩ := List.mem_flatMap.1 member
  obtain ⟨leaf, -, inLeaf⟩ := List.mem_flatMap.1 contributed
  obtain ⟨plain, -, rfl⟩ :=
    LeafCheck.contribution?_eq_ok_some_iff.1 (LeafCheck.mem_contributed_iff.1 inLeaf)
  rw [Contribution.keyed, Printer.keys_keyed] at inPart
  obtain ⟨path, -, rfl⟩ := List.mem_map.1 inPart
  exact slash_mem_highlightKey leaf.name path

/-- The predicate of a tree tests what those of its leaves test, in order. -/
theorem groups_of_contribution?
    (run : check.contribution? fields registry = .ok (some contribution)) :
    contribution.query.groups =
      (check.contributed fields registry).flatMap fun part => part.query.groups :=
  collect_of_contribution? (fun combined => combined.groups_eq) run

theorem fields_of_contribution?
    (run : check.contribution? fields registry = .ok (some contribution)) :
    contribution.query.fields =
      (check.contributed fields registry).flatMap fun part => part.query.fields :=
  collect_of_contribution? (fun combined => combined.fields_eq) run

theorem mem_contributed_iff {part : Contribution} :
    part ∈ check.contributed fields registry ↔
      ∃ leaf ∈ check.leaves, leaf.contribution? fields registry = .ok (some part) := by
  simp only [contributed, List.mem_flatMap, LeafCheck.mem_contributed_iff]

/-- Every leaf of the predicate of a tree is from a leaf of the tree. -/
theorem exists_leaf_of_mem_fields
    (run : check.contribution? fields registry = .ok (some contribution))
    {field : FieldQuery}
    (member : field ∈ contribution.query.fields) :
    ∃ leaf ∈ check.leaves, ∃ part,
      leaf.contribution? fields registry = .ok (some part) ∧ field ∈ part.query.fields := by
  rw [fields_of_contribution? run, List.mem_flatMap] at member
  obtain ⟨part, inContributed, inPart⟩ := member
  obtain ⟨leaf, inLeaves, leafRun⟩ := mem_contributed_iff.1 inContributed
  exact ⟨leaf, inLeaves, part, leafRun, inPart⟩

/-- Every group of leaves of the predicate of a tree is from a leaf of the tree. -/
theorem exists_leaf_of_mem_groups
    (run : check.contribution? fields registry = .ok (some contribution))
    {group : List FieldQuery}
    (member : group ∈ contribution.query.groups) :
    ∃ leaf ∈ check.leaves, ∃ part,
      leaf.contribution? fields registry = .ok (some part) ∧ group ∈ part.query.groups := by
  rw [groups_of_contribution? run, List.mem_flatMap] at member
  obtain ⟨part, inContributed, inPart⟩ := member
  obtain ⟨leaf, inLeaves, leafRun⟩ := mem_contributed_iff.1 inContributed
  exact ⟨leaf, inLeaves, part, leafRun, inPart⟩

/-- Every tree contributes a populated predicate on registered fields. -/
theorem founded_of_contribution?
    (run : check.contribution? fields registry = .ok (some contribution)) :
    contribution.Founded registry := by
  have populated : contribution.query.Populated := by
    refine contribution_induction (motive := fun part => part.query.Populated)
      ?_ ?_ ?_ run
    · intro leaf _ part leafRun
      exact (LeafCheck.founded_of_contribution? leafRun).populated
    · intro parts whole combined each
      exact (Contribution.Combined.all combined).populated each
    · intro parts whole combined each
      exact (Contribution.Combined.any combined).populated each
  refine ⟨populated, fun field member => ?_⟩
  obtain ⟨leaf, -, part, leafRun, inPart⟩ := exists_leaf_of_mem_fields run member
  exact (LeafCheck.founded_of_contribution? leafRun).registered field inPart

theorem agesFit_of_contribution?
    (fit : ∀ leaf ∈ check.leaves, leaf.AgesFit fields)
    (run : check.contribution? fields registry = .ok (some contribution)) :
    ∀ field ∈ contribution.query.fields, field.operation.agesFit = true := by
  intro field member
  obtain ⟨leaf, inLeaves, part, leafRun, inPart⟩ := exists_leaf_of_mem_fields run member
  exact LeafCheck.agesFit_of_contribution? (fit leaf inLeaves) leafRun field inPart

end Contributions
end Check
end WorkloadPolicy
