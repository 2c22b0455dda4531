import WorkloadPolicy.Compile.Compiler
import WorkloadPolicy.Proofs.Matching
import WorkloadPolicy.Proofs.Paths
import WorkloadPolicy.Proofs.Scope
import WorkloadPolicy.Proofs.Tree

/-!
# What a policy compiles to

A policy that compiles has constraints, some check contributes to it, and the
predicate of its scope and its checks splits by kind of entity.  That predicate
is populated and tests registered fields only.  Under a standard registry the
key of a highlight determines the path, and so the kind of entity that it comes
from.
-/

namespace WorkloadPolicy

/-- A registered field lies under a path of its kind. -/
theorem FieldQuery.IsRegistered.owns
    {registry : FieldRegistry}
    {field : FieldQuery}
    (registered : field.IsRegistered registry)
    (isStandard : registry.IsStandard) :
    field.kind.Owns field.path := by
  obtain ⟨metadata, found, samePath, sameKind⟩ := registered
  rw [samePath, sameKind, isStandard _ _ found]
  exact field.label.owns_metadata

/-- The key of a scope leaf has no slash, as the keys of checks do. -/
theorem Scope.IsLeaf.slash_not_mem_key
    {registry : FieldRegistry}
    {field : FieldQuery}
    (isLeaf : IsLeaf registry field)
    (isStandard : registry.IsStandard) :
    '/' ∉ field.key.toList := by
  rw [isLeaf.key_eq]
  exact (isLeaf.registered.owns isStandard).2

/-- A scope leaf reads deployments. -/
theorem Scope.IsLeaf.kind_eq
    {registry : FieldRegistry}
    {field : FieldQuery}
    (isLeaf : IsLeaf registry field)
    (isStandard : registry.IsStandard) :
    field.kind = .deployment := by
  obtain ⟨metadata, found, -, sameKind⟩ := isLeaf.registered
  rw [sameKind, isStandard _ _ found, isLeaf.ofDeployment]

/-- The entities of a kind that a policy is run on keep to paths of that kind. -/
theorem Subjects.belongTo_of_mem_values
    {subjects : Subjects}
    {kind : EntityKind}
    {values : FieldValues}
    (member : values ∈ subjects.values kind) :
    values.BelongTo kind := by
  cases kind with
  | deployment =>
      simp only [Subjects.values, Option.mem_toList, Option.map_eq_some_iff] at member
      obtain ⟨deployment, -, rfl⟩ := member
      exact deployment.belongTo_fieldValues
  | image =>
      obtain ⟨image, -, rfl⟩ := List.mem_map.1 member
      exact image.belongTo_fieldValues
  | process =>
      simp only [Subjects.values, Option.mem_toList, Option.map_eq_some_iff] at member
      obtain ⟨process, -, rfl⟩ := member
      exact process.belongTo_fieldValues

namespace Compiler

/-- All checks of a compiler, with those that a threshold for permissions
adds. -/
def tree (compiler : Compiler) (added : List Check) : Check :=
  .all (compiler.checks ++ added)

/-- How a policy comes to its predicate and its printer: from what the checks
contribute, and from the predicate of its scope. -/
structure Gathers
    (compiler : Compiler)
    (policy : Policy)
    (fields : PolicyFields)
    (added : List Check)
    (contribution : Contribution)
    (scope : Option Query) : Prop where
  constrained : policy.constraints = .ok fields
  permitted : compiler.permissionChecks policy.name fields = .ok added
  contributed :
    (compiler.tree added).contribution? fields compiler.registry = .ok (some contribution)
  limited : Scope.listQuery? compiler.registry policy.scope = .ok scope

variable {compiler : Compiler} {policy : Policy}

theorem contribution_eq_ok_iff
    {policyName : String}
    {fields : PolicyFields}
    {contribution : Contribution} :
    compiler.contribution policyName fields = .ok contribution ↔
      ∃ added, compiler.permissionChecks policyName fields = .ok added ∧
        (compiler.tree added).contribution? fields compiler.registry =
          .ok (some contribution) := by
  rw [Compiler.contribution, Outcome.bind_eq_ok_iff]
  refine exists_congr fun added => and_congr_right fun _ => ?_
  rw [Outcome.bind_eq_ok_iff]
  constructor
  · rintro ⟨outcome, run, decided⟩
    have ran := Outcome.mapError_eq_ok_iff.1 run
    cases outcome with
    | none => simp at decided
    | some found =>
        cases decided
        exact ran
  · intro run
    exact ⟨some contribution, Outcome.mapError_eq_ok_iff.2 run, rfl⟩

theorem gatedContribution_eq_ok_iff {merged : Contribution} :
    compiler.gatedContribution policy = .ok merged ↔
      ∃ fields added contribution scope,
        compiler.Gathers policy fields added contribution scope ∧
          merged = ⟨gated scope contribution.query, contribution.printer⟩ := by
  simp only [gatedContribution, Outcome.bind_eq_ok_iff, Outcome.mapError_eq_ok_iff,
    contribution_eq_ok_iff, Except.ok.injEq]
  constructor
  · rintro ⟨fields, constrained, contribution, ⟨added, permitted, contributed⟩, scope, limited,
      equal⟩
    exact ⟨fields, added, contribution, scope, ⟨constrained, permitted, contributed, limited⟩,
      equal.symm⟩
  · rintro ⟨fields, added, contribution, scope, gathers, equal⟩
    exact ⟨fields, gathers.constrained, contribution,
      ⟨added, gathers.permitted, gathers.contributed⟩, scope, gathers.limited, equal.symm⟩

/-- A policy compiles when what it gathers splits by kind of entity. -/
theorem compile_eq_ok_iff {matcher : Matcher} :
    compiler.compile policy = .ok matcher ↔
      ∃ merged queries, compiler.gatedContribution policy = .ok merged ∧
        merged.query.split? = some queries ∧
        Compiler.matcher policy.name queries merged.printer = matcher := by
  rw [compile, Outcome.bind_eq_ok_iff]
  apply exists_congr
  intro merged
  constructor
  · rintro ⟨gathered, rest⟩
    split at rest
    · simp at rest
    · rename_i queries split
      exact ⟨queries, gathered, split, Except.ok.inj rest⟩
  · rintro ⟨queries, gathered, split, rfl⟩
    exact ⟨gathered, by rw [split]⟩

/-- A policy that compiles gathers a predicate that splits. -/
theorem exists_gathers_of_compile_eq_ok
    {matcher : Matcher}
    (compiled : compiler.compile policy = .ok matcher) :
    ∃ fields added contribution scope queries,
      compiler.Gathers policy fields added contribution scope ∧
        (gated scope contribution.query).split? = some queries ∧
        matcher = Compiler.matcher policy.name queries contribution.printer := by
  obtain ⟨merged, queries, gathered, split, rfl⟩ := compile_eq_ok_iff.1 compiled
  obtain ⟨fields, added, contribution, scope, gathers, rfl⟩ :=
    gatedContribution_eq_ok_iff.1 gathered
  exact ⟨fields, added, contribution, scope, queries, gathers, split, rfl⟩

@[simp] theorem predicate_matcher
    (policyName : String)
    (queries : KindQueries)
    (printer : Printer)
    (kind : EntityKind) :
    (matcher policyName queries printer).predicate kind =
      Query.all? (queries.ofKind kind) := by
  cases kind <;> rfl

/-- A policy may be compiled if it has a name and sets something. -/
theorem constraints_eq_ok_iff {fields : PolicyFields} :
    policy.constraints = .ok fields ↔
      (Text.trim policy.name).isEmpty = false ∧ policy.fields = some fields ∧
        fields.isEmpty = false := by
  unfold Policy.constraints
  cases (Text.trim policy.name).isEmpty with
  | true => simp
  | false =>
      cases policy.fields with
      | none => simp
      | some found =>
          by_cases empty : found.isEmpty = true
          · simp only [empty, Bool.false_eq_true, ↓reduceIte, reduceCtorEq, true_and,
              Option.some.injEq, false_iff, not_and]
            rintro rfl
            simp [empty]
          · simp only [empty, Bool.false_eq_true, ↓reduceIte, Except.ok.injEq, true_and,
              Option.some.injEq]
            constructor
            · rintro rfl
              exact ⟨rfl, Bool.eq_false_iff.2 empty⟩
            · exact fun both => both.1

theorem fields_of_constraints
    {fields : PolicyFields}
    (constrained : policy.constraints = .ok fields) :
    policy.fields = some fields :=
  (constraints_eq_ok_iff.1 constrained).2.1

/-- A policy that fails before its scope is looked at fails the same way with any
scope. -/
theorem compile_of_contribution_error
    {error : CompileError}
    (failed :
      (policy.constraints >>= fun fields => compiler.contribution policy.name fields) =
        .error error) :
    compiler.compile policy = .error error := by
  unfold compile gatedContribution
  rcases Outcome.bind_eq_error_iff.1 failed with unconstrained | ⟨fields, constrained, run⟩
  · rw [unconstrained]
    rfl
  · rw [constrained, Outcome.bind_eq_error_iff]
    left
    show compiler.contribution policy.name fields >>= _ = _
    rw [run]
    rfl

/-- A policy whose scope is refused fails if it gets as far as that. -/
theorem compile_of_listQuery?_error
    {merged : Contribution}
    (run :
      (policy.constraints >>= fun fields => compiler.contribution policy.name fields) =
        .ok merged)
    {error : CheckError}
    (refused : Scope.listQuery? compiler.registry policy.scope = .error error) :
    compiler.compile policy = .error (.check error) := by
  unfold compile gatedContribution
  obtain ⟨fields, constrained, contributed⟩ := Outcome.bind_eq_ok_iff.1 run
  rw [constrained]
  show ((compiler.contribution policy.name fields >>= _) >>= _) = _
  rw [contributed, refused]
  rfl

/-- Compilers whose checks contribute the same to a policy compile it to the same. -/
theorem compile_congr
    {other : Compiler}
    (sameRegistry : compiler.registry = other.registry)
    (same : ∀ fields, policy.constraints = .ok fields →
      compiler.contribution policy.name fields = other.contribution policy.name fields) :
    compiler.compile policy = other.compile policy := by
  unfold compile gatedContribution
  rw [sameRegistry]
  cases constrained : policy.constraints with
  | error error => rfl
  | ok fields =>
      simp only [bind, Except.bind]
      rw [same fields constrained]

/-- A threshold for permissions is in force if it is set and permissions are checked. -/
def enforces (compiler : Compiler) (fields : PolicyFields) : Bool :=
  fields.permission.isSome && compiler.options.rbacEnabled

/-- A threshold in force adds the permission check, which needs a store. -/
theorem permissionChecks_eq (policyName : String) (fields : PolicyFields) :
    compiler.permissionChecks policyName fields =
      if compiler.enforces fields then
        match compiler.store with
        | some store => .ok [.leaf (.permission store)]
        | none => .error (.storesMissing policyName)
      else
        .ok [] := by
  unfold permissionChecks enforces
  cases fields.permission <;> cases compiler.options.rbacEnabled <;> rfl

section Permissions

variable
  {policyName : String}
  {fields : PolicyFields}
  {added : List Check}
  (permitted : compiler.permissionChecks policyName fields = .ok added)

include permitted

/-- A threshold for permissions adds one permission check, or nothing. -/
theorem permissionChecks_eq_ok :
    added = [] ∨ ∃ store, added = [.leaf (.permission store)] := by
  unfold permissionChecks at permitted
  split at permitted
  · exact .inl (Except.ok.inj permitted).symm
  · split at permitted
    · exact .inr ⟨_, (Except.ok.inj permitted).symm⟩
    · simp at permitted

theorem exists_store_of_mem_permissionChecks
    {leaf : LeafCheck}
    (member : leaf ∈ Check.leavesOfAll added) :
    ∃ store, leaf = .permission store := by
  rcases permissionChecks_eq_ok permitted with rfl | ⟨store, rfl⟩
  · simp [Check.leavesOfAll] at member
  · exact ⟨store, by simpa [Check.leavesOfAll] using member⟩

end Permissions

theorem leaves_tree (compiler : Compiler) (added : List Check) :
    (compiler.tree added).leaves =
      Check.leavesOfAll compiler.checks ++ Check.leavesOfAll added := by
  simp [tree, Check.leavesOfAll_eq_flatMap]

/-- The ages that a policy demands through the checks of a compiler fit
durations. -/
def AgesFit (compiler : Compiler) (policy : Policy) : Prop :=
  ∀ fields, policy.fields = some fields →
    ∀ leaf ∈ Check.leavesOfAll compiler.checks, leaf.AgesFit fields

end Compiler

/-! ## Gated predicates -/

namespace Query

theorem groups_gated (scope : Option Query) (query : Query) :
    (Compiler.gated scope query).groups = scope.toList.flatMap groups ++ query.groups := by
  cases scope <;> simp [Compiler.gated]

theorem fields_gated (scope : Option Query) (query : Query) :
    (Compiler.gated scope query).fields = scope.toList.flatMap fields ++ query.fields := by
  cases scope <;> simp [Compiler.gated]

theorem conjuncts_gated (scope : Option Query) (query : Query) :
    (Compiler.gated scope query).conjuncts =
      scope.toList.flatMap conjuncts ++ query.conjuncts := by
  cases scope <;> simp [Compiler.gated]

theorem evaluate_gated
    (now : Calendar.Instant)
    (values : FieldValues)
    (scope : Option Query)
    (query : Query) :
    evaluate now values (Compiler.gated scope query) =
      (Verdict.all (scope.toList.map (evaluate now values))).both
        (evaluate now values query) := by
  cases scope <;> simp [Compiler.gated]

end Query

namespace Compiler
namespace Gathers

variable
  {compiler : Compiler}
  {policy : Policy}
  {fields : PolicyFields}
  {added : List Check}
  {contribution : Contribution}
  {scope : Option Query}

theorem scope_madeOf
    (gathers : compiler.Gathers policy fields added contribution scope)
    {query : Query}
    (present : query ∈ scope) :
    query.MadeOf (Scope.IsLeaf compiler.registry) := by
  cases present
  exact Scope.madeOf_of_listQuery? gathers.limited

theorem founded (gathers : compiler.Gathers policy fields added contribution scope) :
    contribution.Founded compiler.registry :=
  Check.founded_of_contribution? gathers.contributed

theorem populated (gathers : compiler.Gathers policy fields added contribution scope) :
    (gated scope contribution.query).Populated := by
  cases scope with
  | none => exact gathers.founded.populated
  | some query =>
      refine .conjunction (by simp) ?_
      simpa using ⟨(gathers.scope_madeOf rfl).populated, gathers.founded.populated⟩

/-- A leaf is from the scope, unkeyed, or from a check, keyed by its name. -/
theorem mem_fields
    (gathers : compiler.Gathers policy fields added contribution scope)
    {field : FieldQuery}
    (member : field ∈ (gated scope contribution.query).fields) :
    Scope.IsLeaf compiler.registry field ∨
      field ∈ contribution.query.fields ∧ field.IsRegistered compiler.registry ∧
        ∃ leaf ∈ (compiler.tree added).leaves,
          field.key = highlightKey leaf.name field.path := by
  rw [Query.fields_gated, List.mem_append, List.mem_flatMap] at member
  rcases member with ⟨query, present, inScope⟩ | inChecks
  · exact .inl ((gathers.scope_madeOf (Option.mem_toList.1 present)).of_mem_fields inScope)
  · obtain ⟨leaf, inLeaves, part, leafRun, inPart⟩ :=
      Check.exists_leaf_of_mem_fields gathers.contributed inChecks
    exact .inr ⟨inChecks, gathers.founded.registered field inChecks, leaf, inLeaves,
      LeafCheck.key_of_contribution? leafRun inPart⟩

theorem registered
    (gathers : compiler.Gathers policy fields added contribution scope)
    {field : FieldQuery}
    (member : field ∈ (gated scope contribution.query).fields) :
    field.IsRegistered compiler.registry := by
  rcases gathers.mem_fields member with isLeaf | ⟨-, registered, -⟩
  · exact isLeaf.registered
  · exact registered

theorem agesFit
    (gathers : compiler.Gathers policy fields added contribution scope)
    (fit : compiler.AgesFit policy)
    {field : FieldQuery}
    (member : field ∈ (gated scope contribution.query).fields) :
    field.operation.agesFit = true := by
  have leavesFit : ∀ leaf ∈ (compiler.tree added).leaves, leaf.AgesFit fields := by
    rw [leaves_tree, List.forall_mem_append]
    refine ⟨fit fields (fields_of_constraints gathers.constrained), fun leaf inAdded => ?_⟩
    obtain ⟨store, rfl⟩ := exists_store_of_mem_permissionChecks gathers.permitted inAdded
    trivial
  rcases gathers.mem_fields member with isLeaf | ⟨inChecks, -⟩
  · exact isLeaf.agesFit
  · exact Check.agesFit_of_contribution? leavesFit gathers.contributed field inChecks

/-- Under a standard registry the key of a leaf determines its path. -/
theorem path_eq_of_key_eq
    (gathers : compiler.Gathers policy fields added contribution scope)
    (isStandard : compiler.registry.IsStandard)
    {field other : FieldQuery}
    (member : field ∈ (gated scope contribution.query).fields)
    (otherMember : other ∈ (gated scope contribution.query).fields)
    (same : field.key = other.key) :
    field.path = other.path := by
  rcases gathers.mem_fields member with isLeaf | ⟨-, registered, leaf, -, keyed⟩
  · rcases gathers.mem_fields otherMember with otherIsLeaf | ⟨-, -, otherLeaf, -, otherKeyed⟩
    · rw [← isLeaf.key_eq, same, otherIsLeaf.key_eq]
    · have unmarked := isLeaf.slash_not_mem_key isStandard
      rw [same, otherKeyed] at unmarked
      exact absurd (slash_mem_highlightKey _ _) unmarked
  · rcases gathers.mem_fields otherMember with
      otherIsLeaf | ⟨-, otherRegistered, otherLeaf, -, otherKeyed⟩
    · have unmarked := otherIsLeaf.slash_not_mem_key isStandard
      rw [← same, keyed] at unmarked
      exact absurd (slash_mem_highlightKey _ _) unmarked
    · rw [keyed, otherKeyed] at same
      exact path_of_highlightKey_eq (registered.owns isStandard).2
        (otherRegistered.owns isStandard).2 same

/-- Under a standard registry the key of a leaf determines the kind of entity
that it reads. -/
theorem kind_eq_of_key_eq
    (gathers : compiler.Gathers policy fields added contribution scope)
    (isStandard : compiler.registry.IsStandard)
    {field other : FieldQuery}
    (member : field ∈ (gated scope contribution.query).fields)
    (otherMember : other ∈ (gated scope contribution.query).fields)
    (same : field.key = other.key) :
    field.kind = other.kind := by
  have owns := (gathers.registered member).owns isStandard
  rw [gathers.path_eq_of_key_eq isStandard member otherMember same] at owns
  exact owns.unique ((gathers.registered otherMember).owns isStandard)

end Gathers
end Compiler

/-! ## Runs on fixed entities -/

/-- The first day of the year 2024. -/
def Check.newYear : Calendar.Instant := ⟨⟨2024, 1, 1⟩, 0, 0⟩

/-- A deployment of one privileged container. -/
def Deployment.privileged : Deployment where
  id := ""
  name := ""
  namespaceName := ""
  clusterId := ""
  containers := [{ name := "", securityContext := { privileged := true } }]

/-- An image whose scan found some vulnerabilities. -/
def Image.vulnerable (vulnerabilities : List Vulnerability) : Image where
  id := "sha256:1"
  scan := some { components := [{ name := "openssl", vulnerabilities }] }

namespace Compiler

/-- How a policy runs on some entities, if it compiles. -/
def outcome?
    (compiler : Compiler)
    (policy : Policy)
    (now : Calendar.Instant)
    (subjects : Subjects) : Option (Except MatchError Violations) :=
  (compiler.compile policy).toOption.map fun matcher => matcher.run now subjects

/-- An outcome that can be computed is that of a matcher. -/
theorem exists_run_of_outcome?_eq_some
    {compiler : Compiler}
    {policy : Policy}
    {now : Calendar.Instant}
    {subjects : Subjects}
    {outcome : Except MatchError Violations}
    (computed : compiler.outcome? policy now subjects = some outcome) :
    ∃ matcher, compiler.compile policy = .ok matcher ∧ matcher.run now subjects = outcome := by
  cases compiled : compiler.compile policy with
  | error error => simp [outcome?, compiled, Except.toOption] at computed
  | ok matcher =>
      exact ⟨matcher, rfl, by simpa [outcome?, compiled, Except.toOption] using computed⟩

end Compiler
end WorkloadPolicy
