import WorkloadPolicy.Proofs.Lookup

/-!
# Stores that fail

A snapshot lists the clusters of a store and then, cluster by cluster, its roles,
bindings and service accounts.  The first listing that fails aborts it.  A policy
takes a snapshot only if a threshold for permissions is in force, after all other
checks and before its scope is looked at, so that it fails over a store exactly when
nothing before the snapshot fails.
-/

namespace WorkloadPolicy

open Outcome

namespace Access
namespace Store

/-- How the listings about a cluster fail, in the order in which they are made. -/
def failuresOf (store : Store) (clusterId : String) : List StoreError :=
  (failure? (store.roles clusterId)).toList ++ (failure? (store.bindings clusterId)).toList ++
    (failure? (store.serviceAccounts clusterId)).toList

/-- How the listings of a store fail, in the order in which they are made. -/
def failures (store : Store) : List StoreError :=
  match store.clusters with
  | .error error => [error]
  | .ok clusters => clusters.flatMap fun cluster => store.failuresOf cluster.id

variable {store : Store}

/-- A cluster is listed unless one of its listings fails, the first of which decides. -/
theorem failure?_clusterListing (clusterId : String) :
    failure? (store.clusterListing clusterId) = (store.failuresOf clusterId).head? := by
  unfold clusterListing failuresOf
  cases store.roles clusterId with
  | error error => rfl
  | ok roles =>
      cases store.bindings clusterId with
      | error error => rfl
      | ok bindings => cases store.serviceAccounts clusterId <;> rfl

/-- A snapshot fails as the first listing that fails. -/
theorem failure?_snapshot : failure? store.snapshot = store.failures.head? := by
  unfold snapshot failures
  cases store.clusters with
  | error error => rfl
  | ok clusters =>
      show failure? (clusters.mapM _) = _
      rw [failure?_mapM, List.head?_flatMap]
      congr
      funext cluster
      rw [← failure?_clusterListing]
      cases store.clusterListing cluster.id <;> rfl

theorem snapshot_eq_error_iff {error : StoreError} :
    store.snapshot = .error error ↔ store.failures.head? = some error := by
  rw [← failure?_snapshot, failure?_eq_some_iff]

end Store
end Access

/-! ## The permission check -/

/-- The fields of service accounts are found if the registry serves them. -/
theorem exists_ofRegistry_eq_ok
    {registry : FieldRegistry}
    (serves : ∀ label ∈ accountLabels, registry.Serves label) :
    ∃ accountFields, AccountFields.ofRegistry registry = .ok accountFields := by
  simp only [accountLabels, List.forall_mem_cons] at serves
  obtain ⟨⟨cluster, clusterServed⟩, ⟨namespaceName, namespaceServed⟩,
    ⟨account, accountServed⟩, -⟩ := serves
  refine ⟨⟨cluster, namespaceName, account⟩, ?_⟩
  simp only [AccountFields.ofRegistry, bind_eq_ok_iff]
  exact ⟨cluster, requireField_eq_ok_iff.2 clusterServed, namespaceName,
    requireField_eq_ok_iff.2 namespaceServed, account, requireField_eq_ok_iff.2 accountServed, rfl⟩

/-- The permission check fails over its store if it finds its fields and a listing
fails. -/
theorem permissionContribution?_eq_error_store_iff
    {store : Access.Store}
    {fields : PolicyFields}
    {registry : FieldRegistry}
    (set : fields.permission ≠ none)
    {error : Access.StoreError} :
    permissionContribution? store fields registry = .error (.store error) ↔
      (∀ label ∈ accountLabels, registry.Serves label) ∧ store.failures.head? = some error := by
  obtain ⟨policy, present⟩ := Option.ne_none_iff_exists'.1 set
  rw [← Access.Store.snapshot_eq_error_iff]
  simp only [permissionContribution?, present]
  constructor
  · intro failed
    rcases bind_eq_error_iff.1 failed with unserved | ⟨accountFields, looked, rest⟩
    · cases (failsWith_ofRegistry registry).of_eq_error _ unserved
    · refine ⟨looksUp_ofRegistry.serves looked, ?_⟩
      rcases bind_eq_error_iff.1 rest with listing | ⟨snapshot, -, contributed⟩
      · cases taken : store.snapshot <;> simp_all [Except.mapError]
      · simp at contributed
  · rintro ⟨serves, failed⟩
    obtain ⟨accountFields, looked⟩ := exists_ofRegistry_eq_ok serves
    rw [looked, failed]
    rfl

/-- The permission check succeeds only if no listing fails. -/
theorem failures_eq_nil_of_permissionContribution?
    {store : Access.Store}
    {fields : PolicyFields}
    {registry : FieldRegistry}
    (set : fields.permission ≠ none)
    {outcome : Option Contribution}
    (run : permissionContribution? store fields registry = .ok outcome) :
    store.failures = [] := by
  obtain ⟨policy, present⟩ := Option.ne_none_iff_exists'.1 set
  simp only [permissionContribution?, present] at run
  obtain ⟨accountFields, -, rest⟩ := bind_eq_ok_iff.1 run
  obtain ⟨snapshot, taken, -⟩ := bind_eq_ok_iff.1 rest
  rw [← List.head?_eq_none_iff, ← Access.Store.failure?_snapshot,
    mapError_eq_ok_iff.1 taken, failure?_ok]

/-! ## Compiling -/

namespace Check

variable {fields : PolicyFields} {registry : FieldRegistry}

/-- No leaf of some trees fails exactly when none of the trees does. -/
theorem firstFailure?_leavesOfAll_eq_none_iff {checks : List Check} :
    firstFailure? fields registry (leavesOfAll checks) = none ↔
      ∀ check ∈ checks, ∃ outcome, check.contribution? fields registry = .ok outcome := by
  induction checks with
  | nil => simp [firstFailure?, leavesOfAll]
  | cons check checks hypothesis =>
      rw [leavesOfAll, firstFailure?_append, Option.or_eq_none_iff, hypothesis,
        List.forall_mem_cons, ← failure?_contribution?, failure?_eq_none_iff]

end Check

namespace Compiler

variable {compiler : Compiler} {policy : Policy}

/-- Without a threshold in force a policy compiles to the same with any store. -/
theorem compile_of_not_enforces
    (free : ∀ fields, policy.fields = some fields → compiler.enforces fields = false)
    (store : Option Access.Store) :
    ({ compiler with store := store } : Compiler).compile policy = compiler.compile policy := by
  refine compile_congr rfl fun fields constrained => ?_
  have inactive := free fields (fields_of_constraints constrained)
  have same :
      ({ compiler with store := store } : Compiler).permissionChecks policy.name fields =
        compiler.permissionChecks policy.name fields := by
    rw [permissionChecks_eq, permissionChecks_eq]
    show (if compiler.enforces fields then _ else _) = if compiler.enforces fields then _ else _
    rw [inactive]
    rfl
  unfold contribution
  rw [same]

theorem permission_ne_none_of_enforces
    {fields : PolicyFields}
    (enforced : compiler.enforces fields = true) :
    fields.permission ≠ none :=
  Option.isSome_iff_ne_none.1 (Bool.and_eq_true_iff.1 enforced).1

section Attached

variable
  {store : Access.Store}
  {fields : PolicyFields}
  (enforced : compiler.enforces fields = true)
  (attached : compiler.store = some store)

include enforced attached

/-- With a threshold in force the permission check comes last. -/
theorem firstFailure?_tree
    {policyName : String}
    {added : List Check}
    (permitted : compiler.permissionChecks policyName fields = .ok added) :
    Check.firstFailure? fields compiler.registry (compiler.tree added).leaves =
      (Check.firstFailure? fields compiler.registry (Check.leavesOfAll compiler.checks)).or
        (failure? (permissionContribution? store fields compiler.registry)) := by
  rw [permissionChecks_eq, if_pos enforced, attached] at permitted
  cases permitted
  have last :
      Check.firstFailure? fields compiler.registry [.permission store] =
        failure? (permissionContribution? store fields compiler.registry) := by
    rw [Check.firstFailure?_singleton]
    exact failure?_map _ _
  rw [leaves_tree, Check.firstFailure?_append, ← last]
  rfl

/-- The checks of a policy fail over a store if the standard checks succeed, the
fields of service accounts are served and a listing fails. -/
theorem contribution_eq_error_store_iff
    (standard : compiler.checks = Check.standard)
    {policyName : String}
    {error : Access.StoreError} :
    compiler.contribution policyName fields = .error (.check (.store error)) ↔
      (∀ check ∈ Check.standard, ∃ outcome,
          check.contribution? fields compiler.registry = .ok outcome) ∧
        (∀ label ∈ accountLabels, compiler.registry.Serves label) ∧
        store.failures.head? = some error := by
  rw [contribution_eq_error_check_iff,
    ← permissionContribution?_eq_error_store_iff (permission_ne_none_of_enforces enforced),
    ← Check.firstFailure?_leavesOfAll_eq_none_iff, ← failure?_eq_some_iff]
  constructor
  · rintro ⟨added, permitted, failed⟩
    rw [firstFailure?_tree enforced attached permitted, standard] at failed
    cases inStandard : Check.firstFailure? fields compiler.registry
        (Check.leavesOfAll Check.standard) with
    | none =>
        rw [inStandard, Option.none_or] at failed
        exact ⟨rfl, failed⟩
    | some cause =>
        rw [inStandard, Option.some_or, Option.some.injEq] at failed
        obtain ⟨leaf, member, inLeaf⟩ := List.exists_of_findSome?_eq_some inStandard
        have isOver :=
          (LeafCheck.failsWith_standard member fields compiler.registry).of_eq_error cause
            (failure?_eq_some_iff.1 inLeaf)
        exact absurd failed (isOver.ne_store error)
  · rintro ⟨succeed, failed⟩
    have permitted :
        compiler.permissionChecks policyName fields = .ok [.leaf (.permission store)] := by
      rw [permissionChecks_eq, if_pos enforced, attached]
    refine ⟨_, permitted, ?_⟩
    rw [firstFailure?_tree enforced attached permitted, standard, succeed, Option.none_or]
    exact failed

/-- A policy that compiles with a threshold in force finds every listing of its
store. -/
theorem failures_eq_nil_of_compile
    (set : policy.fields = some fields)
    {matcher : Matcher}
    (compiled : compiler.compile policy = .ok matcher) :
    store.failures = [] := by
  obtain ⟨found, added, contribution, scope, queries, gathers, -, -⟩ :=
    exists_gathers_of_compile_eq_ok compiled
  cases set.symm.trans (fields_of_constraints gathers.constrained)
  have succeeds :
      Check.firstFailure? fields compiler.registry (compiler.tree added).leaves = none := by
    rw [← Check.failure?_contribution?, gathers.contributed, failure?_ok]
  rw [firstFailure?_tree enforced attached gathers.permitted, Option.or_eq_none_iff,
    failure?_eq_none_iff] at succeeds
  obtain ⟨-, outcome, run⟩ := succeeds
  exact failures_eq_nil_of_permissionContribution? (permission_ne_none_of_enforces enforced) run

end Attached

/-- A policy fails over a store if its checks do, whatever its scope. -/
theorem compile_eq_error_store_iff {error : Access.StoreError} :
    compiler.compile policy = .error (.check (.store error)) ↔
      ∃ fields, policy.constraints = .ok fields ∧
        compiler.contribution policy.name fields = .error (.check (.store error)) := by
  rw [compile_eq_error_check_iff]
  refine exists_congr fun fields => and_congr_right fun _ => or_iff_left ?_
  rintro ⟨contribution, -, inScope⟩
  cases (Scope.failsWith_listQuery? policy.scope).of_eq_error _ inScope

/-- Stores matter only while a threshold for permissions is in force.  Then a policy
fails over its store exactly if the first listing that fails is reached: its
constraints may be compiled, the standard checks succeed and the fields of service
accounts are served.  Its scope makes no difference, and no matcher comes of a store
with a listing that fails. -/
theorem compile_takes_snapshot
    (standard : compiler.checks = Check.standard) :
    (policy.fields.bind (·.permission) = none ∨ compiler.options.rbacEnabled = false →
        ∀ store, ({ compiler with store := store } : Compiler).compile policy =
          compiler.compile policy) ∧
      ∀ fields store, policy.fields = some fields → fields.permission ≠ none →
        compiler.options.rbacEnabled = true → compiler.store = some store →
        (∀ error, compiler.compile policy = .error (.check (.store error)) ↔
            policy.constraints = .ok fields ∧
              (∀ check ∈ Check.standard, ∃ outcome,
                check.contribution? fields compiler.registry = .ok outcome) ∧
              (∀ label ∈ accountLabels, compiler.registry.Serves label) ∧
              store.failures.head? = some error) ∧
          (∀ error scope,
            compiler.compile { policy with scope := scope } = .error (.check (.store error)) ↔
              compiler.compile policy = .error (.check (.store error))) ∧
          (store.failures ≠ [] → ∀ matcher, compiler.compile policy ≠ .ok matcher) := by
  constructor
  · intro free
    apply compile_of_not_enforces
    intro fields set
    rw [set, Option.bind_some] at free
    rcases free with unset | disabled
    · rw [enforces, unset]
      rfl
    · rw [enforces, disabled, Bool.and_false]
  · intro fields store set present enabled attached
    have enforced : compiler.enforces fields = true := by
      rw [enforces, enabled, Option.isSome_iff_ne_none.2 present]
      rfl
    refine ⟨fun error => ?_, fun error scope => ?_, fun failing matcher compiled => ?_⟩
    · rw [← contribution_eq_error_store_iff enforced attached standard, compile_eq_error_store_iff]
      constructor
      · rintro ⟨found, constrained, failed⟩
        cases set.symm.trans (fields_of_constraints constrained)
        exact ⟨constrained, failed⟩
      · exact fun both => ⟨fields, both⟩
    · rw [compile_eq_error_store_iff, compile_eq_error_store_iff]
      rfl
    · exact failing (failures_eq_nil_of_compile enforced attached set compiled)

/-- A store that lists one cluster, its roles and nothing else. -/
def rolesOnlyStore : Access.Store :=
  { clusters := .ok [{ id := "east", name := "east" }]
    roles := fun _ => .ok []
    bindings := fun clusterId => .error (.listFailed "bindings" clusterId "unreachable")
    serviceAccounts := fun clusterId => .error (.listFailed "accounts" clusterId "unreachable") }

/-- A policy on permissions fails over the first listing that fails, also if its scope
would be refused. -/
theorem compile_takes_snapshot_of_bindings :
    ({ registry := .standard, store := some rolesOnlyStore } : Compiler).compile
        { name := "permissions"
          fields := some { permission := some { level := .default } }
          scope := [{ label := some { value := some "db" } }] } =
      .error (.check (.store (.listFailed "bindings" "east" "unreachable"))) := by
  have outcome :=
    (@compile_takes_snapshot { registry := .standard, store := some rolesOnlyStore }
      { name := "permissions"
        fields := some { permission := some { level := .default } }
        scope := [{ label := some { value := some "db" } }] }
      rfl).2 { permission := some { level := .default } } rolesOnlyStore rfl (by simp) rfl rfl
  refine (outcome.1 _).2 ⟨rfl, ?_, ?_, rfl⟩
  · exact Check.firstFailure?_leavesOfAll_eq_none_iff.1 rfl
  · intro label _
    exact ⟨label.metadata, rfl, rfl⟩

end Compiler
end WorkloadPolicy
