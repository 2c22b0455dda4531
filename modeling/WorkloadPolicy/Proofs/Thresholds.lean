import WorkloadPolicy.Proofs.Accounts
import WorkloadPolicy.Proofs.Privilege

/-!
# More grants and lower thresholds

A store that keeps what another one grants, and may grant more, gives no account a
lower level.  A policy with a threshold for permissions that fires against the one
store therefore fires against the other one, with the same threshold or a lower one.
-/

namespace WorkloadPolicy
namespace Access

/-! ## More grants -/

namespace Binding

/-- A binding covers another one if it binds the same role, in the same place, to
all subjects of the other. -/
structure Covers (larger smaller : Binding) : Prop where
  clusterRole : larger.clusterRole = smaller.clusterRole
  namespaceName : larger.namespaceName = smaller.namespaceName
  roleId : larger.roleId = smaller.roleId
  subjects : smaller.subjects ⊆ larger.subjects

namespace Covers

variable {larger smaller : Binding}

theorem refl (binding : Binding) : binding.Covers binding :=
  ⟨rfl, rfl, rfl, List.Subset.refl _⟩

theorem levelOf_eq (covers : larger.Covers smaller) (rule : Rule) :
    larger.levelOf rule = smaller.levelOf rule := by
  rw [levelOf, levelOf, covers.clusterRole]

theorem denotes_eq
    (covers : larger.Covers smaller)
    (account : ServiceAccount)
    (subject : Subject) :
    subject.denotes larger account = subject.denotes smaller account := by
  unfold Subject.denotes
  rw [covers.namespaceName]

end Covers
end Binding

/-- A role at the end is found first. -/
theorem roleWithId?_concat (roles : List Role) (role : Role) (id : String) :
    roleWithId? (roles ++ [role]) id =
      if role.id = id then some role else roleWithId? roles id := by
  by_cases same : role.id = id <;> simp [roleWithId?, same]

namespace ClusterListing

/-- A listing extends another one if it lists its accounts, covers its bindings and
knows its roles, with all of their rules, under the same identifiers. -/
structure Extends (larger smaller : ClusterListing) : Prop where
  accounts : smaller.accounts ⊆ larger.accounts
  bindings : ∀ binding ∈ smaller.bindings, ∃ other ∈ larger.bindings, other.Covers binding
  roles : ∀ id role, roleWithId? smaller.roles id = some role →
    ∃ other, roleWithId? larger.roles id = some other ∧ role.rules ⊆ other.rules

variable {larger smaller : ClusterListing}

/-- A rule that reaches an account still reaches it through a binding that covers
the one it reached it through. -/
theorem Extends.reaches
    (extension : larger.Extends smaller)
    {binding other : Binding}
    (covers : other.Covers binding)
    {account : ServiceAccount}
    {rule : Rule}
    (reaches : binding.Reaches smaller.roles account rule) :
    other.Reaches larger.roles account rule := by
  obtain ⟨role, known, ⟨subject, inSubjects, denotes⟩, inRules⟩ := reaches
  obtain ⟨richer, richerKnown, subset⟩ := extension.roles binding.roleId role known
  refine ⟨richer, ?_, ⟨subject, covers.subjects inSubjects, ?_⟩, subset inRules⟩
  · rw [covers.roleId]
    exact richerKnown
  · rw [covers.denotes_eq]
    exact denotes

/-- More grants never lower a level. -/
theorem Extends.levelFor_le
    (extension : larger.Extends smaller)
    (account : ServiceAccount) :
    (ClusterPermissions.ofBindings smaller.roles smaller.bindings).levelFor account ≤
      (ClusterPermissions.ofBindings larger.roles larger.bindings).levelFor account := by
  rw [ClusterPermissions.levelFor_le_iff]
  intro level granted
  obtain ⟨binding, inSmaller, rule, reaches, rfl⟩ := mem_grantedLevels_iff.1 granted
  obtain ⟨other, inLarger, covers⟩ := extension.bindings binding inSmaller
  have stillGranted :
      binding.levelOf rule ∈ grantedLevels larger.roles larger.bindings account :=
    mem_grantedLevels_iff.2
      ⟨other, inLarger, rule, extension.reaches covers reaches, covers.levelOf_eq rule⟩
  exact ClusterPermissions.levelFor_le_iff.1 le_rfl _ stillGranted

end ClusterListing

namespace MemoryStore

/-- A store extends another one if it has its clusters and what it lists about them
extends what the other lists. -/
structure Extends (larger smaller : MemoryStore) : Prop where
  clusters : smaller.clusters ⊆ larger.clusters
  listings : ∀ cluster ∈ smaller.clusters,
    (larger.listing cluster.id).Extends (smaller.listing cluster.id)

/-- A role extends a store if it has the rules of the role that it takes the place of,
if there is one. -/
theorem extends_addRole
    {store : MemoryStore}
    {role : Role}
    (richer : ∀ known, roleWithId? (store.rolesOf role.clusterId) role.id = some known →
      known.rules ⊆ role.rules) :
    (store.addRole role).Extends store where
  clusters := List.Subset.refl _
  listings cluster _ :=
    { accounts := List.Subset.refl _
      bindings := fun binding member => ⟨binding, member, .refl binding⟩
      roles := by
        intro id known found
        simp only [listing, rolesOf, addRole, List.filter_append] at found ⊢
        by_cases ofCluster : role.clusterId = cluster.id
        · rw [List.filter_singleton, beq_iff_eq.2 ofCluster]
          simp only [cond_true, roleWithId?_concat]
          split
          · rename_i same
            subst same
            exact ⟨role, rfl, richer known (ofCluster ▸ found)⟩
          · exact ⟨known, found, List.Subset.refl _⟩
        · have elsewhere : [role].filter (·.clusterId == cluster.id) = [] := by
            simp [ofCluster]
          rw [elsewhere, List.append_nil]
          exact ⟨known, found, List.Subset.refl _⟩ }

variable
  {larger smaller : MemoryStore}
  {threshold lower : PermissionLevel}
  {clusterId : String}
  {account : ServiceAccount}

/-- An account above a threshold stays above it and above all lower ones. -/
theorem HasAbove.of_extends
    (extension : larger.Extends smaller)
    (lowered : lower ≤ threshold)
    (above : smaller.HasAbove threshold clusterId account) :
    larger.HasAbove lower clusterId account := by
  obtain ⟨⟨cluster, inSmaller, rfl⟩, inStore, ofCluster, aboveThreshold⟩ := above
  have listed := extension.listings cluster inSmaller
  have stillListed : account ∈ larger.serviceAccountsOf cluster.id :=
    listed.accounts (List.mem_filter.2 ⟨inStore, beq_iff_eq.2 ofCluster⟩)
  refine ⟨⟨cluster, extension.clusters inSmaller, rfl⟩, (List.mem_filter.1 stillListed).1,
    ofCluster, ?_⟩
  calc
    lower ≤ threshold := lowered
    _ < (smaller.permissionsOf cluster.id).levelFor account := aboveThreshold
    _ ≤ (larger.permissionsOf cluster.id).levelFor account := listed.levelFor_le account

end MemoryStore
end Access

/-! ## Lower thresholds -/

/-- Constraints with a threshold for permissions. -/
def PolicyFields.withThreshold
    (fields : PolicyFields)
    (threshold : Access.PermissionLevel) : PolicyFields :=
  { fields with permission := some { level := threshold } }

/-- A policy with a threshold for permissions. -/
def Policy.withThreshold (policy : Policy) (threshold : Access.PermissionLevel) : Policy :=
  { policy with fields := some ((policy.fields.getD {}).withThreshold threshold) }

variable
  {larger smaller : Access.MemoryStore}
  {threshold lower : Access.PermissionLevel}

theorem PolicyFields.isEmpty_withThreshold
    (fields : PolicyFields)
    (threshold : Access.PermissionLevel) :
    (fields.withThreshold threshold).isEmpty = false := by
  simp [withThreshold, isEmpty]

theorem Policy.constraints_withThreshold_eq_ok_iff {policy : Policy} {fields : PolicyFields} :
    (policy.withThreshold threshold).constraints = .ok fields ↔
      (Text.trim policy.name).isEmpty = false ∧
        (policy.fields.getD {}).withThreshold threshold = fields := by
  rw [Compiler.constraints_eq_ok_iff]
  simp only [withThreshold, Option.some.injEq]
  constructor
  · exact fun constrained => ⟨constrained.1, constrained.2.1⟩
  · rintro ⟨named, rfl⟩
    exact ⟨named, rfl, PolicyFields.isEmpty_withThreshold _ _⟩

/-! ### What is contributed -/

/-- What the permission check contributes against a store entails what it contributes
against one that extends it, with a lower threshold. -/
theorem LeafCheck.exists_entailed_permission
    {fields : PolicyFields}
    {registry : FieldRegistry}
    (isStandard : registry.IsStandard)
    (extension : larger.Extends smaller)
    (lowered : lower ≤ threshold)
    {outcome : Option Contribution}
    (run : (permission smaller.listings).contribution? (fields.withThreshold threshold) registry =
      .ok outcome) :
    ∃ strong weak, outcome = some strong ∧
      (permission larger.listings).contribution? (fields.withThreshold lower) registry =
        .ok (some weak) ∧
      strong.query.Entails weak.query := by
  obtain ⟨accountFields, looked, rfl⟩ := (contribution?_permission_eq_ok_iff rfl).1 run
  refine ⟨_, _, rfl, (contribution?_permission_eq_ok_iff rfl).2 ⟨accountFields, looked, rfl⟩, ?_⟩
  have plain (store : Access.MemoryStore) (level : Access.PermissionLevel) :
      (permission store.listings).plainContribution? (fields.withThreshold level) registry =
        .ok (some (.ofThreshold accountFields level store)) := by
    rw [plainContribution?_permission rfl, looked]
    rfl
  have reads (store : Access.MemoryStore) :
      (permission store.listings).Reads .deployment := rfl
  refine entails_of_plainContribution? isStandard (reads smaller) (reads larger)
    (plain smaller threshold) (plain larger lower) fun now values matched => ?_
  obtain ⟨clusterId, account, above, named⟩ := AccountFields.isMatch_clusterListings_iff.1 matched
  exact AccountFields.isMatch_clusterListings_iff.2
    ⟨clusterId, account, above.of_extends extension lowered, named⟩

/-- Parts that entail others one by one do so when they are conjoined. -/
theorem Contribution.exists_combined?_all_of_forall₂
    {strongs weaks : List Contribution}
    {strong : Contribution}
    (entail : List.Forall₂ (fun strong weak => strong.query.Entails weak.query) strongs weaks)
    (combined : combined? Query.all? strongs = some strong) :
    ∃ weak, combined? Query.all? weaks = some weak ∧ strong.query.Entails weak.query := by
  have each : ∀ part ∈ weaks, ∃ other ∈ strongs, other.query.Entails part.query := by
    clear combined
    induction entail with
    | nil => simp
    | cons first _ hypothesis =>
        rw [List.forall_mem_cons]
        refine ⟨⟨_, List.mem_cons_self, first⟩, fun part member => ?_⟩
        obtain ⟨other, inStrongs, entails⟩ := hypothesis part member
        exact ⟨other, List.mem_cons_of_mem _ inStrongs, entails⟩
  cases weakCombined : combined? Query.all? weaks with
  | none =>
      rw [combined?_all_eq_none_iff.1 weakCombined, List.forall₂_nil_right_iff] at entail
      rw [combined?_all_eq_none_iff.2 entail] at combined
      simp at combined
  | some weak => exact ⟨weak, rfl, entails_of_combined?_all combined weakCombined each⟩

namespace Check

/-- Apart from the permission check nothing depends on the threshold. -/
theorem contributions_withThreshold
    (fields : PolicyFields)
    (registry : FieldRegistry)
    (threshold lower : Access.PermissionLevel) :
    contributions (fields.withThreshold threshold) registry standard =
      contributions (fields.withThreshold lower) registry standard := rfl

/-- The checks that a threshold adds against a store. -/
def ofThreshold (enabled : Bool) (store : Access.MemoryStore) : List Check :=
  if enabled then [leaf (.permission store.listings)] else []

/-- What all checks contribute against a store entails, part by part, what they
contribute against one that extends it, with a lower threshold. -/
theorem exists_entailed_contributions
    {fields : PolicyFields}
    {registry : FieldRegistry}
    (isStandard : registry.IsStandard)
    (extension : larger.Extends smaller)
    (lowered : lower ≤ threshold)
    {enabled : Bool}
    {strongs : List Contribution}
    (run : contributions (fields.withThreshold threshold) registry
      (standard ++ ofThreshold enabled smaller) = .ok strongs) :
    ∃ weaks,
      contributions (fields.withThreshold lower) registry
        (standard ++ ofThreshold enabled larger) = .ok weaks ∧
      List.Forall₂ (fun strong weak => strong.query.Entails weak.query) strongs weaks := by
  obtain ⟨parts, addedParts, standardRun, addedRun, rfl⟩ := contributions_append_eq_ok_iff.1 run
  rw [contributions_withThreshold fields registry threshold lower] at standardRun
  have same : List.Forall₂ (fun strong weak => strong.query.Entails weak.query) parts parts :=
    List.forall₂_same.2 fun part _ => .refl part.query
  cases enabled with
  | false =>
      cases addedRun
      exact ⟨parts ++ [], contributions_append_eq_ok_iff.2 ⟨parts, [], standardRun, rfl, rfl⟩,
        List.rel_append same .nil⟩
  | true =>
      obtain ⟨outcome, _, leafRun, nilRun, rfl⟩ := contributions_cons_eq_ok_iff.1 addedRun
      cases nilRun
      obtain ⟨strong, weak, rfl, weakRun, entails⟩ :=
        LeafCheck.exists_entailed_permission isStandard extension lowered leafRun
      have addedWeakRun :
          contributions (fields.withThreshold lower) registry (ofThreshold true larger) =
            .ok [weak] :=
        contributions_cons_eq_ok_iff.2 ⟨some weak, [], weakRun, rfl, rfl⟩
      exact ⟨parts ++ [weak],
        contributions_append_eq_ok_iff.2 ⟨parts, [weak], standardRun, addedWeakRun, rfl⟩,
        List.rel_append same (.cons entails .nil)⟩

end Check

/-! ### Policies that fire -/

namespace Compiler

variable {compiler : Compiler} {policy : Policy}

theorem permissionChecks_withThreshold
    (compiler : Compiler)
    (store : Access.MemoryStore)
    (policyName : String)
    (fields : PolicyFields)
    (threshold : Access.PermissionLevel) :
    ({ compiler with store := some store.listings } : Compiler).permissionChecks policyName
        (fields.withThreshold threshold) =
      .ok (Check.ofThreshold compiler.options.rbacEnabled store) := by
  simp only [permissionChecks, PolicyFields.withThreshold, Option.isNone_some, Bool.false_or]
  cases compiler.options.rbacEnabled <;> rfl

/-- What a policy gathers against a store entails what it gathers against one that
extends it, with a lower threshold. -/
theorem Gathers.exists_gathers_of_extends
    {fields : PolicyFields}
    {added : List Check}
    {contribution : Contribution}
    {scope : Option Query}
    (gathers : ({ compiler with store := some smaller.listings } : Compiler).Gathers
      (policy.withThreshold threshold) fields added contribution scope)
    (isStandard : compiler.registry.IsStandard)
    (standardChecks : compiler.checks = Check.standard)
    (extension : larger.Extends smaller)
    (lowered : lower ≤ threshold) :
    ∃ others weak,
      ({ compiler with store := some larger.listings } : Compiler).Gathers
        (policy.withThreshold lower) ((policy.fields.getD {}).withThreshold lower) others weak
        scope ∧
      contribution.query.Entails weak.query := by
  obtain ⟨named, rfl⟩ := Policy.constraints_withThreshold_eq_ok_iff.1 gathers.constrained
  have permitted := gathers.permitted
  rw [permissionChecks_withThreshold, Except.ok.injEq] at permitted
  subst permitted
  obtain ⟨strongs, run, combined⟩ := gathers.exists_contributions
  rw [standardChecks] at run
  obtain ⟨weaks, weakRun, entail⟩ :=
    Check.exists_entailed_contributions isStandard extension lowered run
  obtain ⟨weak, weakCombined, entails⟩ :=
    Contribution.exists_combined?_all_of_forall₂ entail combined
  refine ⟨Check.ofThreshold compiler.options.rbacEnabled larger, weak, ?_, entails⟩
  exact
    { constrained := Policy.constraints_withThreshold_eq_ok_iff.2 ⟨named, rfl⟩
      permitted := permissionChecks_withThreshold compiler larger _ _ lower
      contributed := by
        rw [tree, standardChecks]
        exact Check.contribution?_all_eq_ok_iff.2 ⟨weaks, weakRun, weakCombined⟩
      limited := gathers.limited }

/-- More grants lower no level, and a policy with a threshold still fires with them,
also under a lower threshold. -/
theorem fires_of_more_grants
    (isStandard : compiler.registry.IsStandard)
    (standardChecks : compiler.checks = Check.standard)
    (extension : larger.Extends smaller)
    (lowered : lower ≤ threshold) :
    (∀ clusterId, (larger.listing clusterId).Extends (smaller.listing clusterId) →
        ∀ account, (smaller.permissionsOf clusterId).levelFor account ≤
          (larger.permissionsOf clusterId).levelFor account) ∧
      ∀ strict,
        ({ compiler with store := some smaller.listings } : Compiler).compile
            (policy.withThreshold threshold) = .ok strict →
        ∃ lenient,
          ({ compiler with store := some larger.listings } : Compiler).compile
              (policy.withThreshold lower) = .ok lenient ∧
          ∀ now subjects, strict.Fires now subjects → lenient.Fires now subjects := by
  refine ⟨fun clusterId listed => listed.levelFor_le, fun strict compiled => ?_⟩
  obtain ⟨fields, added, contribution, scope, queries, gathers, split, rfl⟩ :=
    exists_gathers_of_compile_eq_ok compiled
  obtain ⟨others, weak, weakGathers, entails⟩ :=
    gathers.exists_gathers_of_extends isStandard standardChecks extension lowered
  obtain ⟨weakQueries, weakSplit, weakCompiled⟩ :=
    weakGathers.exists_compile_of_uniform isStandard standardChecks (gathers.uniform_scope split)
  refine ⟨_, weakCompiled, fun now subjects fires => ?_⟩
  obtain ⟨-, rfl⟩ := Policy.constraints_withThreshold_eq_ok_iff.1 gathers.constrained
  exact gathers.fires_of_entails_of_standard weakGathers isStandard isStandard split weakSplit
    (entails.gated scope) fires standardChecks standardChecks (fun _ asked => asked)
    (fun _ asked => asked)

/-- A policy against write access that fires on a deployment still fires on it, against
any access at all, when a role that may also read replaces the one of its account. -/
theorem fires_of_more_grants_of_replaced_role :
    ∃ smaller : Access.MemoryStore,
      smaller =
        { clusters := [{ id := "east", name := "" }]
          roles :=
            [{ id := "edit", name := "", clusterId := "east"
               rules := [{ verbs := ["create"], resources := ["pods"] }] }]
          bindings :=
            [{ id := "", name := "", namespaceName := "prod", clusterId := "east"
               roleId := "edit", subjects := [{ kind := .serviceAccount, name := "robot" }] }]
          serviceAccounts :=
            [{ id := "", name := "robot", namespaceName := "prod", clusterId := "east" }] } ∧
      ∃ strict lenient,
        ({ registry := .standard, store := some smaller.listings } : Compiler).compile
            (Policy.withThreshold { name := "write access" } .default) = .ok strict ∧
        ({ registry := .standard
           store := some (smaller.addRole
            { id := "edit", name := "", clusterId := "east"
              rules :=
                [{ verbs := ["get"], resources := ["pods"] },
                  { verbs := ["create"], resources := ["pods"] }] }).listings } :
              Compiler).compile
            (Policy.withThreshold { name := "write access" } .none) = .ok lenient ∧
        ∀ now,
          strict.Fires now
              { deployment := some
                  { id := "", name := "", namespaceName := "prod", clusterId := "east"
                    serviceAccount := "robot" } } ∧
            lenient.Fires now
              { deployment := some
                  { id := "", name := "", namespaceName := "prod", clusterId := "east"
                    serviceAccount := "robot" } } := by
  obtain ⟨strict, compiled, fires⟩ :
      ∃ strict,
        ({ registry := .standard
           store := some (Access.MemoryStore.listings
            { clusters := [{ id := "east", name := "" }]
              roles :=
                [{ id := "edit", name := "", clusterId := "east"
                   rules := [{ verbs := ["create"], resources := ["pods"] }] }]
              bindings :=
                [{ id := "", name := "", namespaceName := "prod", clusterId := "east"
                   roleId := "edit", subjects := [{ kind := .serviceAccount, name := "robot" }] }]
              serviceAccounts :=
                [{ id := "", name := "robot", namespaceName := "prod", clusterId := "east" }] }) } :
              Compiler).compile
            (Policy.withThreshold { name := "write access" } .default) = .ok strict ∧
        ∀ now,
          strict.Fires now
            { deployment := some
                { id := "", name := "", namespaceName := "prod", clusterId := "east"
                  serviceAccount := "robot" } } :=
    ⟨_, rfl, fun now => ⟨_, rfl, rfl⟩⟩
  obtain ⟨lenient, lenientCompiled, stillFires⟩ :=
    (@fires_of_more_grants _ _ .default .none { registry := .standard }
      { name := "write access" } FieldRegistry.isStandard_standard rfl
      (@Access.MemoryStore.extends_addRole _
        { id := "edit", name := "", clusterId := "east"
          rules :=
            [{ verbs := ["get"], resources := ["pods"] },
              { verbs := ["create"], resources := ["pods"] }] }
        fun known found => by
          cases Option.some.inj found
          decide)
      (by decide)).2 strict compiled
  exact ⟨_, rfl, strict, lenient, compiled, lenientCompiled,
    fun now => ⟨fires now, stillFires now _ (fires now)⟩⟩

end Compiler
end WorkloadPolicy
