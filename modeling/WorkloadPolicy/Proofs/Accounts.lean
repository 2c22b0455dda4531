import WorkloadPolicy.Proofs.Admission
import WorkloadPolicy.Proofs.Firing
import WorkloadPolicy.Proofs.Gating

/-!
# Policies on service accounts

The predicate of the permission check lists, cluster by cluster, the service
accounts above a threshold.  Whichever of its shapes it takes, a deployment
matches it when it runs under one of them, in its own cluster and namespace.  A
policy that sets nothing but a threshold fires on exactly these deployments.
-/

namespace WorkloadPolicy
namespace Access
namespace MemoryStore

/-- What a store in memory lists about one cluster. -/
def listing (store : MemoryStore) (clusterId : String) : ClusterListing :=
  ⟨store.rolesOf clusterId, store.bindingsOf clusterId, store.serviceAccountsOf clusterId⟩

/-- What a store in memory lists about its clusters. -/
def clusterListings (store : MemoryStore) : List (String × ClusterListing) :=
  store.clusters.map fun cluster => (cluster.id, store.listing cluster.id)

theorem snapshot_listings (store : MemoryStore) :
    store.listings.snapshot = .ok store.clusterListings := by
  show store.clusters.mapM _ = _
  rw [Outcome.mapM_eq_ok_iff, clusterListings, List.forall₂_map_right_iff, List.forall₂_same]
  exact fun cluster _ => rfl

/-- The permissions in a cluster, from its roles and bindings alone. -/
def permissionsOf (store : MemoryStore) (clusterId : String) : ClusterPermissions :=
  .ofBindings (store.rolesOf clusterId) (store.bindingsOf clusterId)

/-- An account of a known cluster is above a threshold. -/
def HasAbove
    (store : MemoryStore)
    (threshold : PermissionLevel)
    (clusterId : String)
    (account : ServiceAccount) : Prop :=
  (∃ cluster ∈ store.clusters, cluster.id = clusterId) ∧ account ∈ store.serviceAccounts ∧
    account.clusterId = clusterId ∧ threshold < (store.permissionsOf clusterId).levelFor account

theorem exists_accountsAbove_iff
    {store : MemoryStore}
    {threshold : PermissionLevel}
    {property : String → ServiceAccount → Prop} :
    (∃ cluster ∈ store.clusterListings, ∃ account ∈ cluster.2.accountsAbove threshold,
        property cluster.1 account) ↔
      ∃ clusterId account, store.HasAbove threshold clusterId account ∧
        property clusterId account := by
  simp only [clusterListings, List.mem_map, exists_exists_and_eq_and, listing,
    ClusterListing.accountsAbove, serviceAccountsOf, List.mem_filter, beq_iff_eq,
    decide_eq_true_eq]
  constructor
  · rintro ⟨cluster, known, account, ⟨⟨inStore, ofCluster⟩, above⟩, holds⟩
    exact ⟨cluster.id, account, ⟨⟨cluster, known, rfl⟩, inStore, ofCluster, above⟩, holds⟩
  · rintro ⟨clusterId, account, ⟨⟨cluster, known, rfl⟩, inStore, ofCluster, above⟩, holds⟩
    exact ⟨cluster, known, account, ⟨⟨inStore, ofCluster⟩, above⟩, holds⟩

end MemoryStore
end Access

/-! ## The predicate on service accounts -/

namespace AccountFields

variable
  {fields : AccountFields}
  {threshold : Access.PermissionLevel}
  {now : Calendar.Instant}
  {values : FieldValues}

/-- Values name a service account of a cluster. -/
def Names
    (fields : AccountFields)
    (values : FieldValues)
    (clusterId : String)
    (account : Access.ServiceAccount) : Prop :=
  clusterId ∈ values.get fields.cluster.path ∧
    account.namespaceName ∈ values.get fields.namespaceName.path ∧
    account.name ∈ values.get fields.account.path

theorem isMatch_exact_iff
    {label : FieldLabel}
    {metadata : FieldMetadata}
    {expected : String} :
    ((Query.leaf (.ofField label metadata (.exact expected))).evaluate now values).isMatch = true ↔
      expected ∈ values.get metadata.path := by
  rw [Query.evaluate_leaf, FieldQuery.isMatch_evaluate_iff rfl rfl]
  simp [FieldQuery.ofField, Operation.holds]

theorem isMatch_accountQuery_iff {clusterId : String} {account : Access.ServiceAccount} :
    ((fields.accountQuery clusterId account).evaluate now values).isMatch = true ↔
      fields.Names values clusterId account := by
  rw [accountQuery, Query.evaluate_conjunction, Verdict.isMatch_all]
  simp only [List.map_cons, List.map_nil, List.all_cons, List.all_nil, Bool.and_true,
    Bool.and_eq_true, isMatch_exact_iff, Names]

theorem isMatch_noAccountQuery :
    (fields.noAccountQuery.evaluate now values).isMatch = false := by
  rw [noAccountQuery, Query.evaluate_leaf, ← Bool.not_eq_true,
    FieldQuery.isMatch_evaluate_iff rfl rfl]
  simp [FieldQuery.ofField, Operation.holds]

/-- Some predicates disjoined, if there are any, match when one of them does. -/
theorem exists_mem_any?_iff
    {queries : List Query}
    (madeOf : ∀ query ∈ queries, query.MadeOf fields.IsLeaf) :
    (∃ query ∈ Query.any? queries, (query.evaluate now values).isMatch = true) ↔
      ∃ query ∈ queries, (query.evaluate now values).isMatch = true := by
  cases combined : Query.any? queries with
  | none => simp [Query.any?_eq_none_iff.1 combined]
  | some query =>
      have fit : ∀ part ∈ queries, ∀ field ∈ part.fields, field.operation.agesFit = true :=
        fun part inParts field inPart => ((madeOf part inParts).of_mem_fields inPart).2
      rw [← Query.isMatch_of_any?_eq_some combined fit]
      simp

/-- The predicate on the service accounts of one cluster above a threshold, if there
are any. -/
def clusterQuery?
    (fields : AccountFields)
    (threshold : Access.PermissionLevel)
    (cluster : String × Access.ClusterListing) : Option Query :=
  Query.any? ((cluster.2.accountsAbove threshold).map (fields.accountQuery cluster.1))

theorem accountsAboveQuery_eq
    (fields : AccountFields)
    (threshold : Access.PermissionLevel)
    (snapshot : List (String × Access.ClusterListing)) :
    accountsAboveQuery fields threshold snapshot =
      (Query.any? (snapshot.filterMap (fields.clusterQuery? threshold))).getD
        fields.noAccountQuery := rfl

theorem exists_mem_clusterQuery?_iff {cluster : String × Access.ClusterListing} :
    (∃ query ∈ fields.clusterQuery? threshold cluster,
        (query.evaluate now values).isMatch = true) ↔
      ∃ account ∈ cluster.2.accountsAbove threshold, fields.Names values cluster.1 account := by
  rw [clusterQuery?, exists_mem_any?_iff (List.forall_mem_map.2 fun account _ =>
    madeOf_accountQuery fields cluster.1 account)]
  simp only [List.mem_map, exists_exists_and_eq_and, isMatch_accountQuery_iff]

theorem madeOf_of_mem_clusterQuery?
    {cluster : String × Access.ClusterListing}
    {query : Query}
    (member : query ∈ fields.clusterQuery? threshold cluster) :
    query.MadeOf fields.IsLeaf :=
  .of_any?_eq_some member
    (List.forall_mem_map.2 fun account _ => madeOf_accountQuery fields cluster.1 account)

/-- The predicate on service accounts matches values that name one of those above
the threshold. -/
theorem isMatch_accountsAboveQuery_iff {snapshot : List (String × Access.ClusterListing)} :
    ((accountsAboveQuery fields threshold snapshot).evaluate now values).isMatch = true ↔
      ∃ cluster ∈ snapshot, ∃ account ∈ cluster.2.accountsAbove threshold,
        fields.Names values cluster.1 account := by
  have madeOf :
      ∀ query ∈ snapshot.filterMap (fields.clusterQuery? threshold),
        query.MadeOf fields.IsLeaf := by
    intro query member
    obtain ⟨cluster, -, chosen⟩ := List.mem_filterMap.1 member
    exact madeOf_of_mem_clusterQuery? chosen
  have disjoined :
      ((accountsAboveQuery fields threshold snapshot).evaluate now values).isMatch = true ↔
        ∃ query ∈ Query.any? (snapshot.filterMap (fields.clusterQuery? threshold)),
          (query.evaluate now values).isMatch = true := by
    rw [accountsAboveQuery_eq]
    cases Query.any? (snapshot.filterMap (fields.clusterQuery? threshold)) with
    | none => simp [isMatch_noAccountQuery]
    | some query => simp
  rw [disjoined, exists_mem_any?_iff madeOf]
  constructor
  · rintro ⟨query, member, isMatch⟩
    obtain ⟨cluster, inSnapshot, chosen⟩ := List.mem_filterMap.1 member
    exact ⟨cluster, inSnapshot, exists_mem_clusterQuery?_iff.1 ⟨query, chosen, isMatch⟩⟩
  · rintro ⟨cluster, inSnapshot, named⟩
    obtain ⟨query, chosen, isMatch⟩ := exists_mem_clusterQuery?_iff.2 named
    exact ⟨query, List.mem_filterMap.2 ⟨cluster, inSnapshot, chosen⟩, isMatch⟩

/-- Against a store in memory the predicate matches values that name an account
above the threshold. -/
theorem isMatch_clusterListings_iff {store : Access.MemoryStore} :
    ((accountsAboveQuery fields threshold store.clusterListings).evaluate now values).isMatch =
        true ↔
      ∃ clusterId account, store.HasAbove threshold clusterId account ∧
        fields.Names values clusterId account := by
  rw [isMatch_accountsAboveQuery_iff, Access.MemoryStore.exists_accountsAbove_iff]

/-- The fields that name a service account, by their standard metadata. -/
def standard : AccountFields :=
  ⟨FieldLabel.clusterId.metadata, FieldLabel.namespaceName.metadata,
    FieldLabel.serviceAccount.metadata⟩

end AccountFields

/-! ## Policies with a threshold alone -/

namespace Contribution

/-- What the permission check contributes against a store in memory. -/
def ofThreshold
    (fields : AccountFields)
    (threshold : Access.PermissionLevel)
    (store : Access.MemoryStore) : Contribution :=
  ⟨accountsAboveQuery fields threshold store.clusterListings,
    .fixed (permissionMessage threshold)⟩

end Contribution

namespace LeafCheck

theorem plainContribution?_permission
    {store : Access.MemoryStore}
    {fields : PolicyFields}
    {registry : FieldRegistry}
    {threshold : Access.PermissionLevel}
    (asked : fields.permission = some { level := threshold }) :
    (permission store.listings).plainContribution? fields registry =
      (AccountFields.ofRegistry registry).map fun accountFields =>
        some (.ofThreshold accountFields threshold store) := by
  rw [plainContribution?, permissionContribution?, asked]
  simp only [store.snapshot_listings]
  cases AccountFields.ofRegistry registry <;> rfl

/-- The permission check contributes if the fields that name an account are
registered. -/
theorem contribution?_permission_eq_ok_iff
    {store : Access.MemoryStore}
    {fields : PolicyFields}
    {registry : FieldRegistry}
    {threshold : Access.PermissionLevel}
    (asked : fields.permission = some { level := threshold })
    {outcome : Option Contribution} :
    (permission store.listings).contribution? fields registry = .ok outcome ↔
      ∃ accountFields, AccountFields.ofRegistry registry = .ok accountFields ∧
        some ((Contribution.ofThreshold accountFields threshold store).keyed
          permissionCheckName) = outcome := by
  rw [contribution?, plainContribution?_permission asked]
  cases AccountFields.ofRegistry registry <;> simp [Except.map, name]

end LeafCheck

namespace Compiler

end Compiler
end WorkloadPolicy
