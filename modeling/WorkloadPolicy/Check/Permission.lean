import WorkloadPolicy.Access.ClusterPermissions
import WorkloadPolicy.Check.Basic
import WorkloadPolicy.Policy.Document

/-!
# The check of permission levels

The permission check takes a snapshot of the clusters, roles, bindings and
service accounts of a store, works out the level of every account, and demands
that a deployment run under one of those above the threshold.  When there is
none above it, the predicate never matches.
-/

namespace WorkloadPolicy

/-- The fields that name a service account. -/
structure AccountFields where
  cluster : FieldMetadata
  namespaceName : FieldMetadata
  account : FieldMetadata

/-- The name of the permission check. -/
def permissionCheckName : String := "rbac permission level"

namespace AccountFields

/-- The fields as they are registered. -/
def ofRegistry (registry : FieldRegistry) : Except CheckError AccountFields := do
  let cluster ← requireField permissionCheckName registry .clusterId
  let namespaceName ← requireField permissionCheckName registry .namespaceName
  let account ← requireField permissionCheckName registry .serviceAccount
  .ok ⟨cluster, namespaceName, account⟩

/-- The predicate that a deployment runs under a service account. -/
def accountQuery
    (fields : AccountFields)
    (clusterId : String)
    (account : Access.ServiceAccount) : Query :=
  .conjunction
    [.leaf (.ofField .clusterId fields.cluster (.exact clusterId)),
      .leaf (.ofField .namespaceName fields.namespaceName (.exact account.namespaceName)),
      .leaf (.ofField .serviceAccount fields.account (.exact account.name))]

/-- The predicate that no deployment satisfies. -/
def noAccountQuery (fields : AccountFields) : Query :=
  .leaf (.ofField .serviceAccount fields.account .never)

end AccountFields

namespace Access

/-- What a store lists about one cluster. -/
structure ClusterListing where
  roles : List Role
  bindings : List Binding
  accounts : List ServiceAccount

namespace Store

/-- List what there is about a cluster. -/
def clusterListing
    (store : Store)
    (clusterId : String) : Except StoreError ClusterListing := do
  let roles ← store.roles clusterId
  let bindings ← store.bindings clusterId
  let accounts ← store.serviceAccounts clusterId
  .ok ⟨roles, bindings, accounts⟩

/-- List what there is about all clusters, under their identifiers. -/
def snapshot (store : Store) : Except StoreError (List (String × ClusterListing)) := do
  let clusters ← store.clusters
  clusters.mapM fun cluster => do
    let listing ← store.clusterListing cluster.id
    .ok (cluster.id, listing)

end Store

/-- The service accounts of a cluster above a level. -/
def ClusterListing.accountsAbove
    (listing : ClusterListing)
    (threshold : PermissionLevel) : List ServiceAccount :=
  let permissions := ClusterPermissions.ofBindings listing.roles listing.bindings
  listing.accounts.filter fun account => threshold < permissions.levelFor account

end Access

/-- The predicate that a deployment runs under an account above a level. -/
def accountsAboveQuery
    (fields : AccountFields)
    (threshold : Access.PermissionLevel)
    (snapshot : List (String × Access.ClusterListing)) : Query :=
  let perCluster := snapshot.filterMap fun cluster =>
    Query.any? ((cluster.2.accountsAbove threshold).map (fields.accountQuery cluster.1))
  (Query.any? perCluster).getD fields.noAccountQuery

/-- The message that a service account is above a level. -/
def permissionMessage (threshold : Access.PermissionLevel) : String :=
  "Service account permission level is above the threshold of " ++ threshold.name

/-- What the permission check contributes to a policy. -/
def permissionContribution?
    (store : Access.Store)
    (fields : PolicyFields)
    (registry : FieldRegistry) : Except CheckError (Option Contribution) :=
  match fields.permission with
  | none => .ok none
  | some policy => do
      let accountFields ← AccountFields.ofRegistry registry
      let snapshot ← store.snapshot.mapError .store
      .ok
        (some
          ⟨accountsAboveQuery accountFields policy.level snapshot,
            .fixed (permissionMessage policy.level)⟩)

end WorkloadPolicy
