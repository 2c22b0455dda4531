import WorkloadPolicy.Access.Objects

/-!
# Stores

A store lists the clusters and, for each cluster, its roles, bindings and
service accounts.  Each listing may fail.  A store in memory never fails and
lists its objects in the order in which they were added.
-/

namespace WorkloadPolicy
namespace Access

/-- Why a listing failed. -/
inductive StoreError where
  | listFailed (kind clusterId reason : String)
  | clustersUnavailable (reason : String)
  deriving DecidableEq, Repr

namespace StoreError

/-- The text of the error. -/
def message : StoreError → String
  | listFailed kind clusterId reason =>
      "failed to list " ++ kind ++ " for cluster '" ++ clusterId ++ "': " ++ reason
  | clustersUnavailable reason => "failed to list clusters: " ++ reason

end StoreError

/-- Where the objects of access control are listed from. -/
structure Store where
  clusters : Except StoreError (List Cluster)
  roles : String → Except StoreError (List Role)
  bindings : String → Except StoreError (List Binding)
  serviceAccounts : String → Except StoreError (List ServiceAccount)

/-- Objects kept in memory. -/
structure MemoryStore where
  clusters : List Cluster := []
  roles : List Role := []
  bindings : List Binding := []
  serviceAccounts : List ServiceAccount := []
  deriving DecidableEq, Repr

namespace MemoryStore

/-- Add a cluster. -/
def addCluster (store : MemoryStore) (cluster : Cluster) : MemoryStore :=
  { store with clusters := store.clusters ++ [cluster] }

/-- Add a role. -/
def addRole (store : MemoryStore) (role : Role) : MemoryStore :=
  { store with roles := store.roles ++ [role] }

/-- Add a binding. -/
def addBinding (store : MemoryStore) (binding : Binding) : MemoryStore :=
  { store with bindings := store.bindings ++ [binding] }

/-- Add a service account. -/
def addServiceAccount (store : MemoryStore) (account : ServiceAccount) : MemoryStore :=
  { store with serviceAccounts := store.serviceAccounts ++ [account] }

/-- The roles of a cluster. -/
def rolesOf (store : MemoryStore) (clusterId : String) : List Role :=
  store.roles.filter (·.clusterId == clusterId)

/-- The bindings of a cluster. -/
def bindingsOf (store : MemoryStore) (clusterId : String) : List Binding :=
  store.bindings.filter (·.clusterId == clusterId)

/-- The service accounts of a cluster. -/
def serviceAccountsOf (store : MemoryStore) (clusterId : String) : List ServiceAccount :=
  store.serviceAccounts.filter (·.clusterId == clusterId)

/-- The listings of a store in memory. -/
def listings (store : MemoryStore) : Store :=
  { clusters := .ok store.clusters
    roles := fun clusterId => .ok (store.rolesOf clusterId)
    bindings := fun clusterId => .ok (store.bindingsOf clusterId)
    serviceAccounts := fun clusterId => .ok (store.serviceAccountsOf clusterId) }

end MemoryStore
end Access
end WorkloadPolicy
