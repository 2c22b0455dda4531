import WorkloadPolicy.Access.Grants

/-!
# The permission level of a service account

The bindings of the cluster are looked at first: they make an account an
administrator or give it elevated access across the cluster.  Otherwise the
bindings of each namespace decide, and the greatest level that any rule of any
namespace gives counts.
-/

namespace WorkloadPolicy
namespace Access

/-- The verbs that read. -/
def readVerbs : List String := ["get", "list", "watch"]

/-- The verbs that write. -/
def writeVerbs : List String :=
  ["create", "update", "patch", "delete", "deletecollection"]

namespace Rule

/-- Whether a rule lets its subject read some resource. -/
def reads (rule : Rule) : Bool :=
  rule.hasResources && readVerbs.any rule.allows

/-- Whether a rule lets its subject change some resource. -/
def writes (rule : Rule) : Bool :=
  rule.hasResources && writeVerbs.any rule.allows

/-- Whether a rule allows every verb on every resource. -/
def allowsEverything (rule : Rule) : Bool :=
  rule.allows "*" && rule.coversAllResources

/-- Whether a rule gives elevated access inside a namespace: it lets its subject
change some resource or list all of them. -/
def elevates (rule : Rule) : Bool :=
  rule.writes || (rule.allows "list" && rule.coversAllResources)

end Rule

/-- The grants of one cluster. -/
structure ClusterPermissions where
  /-- The grants of the bindings of the cluster. -/
  clusterWide : Grants
  /-- The grants of the bindings of each namespace, under its name. -/
  namespaces : List (String × Grants)
  deriving DecidableEq, Repr

namespace ClusterPermissions

/-- The names of the namespaces that a role or a binding belongs to, each
once. -/
def namespaceNames (roles : List Role) (bindings : List Binding) : List String :=
  let ofRoles :=
    (roles.filter fun role => !role.clusterRole && !role.namespaceName.isEmpty).map
      Role.namespaceName
  let ofBindings :=
    (bindings.filter fun binding => !binding.clusterRole).map Binding.namespaceName
  (ofRoles ++ ofBindings).eraseDups

/-- The permissions that the roles and bindings of a cluster give. -/
def ofBindings (roles : List Role) (bindings : List Binding) : ClusterPermissions :=
  { clusterWide := .ofBindings roles (bindings.filter (·.clusterRole))
    namespaces :=
      (namespaceNames roles bindings).map fun name =>
        (name,
          .ofBindings roles
            (bindings.filter fun binding =>
              !binding.clusterRole && binding.namespaceName == name)) }

/-- The level that rules inside namespaces give on top of a known one.  Nothing
there goes higher than elevated access, so the first rule that gives it ends the
search. -/
def searchLevel (known : PermissionLevel) : List Rule → PermissionLevel
  | [] => known
  | rule :: rules =>
      if rule.elevates then .elevatedInNamespace
      else searchLevel (if rule.reads then max known .default else known) rules

/-- The level that the rules of the namespaces give an account. -/
def namespacedLevel
    (permissions : ClusterPermissions)
    (account : ServiceAccount) : PermissionLevel :=
  searchLevel .none (permissions.namespaces.flatMap fun entry => entry.2.rulesFor account)

/-- The level of a service account. -/
def levelFor
    (permissions : ClusterPermissions)
    (account : ServiceAccount) : PermissionLevel :=
  let clusterRules := permissions.clusterWide.rulesFor account
  if clusterRules.any Rule.allowsEverything then
    .clusterAdmin
  else if clusterRules.any fun rule => rule.reads || rule.writes then
    .elevatedClusterWide
  else
    permissions.namespacedLevel account

/-- The count of namespaces. -/
def namespaceCount (permissions : ClusterPermissions) : Nat :=
  permissions.namespaces.length

end ClusterPermissions
end Access
end WorkloadPolicy
