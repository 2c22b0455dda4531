import WorkloadPolicy.Access.Level

/-!
# Role-based access control

A role is a list of rules, and a binding grants the rules of one role to its
subjects.  A role or binding of the cluster applies in every namespace; any
other binding applies inside its own namespace, even when its role is one of
the cluster.
-/

namespace WorkloadPolicy
namespace Access

/-- A cluster known to the platform. -/
structure Cluster where
  id : String
  name : String
  deriving DecidableEq, Repr, Inhabited

/-- One rule of a role: the verbs allowed on the resources. -/
structure Rule where
  verbs : List String := []
  apiGroups : List String := []
  resources : List String := []
  nonResourceUrls : List String := []
  deriving DecidableEq, Repr, Inhabited

namespace Rule

/-- Whether the rule names the verb, by itself or through `*`. -/
def allows (rule : Rule) (verb : String) : Bool :=
  rule.verbs.any fun allowed => allowed == "*" || allowed == verb

/-- Whether the rule covers every resource. -/
def coversAllResources (rule : Rule) : Bool :=
  rule.resources.any (· == "*")

/-- Whether the rule names any resource at all. -/
def hasResources (rule : Rule) : Bool :=
  !rule.resources.isEmpty

end Rule

/-- A role of a namespace or of the cluster. -/
structure Role where
  id : String
  name : String
  /-- Empty for a role of the cluster. -/
  namespaceName : String := ""
  clusterId : String
  clusterRole : Bool := false
  rules : List Rule := []
  deriving DecidableEq, Repr, Inhabited

/-- What kind of subject a binding names. -/
inductive SubjectKind where
  | serviceAccount
  | user
  | group
  deriving DecidableEq, Repr, Inhabited

namespace SubjectKind

/-- The name of a kind in documents. -/
def name : SubjectKind → String
  | serviceAccount => "ServiceAccount"
  | user => "User"
  | group => "Group"

/-- All kinds. -/
def all : List SubjectKind := [serviceAccount, user, group]

end SubjectKind

/-- A subject of a binding. -/
structure Subject where
  kind : SubjectKind
  name : String
  /-- The namespace of a service account; empty for that of the binding. -/
  namespaceName : String := ""
  deriving DecidableEq, Repr, Inhabited

/-- A binding of a role to subjects. -/
structure Binding where
  id : String
  name : String
  /-- Empty for a binding of the cluster. -/
  namespaceName : String := ""
  clusterId : String
  clusterRole : Bool := false
  roleId : String
  subjects : List Subject := []
  deriving DecidableEq, Repr, Inhabited

/-- An account that workloads run under. -/
structure ServiceAccount where
  id : String
  name : String
  namespaceName : String
  clusterId : String
  deriving DecidableEq, Repr, Inhabited

open Readable

namespace Cluster

/-- Read a cluster. -/
def read? [Readable Node] (node : Node) : Option Cluster := do
  let record ← Record.ofNode? node
  some
    { id := ← record.required "id" text?
      name := ← record.required "name" text? }

/-- The JSON form of a cluster. -/
def toJson (cluster : Cluster) : Json :=
  .object [("id", .text cluster.id), ("name", .text cluster.name)]

end Cluster

namespace Rule

/-- Read a rule. -/
def read? [Readable Node] (node : Node) : Option Rule := do
  let record ← Record.ofNode? node
  some
    { verbs := ← record.withDefault "verbs" [] (listOf? text?)
      apiGroups := ← record.withDefault "api_groups" [] (listOf? text?)
      resources := ← record.withDefault "resources" [] (listOf? text?)
      nonResourceUrls := ← record.withDefault "non_resource_urls" [] (listOf? text?) }

/-- The JSON form of a rule. -/
def toJson (rule : Rule) : Json :=
  .object
    [("verbs", .ofTexts rule.verbs),
      ("api_groups", .ofTexts rule.apiGroups),
      ("resources", .ofTexts rule.resources),
      ("non_resource_urls", .ofTexts rule.nonResourceUrls)]

end Rule

namespace Role

/-- Read a role. -/
def read? [Readable Node] (node : Node) : Option Role := do
  let record ← Record.ofNode? node
  some
    { id := ← record.required "id" text?
      name := ← record.required "name" text?
      namespaceName := ← record.withDefault "namespace" "" text?
      clusterId := ← record.required "cluster_id" text?
      clusterRole := ← record.withDefault "cluster_role" false boolean?
      rules := ← record.withDefault "rules" [] (listOf? Rule.read?) }

/-- The JSON form of a role. -/
def toJson (role : Role) : Json :=
  .object
    [("id", .text role.id),
      ("name", .text role.name),
      ("namespace", .text role.namespaceName),
      ("cluster_id", .text role.clusterId),
      ("cluster_role", .boolean role.clusterRole),
      ("rules", .list (role.rules.map Rule.toJson))]

end Role

namespace SubjectKind

/-- Read a kind by its name. -/
def read? [Readable Node] (node : Node) : Option SubjectKind :=
  variantOf? (all.map fun kind => (kind.name, kind)) node

end SubjectKind

namespace Subject

/-- Read a subject. -/
def read? [Readable Node] (node : Node) : Option Subject := do
  let record ← Record.ofNode? node
  some
    { kind := ← record.required "kind" SubjectKind.read?
      name := ← record.required "name" text?
      namespaceName := ← record.withDefault "namespace" "" text? }

/-- The JSON form of a subject. -/
def toJson (subject : Subject) : Json :=
  .object
    [("kind", .text subject.kind.name),
      ("name", .text subject.name),
      ("namespace", .text subject.namespaceName)]

end Subject

namespace Binding

/-- Read a binding. -/
def read? [Readable Node] (node : Node) : Option Binding := do
  let record ← Record.ofNode? node
  some
    { id := ← record.required "id" text?
      name := ← record.required "name" text?
      namespaceName := ← record.withDefault "namespace" "" text?
      clusterId := ← record.required "cluster_id" text?
      clusterRole := ← record.withDefault "cluster_role" false boolean?
      roleId := ← record.required "role_id" text?
      subjects := ← record.withDefault "subjects" [] (listOf? Subject.read?) }

/-- The JSON form of a binding. -/
def toJson (binding : Binding) : Json :=
  .object
    [("id", .text binding.id),
      ("name", .text binding.name),
      ("namespace", .text binding.namespaceName),
      ("cluster_id", .text binding.clusterId),
      ("cluster_role", .boolean binding.clusterRole),
      ("role_id", .text binding.roleId),
      ("subjects", .list (binding.subjects.map Subject.toJson))]

end Binding

namespace ServiceAccount

/-- Read a service account. -/
def read? [Readable Node] (node : Node) : Option ServiceAccount := do
  let record ← Record.ofNode? node
  some
    { id := ← record.required "id" text?
      name := ← record.required "name" text?
      namespaceName := ← record.required "namespace" text?
      clusterId := ← record.required "cluster_id" text? }

/-- The JSON form of a service account. -/
def toJson (account : ServiceAccount) : Json :=
  .object
    [("id", .text account.id),
      ("name", .text account.name),
      ("namespace", .text account.namespaceName),
      ("cluster_id", .text account.clusterId)]

end ServiceAccount

end Access
end WorkloadPolicy
