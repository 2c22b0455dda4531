import WorkloadPolicy.Check.Basic
import WorkloadPolicy.Policy.Document

/-!
# Scopes as predicates

A scope entry is the conjunction of what it sets: a cluster, a namespace and a
label.  Their texts are taken literally, labels whatever the case of their
letters.  A list of entries is their disjunction; entries that set nothing are
left out.
-/

namespace WorkloadPolicy

/-- The name of scopes in error messages. -/
def scopeName : String := "scope"

namespace Scope

/-- The leaf that an exact text demands of a field, if there is one. -/
def exactQuery?
    (registry : FieldRegistry)
    (label : FieldLabel)
    (text : Option String) : Except CheckError (Option Query) :=
  match nonEmpty? text with
  | none => .ok none
  | some expected => do
      let metadata ← requireField scopeName registry label
      .ok (some (.leaf (.ofField label metadata (.exact expected))))

/-- The pattern for a literal value, if there is one. -/
def literalPattern? : Option String → Except CheckError (Option Pattern)
  | none => .ok none
  | some text => (compileWhole scopeName (Regex.escape text)).map some

/-- The leaf that a label demands, if there is one. -/
def labelQuery?
    (registry : FieldRegistry)
    (label : Option KeyValuePolicy) : Except CheckError (Option Query) :=
  match label with
  | none => .ok none
  | some policy =>
      match nonEmpty? policy.key, nonEmpty? policy.value with
      | none, none => .ok none
      | none, some _ => .error (.valueWithoutKey scopeName)
      | some key, value => do
          let metadata ← requireField scopeName registry .deploymentLabels
          let keyPattern ← compileWhole scopeName (Regex.escape key)
          let valuePattern ← literalPattern? value
          .ok
            (some
              (.leaf
                (.ofField .deploymentLabels metadata
                  (.mapEntry keyPattern valuePattern false))))

/-- The predicate of a scope entry, if it sets something. -/
def query? (registry : FieldRegistry) (scope : Scope) : Except CheckError (Option Query) := do
  let cluster ← exactQuery? registry .clusterId scope.cluster
  let namespaceName ← exactQuery? registry .namespaceName scope.namespaceName
  let label ← labelQuery? registry scope.label
  .ok (Query.all? (cluster.toList ++ namespaceName.toList ++ label.toList))

/-- The predicate of a list of scope entries, if one of them sets something. -/
def listQuery?
    (registry : FieldRegistry)
    (scopes : List Scope) : Except CheckError (Option Query) := do
  let queries ← scopes.mapM (query? registry)
  .ok (Query.any? (queries.filterMap id))

end Scope
end WorkloadPolicy
