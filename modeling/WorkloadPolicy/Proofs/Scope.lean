import WorkloadPolicy.Check.Scope
import WorkloadPolicy.Proofs.Contribution

/-!
# Predicates of scopes

The predicate of a scope consists of single leaves on registered fields of
deployments.  They are not keyed for any check: their highlights stand under the paths themselves.
-/

namespace WorkloadPolicy
namespace Scope

/-- A leaf that a scope puts on a registered field of deployments, under its path. -/
structure IsLeaf (registry : FieldRegistry) (field : FieldQuery) : Prop where
  registered : field.IsRegistered registry
  ofDeployment : field.label.metadata.kind = .deployment
  key_eq : field.key = field.path
  agesFit : field.operation.agesFit = true

section Leaves

variable {registry : FieldRegistry}

theorem isLeaf_ofField
    {label : FieldLabel}
    {metadata : FieldMetadata}
    {operation : Operation}
    (required : requireField scopeName registry label = .ok metadata)
    (ofDeployment : label.metadata.kind = .deployment)
    (fit : operation.agesFit = true) :
    IsLeaf registry (.ofField label metadata operation) where
  registered :=
    FieldQuery.isRegistered_ofField (lookup_of_requireField_eq_ok required) operation
  ofDeployment := ofDeployment
  key_eq := rfl
  agesFit := fit

theorem madeOf_of_exactQuery?
    {label : FieldLabel}
    {text : Option String}
    (ofDeployment : label.metadata.kind = .deployment)
    {query : Query}
    (run : exactQuery? registry label text = .ok (some query)) :
    query.MadeOf (IsLeaf registry) := by
  unfold exactQuery? at run
  split at run
  · simp at run
  · obtain ⟨metadata, required, equal⟩ := Outcome.bind_eq_ok_iff.1 run
    cases equal
    exact .ofLeaf (isLeaf_ofField required ofDeployment rfl)

theorem madeOf_of_labelQuery?
    {label : Option KeyValuePolicy}
    {query : Query}
    (run : labelQuery? registry label = .ok (some query)) :
    query.MadeOf (IsLeaf registry) := by
  unfold labelQuery? at run
  split at run
  · simp at run
  · split at run
    · simp at run
    · simp at run
    · obtain ⟨metadata, required, rest⟩ := Outcome.bind_eq_ok_iff.1 run
      obtain ⟨keyPattern, -, rest⟩ := Outcome.bind_eq_ok_iff.1 rest
      obtain ⟨valuePattern, -, equal⟩ := Outcome.bind_eq_ok_iff.1 rest
      cases equal
      exact .ofLeaf (isLeaf_ofField required rfl rfl)

/-- The predicate of an entry is the conjunction of what it sets. -/
theorem query?_eq_ok_iff {scope : Scope} {outcome : Option Query} :
    query? registry scope = .ok outcome ↔
      ∃ cluster namespaceName label,
        exactQuery? registry .clusterId scope.cluster = .ok cluster ∧
          exactQuery? registry .namespaceName scope.namespaceName = .ok namespaceName ∧
          labelQuery? registry scope.label = .ok label ∧
          Query.all? (cluster.toList ++ namespaceName.toList ++ label.toList) = outcome := by
  simp only [query?, Outcome.bind_eq_ok_iff, Except.ok.injEq]
  constructor
  · rintro ⟨cluster, clusterRun, namespaceName, namespaceRun, label, labelRun, equal⟩
    exact ⟨cluster, namespaceName, label, clusterRun, namespaceRun, labelRun, equal⟩
  · rintro ⟨cluster, namespaceName, label, clusterRun, namespaceRun, labelRun, equal⟩
    exact ⟨cluster, clusterRun, namespaceName, namespaceRun, label, labelRun, equal⟩

theorem madeOf_of_query?
    {scope : Scope}
    {query : Query}
    (run : query? registry scope = .ok (some query)) :
    query.MadeOf (IsLeaf registry) := by
  obtain ⟨cluster, namespaceName, label, clusterRun, namespaceRun, labelRun, combined⟩ :=
    query?_eq_ok_iff.1 run
  refine .of_all?_eq_some combined fun part member => ?_
  simp only [List.mem_append, Option.mem_toList] at member
  rcases member with (rfl | rfl) | rfl
  · exact madeOf_of_exactQuery? rfl clusterRun
  · exact madeOf_of_exactQuery? rfl namespaceRun
  · exact madeOf_of_labelQuery? labelRun

/-- The predicate of a list of entries is the disjunction of those that set
something. -/
theorem listQuery?_eq_ok_iff {scopes : List Scope} {outcome : Option Query} :
    listQuery? registry scopes = .ok outcome ↔
      ∃ queries, scopes.mapM (query? registry) = .ok queries ∧
        Query.any? (queries.filterMap id) = outcome := by
  rw [listQuery?, Outcome.bind_eq_ok_iff]
  simp only [Except.ok.injEq]

theorem madeOf_of_mem_queries
    {scopes : List Scope}
    {outcomes : List (Option Query)}
    (run : scopes.mapM (query? registry) = .ok outcomes)
    {query : Query}
    (member : query ∈ outcomes.filterMap id) :
    query.MadeOf (IsLeaf registry) := by
  have entries :
      ∀ outcome ∈ outcomes, ∀ part, outcome = some part → part.MadeOf (IsLeaf registry) := by
    refine Outcome.forall_of_mapM_eq_ok run ?_
    rintro scope - _ entryRun part rfl
    exact madeOf_of_query? entryRun
  obtain ⟨outcome, inOutcomes, present⟩ := List.mem_filterMap.1 member
  exact entries outcome inOutcomes query present

theorem madeOf_of_listQuery?
    {scopes : List Scope}
    {query : Query}
    (run : listQuery? registry scopes = .ok (some query)) :
    query.MadeOf (IsLeaf registry) := by
  obtain ⟨outcomes, entriesRun, combined⟩ := listQuery?_eq_ok_iff.1 run
  exact .of_any?_eq_some combined fun part member => madeOf_of_mem_queries entriesRun member

end Leaves
end Scope
end WorkloadPolicy
