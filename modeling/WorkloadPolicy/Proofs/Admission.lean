import WorkloadPolicy.Proofs.Literal
import WorkloadPolicy.Proofs.Scope

/-!
# What scopes admit

A scope entry names a cluster, a namespace and a label, or some of them.  It
admits the deployments of which all that holds, labels up to simple case
folding.  A list of entries admits what one of its set entries admits, and
everything if none of them is set.  The predicate of a scope on a flattened
deployment says the same.
-/

namespace WorkloadPolicy

/-! ## Places and labels of flattened deployments -/

/-- Entries under other paths add no value. -/
theorem filter_eq_nil_of_forall_ne
    {entries : List (String × String)}
    {path : String}
    (other : ∀ entry ∈ entries, entry.1 ≠ path) :
    entries.filter (·.1 == path) = [] := by
  rw [List.filter_eq_nil_iff]
  intro entry member
  simpa using other entry member

/-- An entry of a map is split at its mark if its key has none. -/
theorem splitEntry_mapEntry {entry : String × String} (plain : '=' ∉ entry.1.toList) :
    splitEntry (mapEntry entry) = entry := by
  have characters :
      (mapEntry entry).toList = entry.1.toList ++ '=' :: entry.2.toList := by
    simp [mapEntry]
  rw [splitEntry, Text.cut, characters, Text.cutChars_append plain]
  simp

namespace Deployment

/-- No key of a label contains the mark between keys and values. -/
def HasPlainLabels (deployment : Deployment) : Prop :=
  ∀ entry ∈ deployment.labels, '=' ∉ entry.1.toList

/-- A deployment has its place, its service account, its labels and its annotations under
paths that nothing else uses. -/
theorem get_fieldValues
    (deployment : Deployment)
    {path : String}
    (place : path ∈ ["deployment.cluster_id", "deployment.namespace",
      "deployment.service_account", "deployment.labels", "deployment.annotations"]) :
    deployment.fieldValues.get path =
      (if path = "deployment.cluster_id" then [deployment.clusterId] else []) ++
        (if path = "deployment.namespace" then [deployment.namespaceName] else []) ++
        (if path = "deployment.service_account" then
          (if deployment.serviceAccount.isEmpty then [] else [deployment.serviceAccount])
        else []) ++
        (if path = "deployment.labels" then deployment.labels.map mapEntry else []) ++
        (if path = "deployment.annotations" then deployment.annotations.map mapEntry
        else []) := by
  simp only [List.mem_cons, List.not_mem_nil, or_false] at place
  have account :
      ((if deployment.serviceAccount.isEmpty then []
        else [("deployment.service_account", deployment.serviceAccount)]).filter
          (·.1 == path)).map (·.2) =
        if path = "deployment.service_account" then
          (if deployment.serviceAccount.isEmpty then [] else [deployment.serviceAccount])
        else [] := by
    cases deployment.serviceAccount.isEmpty <;>
      rcases place with rfl | rfl | rfl | rfl | rfl <;> rfl
  have containers :
      (deployment.containers.flatMap Container.values).filter (·.1 == path) = [] := by
    apply filter_eq_nil_of_forall_ne
    simp only [List.forall_mem_flatMap, Container.values, SecurityContext.values,
      Resources.values, Volume.values, List.forall_mem_append, List.forall_mem_cons,
      List.forall_mem_map]
    intro container _
    rcases place with rfl | rfl | rfl | rfl | rfl <;> simp
  have ports :
      (deployment.ports.flatMap PortConfig.values).filter (·.1 == path) = [] := by
    apply filter_eq_nil_of_forall_ne
    simp only [List.forall_mem_flatMap, PortConfig.values, List.forall_mem_cons]
    intro port _
    rcases place with rfl | rfl | rfl | rfl | rfl <;> simp
  unfold fieldValues FieldValues.get
  simp only [List.filter_append, List.map_append, account, containers, ports, List.append_nil]
  rcases place with rfl | rfl | rfl | rfl | rfl <;> simp [List.filter_map, Function.comp_def]

theorem get_clusterId (deployment : Deployment) :
    deployment.fieldValues.get FieldLabel.clusterId.metadata.path = [deployment.clusterId] :=
  deployment.get_fieldValues (by decide)

theorem get_namespaceName (deployment : Deployment) :
    deployment.fieldValues.get FieldLabel.namespaceName.metadata.path =
      [deployment.namespaceName] :=
  deployment.get_fieldValues (by decide)

theorem get_labels (deployment : Deployment) :
    deployment.fieldValues.get FieldLabel.deploymentLabels.metadata.path =
      deployment.labels.map mapEntry :=
  (deployment.get_fieldValues (by decide)).trans (List.append_nil _)

theorem get_annotations (deployment : Deployment) :
    deployment.fieldValues.get FieldLabel.deploymentAnnotations.metadata.path =
      deployment.annotations.map mapEntry :=
  deployment.get_fieldValues (by decide)

end Deployment

/-- A leaf that highlights its matches matches some value. -/
theorem FieldQuery.isMatch_evaluate_iff
    {now : Calendar.Instant}
    {field : FieldQuery}
    (highlights : field.operation.highlights = true)
    (fit : field.operation.agesFit = true)
    (values : List String) :
    (field.evaluate now values).isMatch = true ↔
      ∃ value ∈ values, field.operation.holds now value = true := by
  unfold evaluate
  split
  · rename_i missing
    simp [missing, Operation.highlights] at highlights
  · rename_i pattern display lacks
    rw [lacks, ← List.any_eq_true]
    split <;> simp_all [Operation.holds]
  · rename_i absent
    simp [absent, Operation.highlights] at highlights
  · rw [if_neg (by simp [Operation.faults_eq_false fit])]
    split
    · rename_i hits
      rw [List.filter_eq_nil_iff] at hits
      simpa using hits
    · rename_i nonempty
      obtain ⟨value, member⟩ := List.exists_mem_of_ne_nil _ nonempty
      simpa using ⟨value, List.mem_filter.1 member⟩

namespace Scope

/-! ## Entries -/

/-- The key of the label that an entry names. -/
def labelKey? (scope : Scope) : Option String :=
  scope.label.bind fun label => nonEmpty? label.key

/-- The value that an entry asks of a label. -/
def labelValue? (scope : Scope) : Option String :=
  scope.label.bind fun label => nonEmpty? label.value

/-- An entry asks for the value of a label without its key. -/
def LacksKey (scope : Scope) : Prop :=
  scope.labelKey? = none ∧ scope.labelValue? ≠ none

instance : DecidablePred LacksKey := fun _ => inferInstanceAs (Decidable (_ ∧ _))

/-- An entry names a cluster, a namespace or the key of a label. -/
def IsSet (scope : Scope) : Prop :=
  nonEmpty? scope.cluster ≠ none ∨ nonEmpty? scope.namespaceName ≠ none ∨
    scope.labelKey? ≠ none

instance : DecidablePred IsSet := fun _ => inferInstanceAs (Decidable (_ ∨ _))

/-- The texts that an entry looks for in labels. -/
def literals (scope : Scope) : List String :=
  match scope.labelKey? with
  | none => []
  | some key => key :: scope.labelValue?.toList

/-- All that an entry names holds of a deployment. -/
def Admits (scope : Scope) (deployment : Deployment) : Prop :=
  (∀ cluster ∈ nonEmpty? scope.cluster, deployment.clusterId = cluster) ∧
    (∀ name ∈ nonEmpty? scope.namespaceName, deployment.namespaceName = name) ∧
    ∀ key ∈ scope.labelKey?, ∃ entry ∈ deployment.labels,
      Text.SameFolded entry.1 key ∧ ∀ value ∈ scope.labelValue?, Text.SameFolded entry.2 value

/-- A deployment is in a list of entries if one of those that are set admits it,
or if none is set. -/
def ListAdmits (scopes : List Scope) (deployment : Deployment) : Prop :=
  (∀ scope ∈ scopes, ¬ scope.IsSet) ∨ ∃ scope ∈ scopes, scope.IsSet ∧ scope.Admits deployment

/-- A policy with a list of entries is looked at if no entry is set or if it is
run on a deployment that is in the list. -/
def Opens (scopes : List Scope) (subjects : Subjects) : Prop :=
  (∀ scope ∈ scopes, ¬ scope.IsSet) ∨
    ∃ deployment ∈ subjects.deployment, ListAdmits scopes deployment

instance (scope : Scope) : DecidablePred scope.Admits := fun _ =>
  inferInstanceAs (Decidable (_ ∧ _ ∧ _))

instance (scopes : List Scope) : DecidablePred (ListAdmits scopes) := fun _ =>
  inferInstanceAs (Decidable (_ ∨ _))

instance (scopes : List Scope) : DecidablePred (Opens scopes) := fun _ =>
  inferInstanceAs (Decidable (_ ∨ _))

/-! ## Gates -/

/-- A predicate, if there is one, that tells whether a deployment is admitted. -/
structure Gate (query? : Option Query) (isSet : Prop) (admits : Deployment → Prop) : Prop where
  isSome_iff : query?.isSome = true ↔ isSet
  ofDeployment : ∀ query ∈ query?, ∀ field ∈ query.fields, field.kind = .deployment
  isMatch_iff : ∀ now deployment, deployment.HasPlainLabels →
    ((∀ query ∈ query?, (query.evaluate now deployment.fieldValues).isMatch = true) ↔
      admits deployment)

namespace Gate

theorem none_of_not_isSet
    {isSet : Prop}
    (notSet : ¬ isSet)
    {admits : Deployment → Prop}
    (free : ∀ deployment, admits deployment) :
    Gate none isSet admits where
  isSome_iff := by simpa using notSet
  ofDeployment := by simp
  isMatch_iff := by simpa using fun _ deployment _ => free deployment

/-- A leaf on a standard field is a gate for what its operation holds of. -/
theorem some_leaf
    {label : FieldLabel}
    (ofDeployment : label.metadata.kind = .deployment)
    {operation : Operation}
    (highlights : operation.highlights = true)
    (fit : operation.agesFit = true)
    {isSet : Prop}
    (set : isSet)
    {admits : Deployment → Prop}
    (holds : ∀ now deployment, deployment.HasPlainLabels →
      ((∃ value ∈ deployment.fieldValues.get label.metadata.path,
        operation.holds now value = true) ↔ admits deployment)) :
    Gate (some (.leaf (.ofField label label.metadata operation))) isSet admits where
  isSome_iff := by simpa using set
  ofDeployment := by simpa [FieldQuery.ofField] using ofDeployment
  isMatch_iff := by
    intro now deployment plain
    rw [← holds now deployment plain]
    simp only [Option.mem_def, Option.some.injEq, forall_eq', Query.evaluate_leaf]
    exact FieldQuery.isMatch_evaluate_iff highlights fit _

/-- The conjunction of the parts of an entry is a gate for all of them. -/
theorem all?
    {first second third : Option Query}
    {isFirst isSecond isThird : Prop}
    {admitsFirst admitsSecond admitsThird : Deployment → Prop}
    (firstGate : Gate first isFirst admitsFirst)
    (secondGate : Gate second isSecond admitsSecond)
    (thirdGate : Gate third isThird admitsThird) :
    Gate (Query.all? (first.toList ++ second.toList ++ third.toList))
      (isFirst ∨ isSecond ∨ isThird)
      (fun deployment =>
        admitsFirst deployment ∧ admitsSecond deployment ∧ admitsThird deployment) where
  isSome_iff := by
    rw [← firstGate.isSome_iff, ← secondGate.isSome_iff, ← thirdGate.isSome_iff,
      Option.isSome_iff_ne_none, Ne, Query.all?_eq_none_iff]
    cases first <;> cases second <;> cases third <;> simp
  ofDeployment := by
    intro query combined field member
    rw [Query.fields_of_all?_eq_some combined] at member
    obtain ⟨part, inParts, inPart⟩ := List.mem_flatMap.1 member
    simp only [List.mem_append, Option.mem_toList] at inParts
    rcases inParts with (isPart | isPart) | isPart
    · exact firstGate.ofDeployment part isPart field inPart
    · exact secondGate.ofDeployment part isPart field inPart
    · exact thirdGate.ofDeployment part isPart field inPart
  isMatch_iff := by
    intro now deployment plain
    rw [← firstGate.isMatch_iff now deployment plain,
      ← secondGate.isMatch_iff now deployment plain,
      ← thirdGate.isMatch_iff now deployment plain]
    cases combined : Query.all? (first.toList ++ second.toList ++ third.toList) with
    | none =>
        have absent := Query.all?_eq_none_iff.1 combined
        simp only [List.append_eq_nil_iff, Option.toList_eq_nil_iff] at absent
        simp [absent]
    | some query =>
        simp only [Option.mem_def, Option.some.injEq, forall_eq',
          Query.evaluate_of_all?_eq_some now deployment.fieldValues combined, Verdict.isMatch_all,
          List.all_map, List.all_eq_true, Function.comp_apply, List.forall_mem_append,
          Option.mem_toList, and_assoc]

/-- The predicate of an entry that is set is a gate by itself. -/
theorem eval
    {query : Query}
    {isSet : Prop}
    {admits : Deployment → Prop}
    (gate : Gate (some query) isSet admits)
    (now : Calendar.Instant)
    {deployment : Deployment}
    (plain : deployment.HasPlainLabels) :
    (query.evaluate now deployment.fieldValues).isMatch = true ↔ admits deployment := by
  rw [← gate.isMatch_iff now deployment plain]
  simp

section List

variable
  {outcomes : List (Option Query)}
  {scopes : List Scope}
  (gates : List.Forall₂ (fun scope outcome => Gate outcome scope.IsSet scope.Admits)
    scopes outcomes)

include gates

/-- The predicates of entries are those of the entries that are set. -/
theorem forall_exists_of_forall₂ :
    (∀ query ∈ outcomes.filterMap id, ∃ scope ∈ scopes,
        scope.IsSet ∧ Gate (some query) scope.IsSet scope.Admits) ∧
      ∀ scope ∈ scopes, scope.IsSet →
        ∃ query ∈ outcomes.filterMap id, Gate (some query) scope.IsSet scope.Admits := by
  induction gates with
  | nil => simp
  | @cons scope outcome scopes outcomes gate _ hypothesis =>
      obtain ⟨ofQuery, ofScope⟩ := hypothesis
      cases outcome with
      | none =>
          have notSet : ¬ scope.IsSet := by simpa using gate.isSome_iff
          have left : (none :: outcomes).filterMap id = outcomes.filterMap id := rfl
          rw [left]
          refine ⟨fun query member => ?_, fun entry member isSet => ?_⟩
          · obtain ⟨entry, inScopes, both⟩ := ofQuery query member
            exact ⟨entry, List.mem_cons_of_mem _ inScopes, both⟩
          · rcases List.mem_cons.1 member with rfl | inScopes
            · exact absurd isSet notSet
            · exact ofScope entry inScopes isSet
      | some query =>
          have isSet : scope.IsSet := by simpa using gate.isSome_iff
          have extended : (some query :: outcomes).filterMap id = query :: outcomes.filterMap id :=
            rfl
          rw [extended]
          refine ⟨fun other member => ?_, fun entry member isSet => ?_⟩
          · rcases List.mem_cons.1 member with rfl | inOutcomes
            · exact ⟨scope, List.mem_cons_self, isSet, gate⟩
            · obtain ⟨entry, inScopes, both⟩ := ofQuery other inOutcomes
              exact ⟨entry, List.mem_cons_of_mem _ inScopes, both⟩
          · rcases List.mem_cons.1 member with rfl | inScopes
            · exact ⟨query, List.mem_cons_self, gate⟩
            · obtain ⟨other, inOutcomes, otherGate⟩ := ofScope entry inScopes isSet
              exact ⟨other, List.mem_cons_of_mem _ inOutcomes, otherGate⟩

/-- The disjunction of entries is a gate for any of those that are set. -/
theorem any?
    (fit : ∀ query ∈ outcomes.filterMap id, ∀ field ∈ query.fields,
      field.operation.agesFit = true) :
    Gate (Query.any? (outcomes.filterMap id)) (∃ scope ∈ scopes, scope.IsSet)
      (ListAdmits scopes) := by
  obtain ⟨ofQuery, ofScope⟩ := forall_exists_of_forall₂ gates
  have isSome_iff :
      (Query.any? (outcomes.filterMap id)).isSome = true ↔ ∃ scope ∈ scopes, scope.IsSet := by
    rw [Option.isSome_iff_ne_none, Ne, Query.any?_eq_none_iff]
    constructor
    · intro present
      obtain ⟨query, member⟩ := List.exists_mem_of_ne_nil _ present
      obtain ⟨scope, inScopes, isSet, -⟩ := ofQuery query member
      exact ⟨scope, inScopes, isSet⟩
    · rintro ⟨scope, inScopes, isSet⟩
      obtain ⟨query, member, -⟩ := ofScope scope inScopes isSet
      exact List.ne_nil_of_mem member
  refine ⟨isSome_iff, ?_, ?_⟩
  · intro query combined field member
    rw [Query.fields_of_any?_eq_some combined] at member
    obtain ⟨part, inParts, inPart⟩ := List.mem_flatMap.1 member
    obtain ⟨scope, -, -, gate⟩ := ofQuery part inParts
    exact gate.ofDeployment part rfl field inPart
  · intro now deployment plain
    cases combined : Query.any? (outcomes.filterMap id) with
    | none =>
        have notSet : ∀ scope ∈ scopes, ¬ scope.IsSet := by
          intro scope inScopes isSet
          have present := isSome_iff.2 ⟨scope, inScopes, isSet⟩
          rw [combined] at present
          simp at present
        simpa using .inl notSet
    | some query =>
        obtain ⟨someScope, someInScopes, someIsSet⟩ := isSome_iff.1 (by rw [combined]; rfl)
        simp only [Option.mem_def, Option.some.injEq, forall_eq',
          Query.isMatch_of_any?_eq_some combined fit]
        constructor
        · rintro ⟨part, inParts, isMatch⟩
          obtain ⟨scope, inScopes, isSet, gate⟩ := ofQuery part inParts
          exact .inr ⟨scope, inScopes, isSet, (gate.eval now plain).1 isMatch⟩
        · rintro (noneSet | ⟨scope, inScopes, isSet, admits⟩)
          · exact absurd someIsSet (noneSet someScope someInScopes)
          · obtain ⟨part, inParts, gate⟩ := ofScope scope inScopes isSet
            exact ⟨part, inParts, (gate.eval now plain).2 admits⟩

end List

end Gate

/-! ## Compiled entries -/

theorem requireField_standard (check : String) (label : FieldLabel) :
    requireField check .standard label = .ok label.metadata :=
  requireField_eq_ok_iff.2 ⟨rfl, rfl⟩

theorem exists_gate_exactQuery?
    {label : FieldLabel}
    (ofDeployment : label.metadata.kind = .deployment)
    {place : Deployment → String}
    (located : ∀ deployment,
      deployment.fieldValues.get label.metadata.path = [place deployment])
    (text : Option String) :
    ∃ outcome, exactQuery? .standard label text = .ok outcome ∧
      Gate outcome (nonEmpty? text ≠ none)
        (fun deployment => ∀ expected ∈ nonEmpty? text, place deployment = expected) := by
  unfold exactQuery?
  cases given : nonEmpty? text with
  | none => exact ⟨none, rfl, .none_of_not_isSet (by simp) (by simp)⟩
  | some expected =>
      rw [requireField_standard]
      refine ⟨_, rfl, .some_leaf ofDeployment rfl rfl (by simp) ?_⟩
      intro now deployment plain
      simp [located deployment, Operation.holds]

/-- The pattern for an optional literal value matches the values with its folding. -/
theorem exists_literalPattern?
    {value : Option String}
    (literal : ∀ text ∈ value, ∃ pattern,
      compileWhole scopeName (Regex.escape text) = .ok pattern) :
    ∃ pattern?, literalPattern? value = .ok pattern? ∧
      ∀ text, (∀ pattern ∈ pattern?, pattern.isMatch text = true) ↔
        ∀ expected ∈ value, Text.SameFolded text expected := by
  cases value with
  | none => exact ⟨none, rfl, by simp⟩
  | some expected =>
      obtain ⟨pattern, compiled⟩ := literal expected rfl
      refine ⟨some pattern, by rw [literalPattern?, compiled]; rfl, fun text => ?_⟩
      simpa using isMatch_of_compileWhole_escape compiled text

theorem exists_gate_labelQuery?
    {scope : Scope}
    (keyed : ¬ scope.LacksKey)
    (literal : ∀ text ∈ scope.literals, ∃ pattern,
      compileWhole scopeName (Regex.escape text) = .ok pattern) :
    ∃ outcome, labelQuery? .standard scope.label = .ok outcome ∧
      Gate outcome (scope.labelKey? ≠ none)
        (fun deployment => ∀ key ∈ scope.labelKey?, ∃ entry ∈ deployment.labels,
          Text.SameFolded entry.1 key ∧
            ∀ value ∈ scope.labelValue?, Text.SameFolded entry.2 value) := by
  unfold labelQuery?
  cases given : scope.label with
  | none =>
      have absent : scope.labelKey? = none := by rw [labelKey?, given]; rfl
      exact ⟨none, rfl, .none_of_not_isSet (by simp [absent]) (by simp [absent])⟩
  | some label =>
      have key? : scope.labelKey? = nonEmpty? label.key := by rw [labelKey?, given]; rfl
      have value? : scope.labelValue? = nonEmpty? label.value := by rw [labelValue?, given]; rfl
      rw [LacksKey, key?, value?] at keyed
      rw [literals, key?, value?] at literal
      rw [key?, value?]
      cases named : nonEmpty? label.key with
      | none =>
          have absent : nonEmpty? label.value = none := by
            by_contra present
            exact keyed ⟨named, present⟩
          refine ⟨none, ?_, .none_of_not_isSet (by simp) (by simp)⟩
          simp only [named, absent]
      | some key =>
          rw [named] at literal
          obtain ⟨keyPattern, keyCompiled⟩ := literal key List.mem_cons_self
          obtain ⟨valuePattern, valueRun, matchesValue⟩ :=
            exists_literalPattern? fun text present =>
              literal text (List.mem_cons_of_mem _ (Option.mem_toList.2 present))
          have holds (now : Calendar.Instant) {entry : String × String}
              (plain : '=' ∉ entry.1.toList) :
              Operation.holds now (mapEntry entry) (.mapEntry keyPattern valuePattern false) =
                  true ↔
                Text.SameFolded entry.1 key ∧
                  ∀ value ∈ nonEmpty? label.value, Text.SameFolded entry.2 value := by
            rw [Operation.holds, splitEntry_mapEntry plain, Bool.and_eq_true,
              isMatch_of_compileWhole_escape keyCompiled]
            apply and_congr_right
            intro _
            rw [← matchesValue entry.2]
            cases valuePattern <;> simp
          refine ⟨some (.leaf (.ofField .deploymentLabels FieldLabel.deploymentLabels.metadata
            (.mapEntry keyPattern valuePattern false))), ?_, .some_leaf rfl rfl rfl (by simp) ?_⟩
          · simp only [named, requireField_standard, keyCompiled, valueRun]
            rfl
          · intro now deployment plain
            rw [deployment.get_labels]
            constructor
            · rintro ⟨_, member, isMatch⟩ _ ⟨⟩
              obtain ⟨entry, inLabels, rfl⟩ := List.mem_map.1 member
              exact ⟨entry, inLabels, (holds now (plain entry inLabels)).1 isMatch⟩
            · intro admits
              obtain ⟨entry, inLabels, same⟩ := admits key rfl
              exact ⟨mapEntry entry, List.mem_map_of_mem inLabels,
                (holds now (plain entry inLabels)).2 same⟩

/-- An entry that asks for the value of a label without its key is refused. -/
theorem query?_of_lacksKey {scope : Scope} (lacksKey : scope.LacksKey) :
    query? .standard scope = .error (.valueWithoutKey scopeName) := by
  obtain ⟨cluster, clusterRun, -⟩ :=
    exists_gate_exactQuery? rfl Deployment.get_clusterId scope.cluster
  obtain ⟨namespaceName, namespaceRun, -⟩ :=
    exists_gate_exactQuery? rfl Deployment.get_namespaceName scope.namespaceName
  obtain ⟨noKey, value⟩ := lacksKey
  obtain ⟨text, present⟩ := Option.ne_none_iff_exists'.1 value
  obtain ⟨label, given, valued⟩ := Option.bind_eq_some_iff.1 present
  have unnamed : nonEmpty? label.key = none := by
    rw [labelKey?, given] at noKey
    exact noKey
  have labelRun : labelQuery? .standard scope.label = .error (.valueWithoutKey scopeName) := by
    rw [given]
    simp only [labelQuery?, unnamed, valued]
  rw [query?, clusterRun, namespaceRun, labelRun]
  rfl

/-- Any other entry compiles to a gate for what it admits. -/
theorem exists_gate_query?
    {scope : Scope}
    (keyed : ¬ scope.LacksKey)
    (literal : ∀ text ∈ scope.literals, ∃ pattern,
      compileWhole scopeName (Regex.escape text) = .ok pattern) :
    ∃ outcome, query? .standard scope = .ok outcome ∧ Gate outcome scope.IsSet scope.Admits := by
  obtain ⟨cluster, clusterRun, clusterGate⟩ :=
    exists_gate_exactQuery? rfl Deployment.get_clusterId scope.cluster
  obtain ⟨namespaceName, namespaceRun, namespaceGate⟩ :=
    exists_gate_exactQuery? rfl Deployment.get_namespaceName scope.namespaceName
  obtain ⟨label, labelRun, labelGate⟩ := exists_gate_labelQuery? keyed literal
  exact ⟨_, query?_eq_ok_iff.2 ⟨cluster, namespaceName, label, clusterRun, namespaceRun, labelRun,
    rfl⟩, clusterGate.all? namespaceGate labelGate⟩

/-- A list of entries compiles unless one of them is refused. -/
theorem listQuery?_standard
    {scopes : List Scope}
    (literal : ∀ scope ∈ scopes, ∀ text ∈ scope.literals, ∃ pattern,
      compileWhole scopeName (Regex.escape text) = .ok pattern) :
    if ∃ scope ∈ scopes, scope.LacksKey then
      listQuery? .standard scopes = .error (.valueWithoutKey scopeName)
    else
      ∃ outcome, listQuery? .standard scopes = .ok outcome ∧
        Gate outcome (∃ scope ∈ scopes, scope.IsSet) (ListAdmits scopes) := by
  split
  · rename_i lacking
    have failed : scopes.mapM (query? .standard) = .error (.valueWithoutKey scopeName) := by
      refine Outcome.mapM_eq_error (fun scope member => ?_) ?_
      · by_cases lacksKey : scope.LacksKey
        · exact .inr (query?_of_lacksKey lacksKey)
        · obtain ⟨outcome, run, -⟩ := exists_gate_query? lacksKey (literal scope member)
          exact .inl ⟨outcome, run⟩
      · obtain ⟨scope, member, lacksKey⟩ := lacking
        exact ⟨scope, member, query?_of_lacksKey lacksKey⟩
    rw [listQuery?, failed]
    rfl
  · rename_i keyed
    have each : ∀ scope ∈ scopes, ∃ outcome, query? .standard scope = .ok outcome ∧
        Gate outcome scope.IsSet scope.Admits :=
      fun scope member =>
        exists_gate_query? (fun lacksKey => keyed ⟨scope, member, lacksKey⟩) (literal scope member)
    obtain ⟨outcomes, run, gates⟩ := Outcome.exists_mapM_eq_ok each
    refine ⟨_, listQuery?_eq_ok_iff.2 ⟨outcomes, run, rfl⟩, Gate.any? gates ?_⟩
    intro query member field inQuery
    exact ((madeOf_of_mem_queries run member).of_mem_fields inQuery).agesFit

end Scope
end WorkloadPolicy
