import WorkloadPolicy.Check.Tree
import WorkloadPolicy.Proofs.Keying
import WorkloadPolicy.Proofs.Outcome

/-!
# What checks contribute

Every check contributes a populated predicate on registered fields, under keys
of its own.  A check of one field contributes a choice of leaves on that field,
and its printer either tells of their highlights or gives a fixed message.  A
linked check contributes one group of leaves, whose highlights its printer
reads in the order of the columns.
-/

namespace WorkloadPolicy

/-- A leaf tests a registered field where the registry says it lies. -/
def FieldQuery.IsRegistered (registry : FieldRegistry) (field : FieldQuery) : Prop :=
  ∃ metadata, registry.lookup field.label = some metadata ∧
    field.path = metadata.path ∧ field.kind = metadata.kind

theorem FieldQuery.isRegistered_ofField
    {registry : FieldRegistry}
    {label : FieldLabel}
    {metadata : FieldMetadata}
    (lookup : registry.lookup label = some metadata)
    (operation : Operation) :
    (ofField label metadata operation).IsRegistered registry :=
  ⟨metadata, lookup, rfl, rfl⟩

theorem lookup_of_requireField_eq_ok
    {check : String}
    {registry : FieldRegistry}
    {label : FieldLabel}
    {metadata : FieldMetadata}
    (required : requireField check registry label = .ok metadata) :
    registry.lookup label = some metadata :=
  (requireField_eq_ok_iff.1 required).1

/-- Whether a leaf with an operation highlights something whenever it matches. -/
def Operation.highlights : Operation → Bool
  | missing => false
  | mapKeyAbsent _ => false
  | _ => true

/-! ## Demands on one field -/

namespace FieldDemand

/-- Whether the age that is demanded, if one is, fits a duration. -/
def agesFit : FieldDemand → Bool
  | age _ days => Calendar.Instant.dayCountFits days
  | _ => true

/-- A demand contributes a choice of leaves on its field.  Its printer gives a
fixed message, or it tells of the highlights, and then no leaf matches without
any. -/
structure Served
    (demand : FieldDemand)
    (label : FieldLabel)
    (metadata : FieldMetadata)
    (contribution : Contribution)
    (operations : List Operation) : Prop where
  query :
    Query.any? (operations.map fun operation : Operation =>
        .leaf (.ofField label metadata operation)) =
      some contribution.query
  agesFit : demand.agesFit = true → ∀ operation ∈ operations, operation.agesFit = true
  printer :
    (∃ message, contribution.printer = .fixed message) ∨
      (∃ template, contribution.printer = .field metadata.path template) ∧
        ∀ operation ∈ operations, operation.highlights = true

/-- A contribution of a single leaf that is told of by its highlights. -/
theorem Served.single
    {demand : FieldDemand}
    {label : FieldLabel}
    {metadata : FieldMetadata}
    {operation : Operation}
    {template : FieldTemplate}
    (agesFit : demand.agesFit = true → operation.agesFit = true)
    (highlights : operation.highlights = true) :
    demand.Served label metadata
      ⟨.leaf (.ofField label metadata operation), .field metadata.path template⟩
      [operation] where
  query := rfl
  agesFit := by simpa using agesFit
  printer := .inr ⟨⟨template, rfl⟩, by simpa using highlights⟩

theorem keptLeaves_eq_ok
    {check : String}
    {leaf : Operation → Query}
    {names : List String}
    {leaves : List Query}
    (compiled : keptLeaves check leaf names = .ok leaves) :
    ∃ operations : List Operation, leaves = operations.map leaf ∧
      ∀ operation ∈ operations, ∃ pattern name, operation = .lacks pattern name := by
  induction names generalizing leaves with
  | nil =>
      cases compiled
      exact ⟨[], rfl, by simp⟩
  | cons name names hypothesis =>
      obtain ⟨pattern, -, rest⟩ := Outcome.bind_eq_ok_iff.1 compiled
      obtain ⟨others, othersCompiled, equal⟩ := Outcome.bind_eq_ok_iff.1 rest
      obtain ⟨operations, rfl, lacks⟩ := hypothesis othersCompiled
      cases equal
      refine ⟨.lacks pattern name :: operations, rfl, ?_⟩
      exact List.forall_mem_cons.2 ⟨⟨pattern, name, rfl⟩, lacks⟩

/-- What a demand can contribute. -/
theorem served_of_contribution?_eq_ok_some
    {check : String}
    {label : FieldLabel}
    {metadata : FieldMetadata}
    {demand : FieldDemand}
    {contribution : Contribution}
    (contributed : demand.contribution? check label metadata = .ok (some contribution)) :
    ∃ operations, demand.Served label metadata contribution operations := by
  cases demand with
  | pattern subject text anywhere =>
      cases anywhere <;>
        (obtain ⟨compiled, -, equal⟩ := Outcome.bind_eq_ok_iff.1 contributed
         cases equal
         exact ⟨_, .single (fun _ => rfl) rfl⟩)
  | exact subject expected =>
      cases contributed
      exact ⟨_, .single (fun _ => rfl) rfl⟩
  | threshold description policy =>
      cases contributed
      exact ⟨_, .single (fun _ => rfl) rfl⟩
  | age subject days =>
      cases contributed
      exact ⟨_, .single (fun fit => fit) rfl⟩
  | flag value message =>
      cases contributed
      exact ⟨_, .single (fun _ => rfl) rfl⟩
  | missing message =>
      cases contributed
      exact ⟨[.missing], rfl, by simp [Operation.agesFit], .inl ⟨message, rfl⟩⟩
  | process aspect text =>
      obtain ⟨compiled, -, equal⟩ := Outcome.bind_eq_ok_iff.1 contributed
      cases equal
      exact ⟨_, .single (fun _ => rfl) rfl⟩
  | addedCapabilities names =>
      obtain ⟨compiled, -, equal⟩ := Outcome.bind_eq_ok_iff.1 contributed
      cases equal
      exact ⟨_, .single (fun _ => rfl) rfl⟩
  | keptCapabilities names =>
      obtain ⟨leaves, compiled, equal⟩ := Outcome.bind_eq_ok_iff.1 contributed
      obtain ⟨operations, rfl, lacks⟩ := keptLeaves_eq_ok compiled
      obtain ⟨query, chosen, rfl⟩ := Option.map_eq_some_iff.1 (Except.ok.inj equal)
      refine ⟨operations, chosen, ?_, .inr ⟨⟨_, rfl⟩, ?_⟩⟩
      · intro _ operation member
        obtain ⟨pattern, name, rfl⟩ := lacks operation member
        rfl
      · intro operation member
        obtain ⟨pattern, name, rfl⟩ := lacks operation member
        rfl
  | requiredEntry subject key value =>
      obtain ⟨keyPattern, -, rest⟩ := Outcome.bind_eq_ok_iff.1 contributed
      obtain ⟨valuePattern, -, equal⟩ := Outcome.bind_eq_ok_iff.1 rest
      obtain ⟨query, chosen, rfl⟩ := Option.map_eq_some_iff.1 (Except.ok.inj equal)
      refine
        ⟨(valuePattern.toList.map fun pattern => .mapEntry keyPattern (some pattern) true) ++
          [.mapKeyAbsent keyPattern], ?_, ?_, .inl ⟨_, rfl⟩⟩
      · rw [List.map_append, List.map_map]
        exact chosen
      · cases valuePattern <;> simp [Operation.agesFit]
  | disallowedEntry subject policy key value =>
      obtain ⟨keyPattern, -, rest⟩ := Outcome.bind_eq_ok_iff.1 contributed
      obtain ⟨valuePattern, -, equal⟩ := Outcome.bind_eq_ok_iff.1 rest
      cases equal
      exact ⟨_, .single (fun _ => rfl) rfl⟩

namespace Served

variable
  {demand : FieldDemand}
  {label : FieldLabel}
  {metadata : FieldMetadata}
  {contribution : Contribution}
  {operations : List Operation}

theorem madeOf (served : demand.Served label metadata contribution operations) :
    contribution.query.MadeOf fun field =>
      ∃ operation ∈ operations, field = .ofField label metadata operation := by
  apply Query.MadeOf.of_any?_eq_some served.query
  rw [List.forall_mem_map]
  exact fun operation member => .ofLeaf ⟨operation, member, rfl⟩

end Served
end FieldDemand

/-! ## Demands on linked fields -/

namespace LinkedDemand

/-- A demand contributes one group of leaves, a column each, and a printer that
reads their highlights. -/
structure Served
    (demand : LinkedDemand)
    (registry : FieldRegistry)
    (contribution : Contribution)
    (fields : List FieldQuery) : Prop where
  query : contribution.query = .linked fields
  printer : contribution.printer = .linked (fields.map (·.path)) demand.template
  labels : fields.map (·.label) = demand.columns.map (·.1)
  plain : ∀ field ∈ fields, field.key = field.path
  registered : ∀ field ∈ fields, field.IsRegistered registry
  agesFit : ∀ field ∈ fields, field.operation.agesFit = true

theorem agesFit_of_operation_eq_ok
    {check : String}
    {demand : ColumnDemand}
    {operation : Operation}
    (compiled : demand.operation check = .ok operation) :
    operation.agesFit = true := by
  cases demand with
  | any =>
      cases compiled
      rfl
  | exact expected =>
      cases compiled
      rfl
  | numeric policy =>
      cases compiled
      rfl
  | pattern text anywhere =>
      obtain ⟨pattern, -, rfl⟩ := Outcome.map_eq_ok_iff.1 compiled
      rfl

/-- Columns keep their fields when their operations are compiled. -/
theorem labels_of_compiled
    {check : String}
    {columns : List (FieldLabel × ColumnDemand)}
    {compiled : List (FieldLabel × Operation)}
    (run :
      (columns.mapM fun column => do
        let operation ← column.2.operation check
        .ok (column.1, operation)) =
        .ok compiled) :
    compiled.map (·.1) = columns.map (·.1) := by
  apply Outcome.map_of_mapM_eq_ok run
  intro input output run
  obtain ⟨operation, -, equal⟩ := Outcome.bind_eq_ok_iff.1 run
  cases equal
  rfl

/-- What a demand can contribute. -/
theorem served_of_contribution_eq_ok
    {check : String}
    {registry : FieldRegistry}
    {demand : LinkedDemand}
    {contribution : Contribution}
    (contributed : demand.contribution check registry = .ok contribution) :
    ∃ fields, demand.Served registry contribution fields := by
  obtain ⟨columns, compiled, rest⟩ := Outcome.bind_eq_ok_iff.1 contributed
  obtain ⟨fields, looked, equal⟩ := Outcome.bind_eq_ok_iff.1 rest
  have columnLabels : columns.map (·.1) = demand.columns.map (·.1) :=
    labels_of_compiled compiled
  have columnsFit : ∀ column ∈ columns, column.2.agesFit = true := by
    refine Outcome.forall_of_mapM_eq_ok compiled ?_
    intro input _ output run
    obtain ⟨operation, compiled, equal⟩ := Outcome.bind_eq_ok_iff.1 run
    cases equal
    exact agesFit_of_operation_eq_ok compiled
  have fieldLabels : fields.map (·.label) = columns.map (·.1) := by
    apply Outcome.map_of_mapM_eq_ok looked
    intro input output run
    obtain ⟨metadata, -, equal⟩ := Outcome.bind_eq_ok_iff.1 run
    cases equal
    rfl
  have leaves :
      ∀ field ∈ fields, field.key = field.path ∧ field.IsRegistered registry ∧
        field.operation.agesFit = true := by
    refine Outcome.forall_of_mapM_eq_ok looked ?_
    intro input member output run
    obtain ⟨metadata, required, equal⟩ := Outcome.bind_eq_ok_iff.1 run
    cases equal
    exact ⟨rfl, FieldQuery.isRegistered_ofField (lookup_of_requireField_eq_ok required) _,
      columnsFit input member⟩
  cases equal
  exact
    ⟨fields,
      { query := rfl
        printer := by rw [List.map_congr_left fun field member => (leaves field member).1]
        labels := fieldLabels.trans columnLabels
        plain := fun field member => (leaves field member).1
        registered := fun field member => (leaves field member).2.1
        agesFit := fun field member => (leaves field member).2.2 }⟩

namespace Served

variable
  {demand : LinkedDemand}
  {registry : FieldRegistry}
  {contribution : Contribution}
  {fields : List FieldQuery}

theorem fields_ne_nil (served : demand.Served registry contribution fields) :
    fields ≠ [] := by
  intro none
  have labels := served.labels
  rw [none, List.map_nil] at labels
  exact demand.columns_ne_nil (List.map_eq_nil_iff.1 labels.symm)

theorem populated (served : demand.Served registry contribution fields) :
    contribution.query.Populated := by
  rw [served.query]
  exact .linked served.fields_ne_nil

end Served
end LinkedDemand

/-! ## Demands on service accounts -/

namespace AccountFields

/-- The fields that name a service account are registered. -/
def IsRegistered (fields : AccountFields) (registry : FieldRegistry) : Prop :=
  registry.lookup .clusterId = some fields.cluster ∧
    registry.lookup .namespaceName = some fields.namespaceName ∧
    registry.lookup .serviceAccount = some fields.account

theorem isRegistered_of_ofRegistry_eq_ok
    {registry : FieldRegistry}
    {fields : AccountFields}
    (looked : ofRegistry registry = .ok fields) :
    fields.IsRegistered registry := by
  obtain ⟨cluster, clusterFound, rest⟩ := Outcome.bind_eq_ok_iff.1 looked
  obtain ⟨namespaceName, namespaceFound, rest⟩ := Outcome.bind_eq_ok_iff.1 rest
  obtain ⟨account, accountFound, equal⟩ := Outcome.bind_eq_ok_iff.1 rest
  cases equal
  exact ⟨lookup_of_requireField_eq_ok clusterFound,
    lookup_of_requireField_eq_ok namespaceFound, lookup_of_requireField_eq_ok accountFound⟩

/-- A leaf that tests one of the fields of a service account, and no age. -/
def IsLeaf (fields : AccountFields) (field : FieldQuery) : Prop :=
  ((∃ operation, field = .ofField .clusterId fields.cluster operation) ∨
      (∃ operation, field = .ofField .namespaceName fields.namespaceName operation) ∨
      ∃ operation, field = .ofField .serviceAccount fields.account operation) ∧
    field.operation.agesFit = true

theorem IsLeaf.isRegistered
    {fields : AccountFields}
    {registry : FieldRegistry}
    {field : FieldQuery}
    (isLeaf : fields.IsLeaf field)
    (registered : fields.IsRegistered registry) :
    field.IsRegistered registry := by
  obtain ⟨⟨operation, rfl⟩ | ⟨operation, rfl⟩ | ⟨operation, rfl⟩, -⟩ := isLeaf
  · exact FieldQuery.isRegistered_ofField registered.1 operation
  · exact FieldQuery.isRegistered_ofField registered.2.1 operation
  · exact FieldQuery.isRegistered_ofField registered.2.2 operation

theorem madeOf_accountQuery
    (fields : AccountFields)
    (clusterId : String)
    (account : Access.ServiceAccount) :
    (fields.accountQuery clusterId account).MadeOf fields.IsLeaf := by
  apply Query.MadeOf.conjunction (by simp)
  simp only [List.forall_mem_cons]
  exact ⟨.ofLeaf ⟨.inl ⟨_, rfl⟩, rfl⟩, .ofLeaf ⟨.inr (.inl ⟨_, rfl⟩), rfl⟩,
    .ofLeaf ⟨.inr (.inr ⟨_, rfl⟩), rfl⟩, List.forall_mem_nil _⟩

/-- The predicate on service accounts tests their fields only, whatever the
snapshot. -/
theorem madeOf_accountsAboveQuery
    (fields : AccountFields)
    (threshold : Access.PermissionLevel)
    (snapshot : List (String × Access.ClusterListing)) :
    (accountsAboveQuery fields threshold snapshot).MadeOf fields.IsLeaf := by
  simp only [accountsAboveQuery]
  cases chosen : Query.any? (snapshot.filterMap fun cluster =>
      Query.any? ((cluster.2.accountsAbove threshold).map (fields.accountQuery cluster.1))) with
  | none => exact .ofLeaf ⟨.inr (.inr ⟨_, rfl⟩), rfl⟩
  | some query =>
      refine .of_any?_eq_some chosen fun part member => ?_
      obtain ⟨cluster, -, ofCluster⟩ := List.mem_filterMap.1 member
      refine .of_any?_eq_some ofCluster fun account ofAccount => ?_
      obtain ⟨account, -, rfl⟩ := List.mem_map.1 ofAccount
      exact madeOf_accountQuery fields cluster.1 account

end AccountFields

/-! ## Leaves of trees -/

namespace Contribution

/-- A contribution whose predicate is populated and tests registered fields. -/
structure Founded (registry : FieldRegistry) (contribution : Contribution) : Prop where
  populated : contribution.query.Populated
  registered : ∀ field ∈ contribution.query.fields, field.IsRegistered registry

end Contribution

namespace LeafCheck

/-- The ages that a check demands of a policy fit durations. -/
def AgesFit (fields : PolicyFields) : LeafCheck → Prop
  | field check =>
      ∀ demand, check.demand? fields = .ok (some demand) → demand.agesFit = true
  | linked _ => True
  | permission _ => True

variable {check : LeafCheck} {fields : PolicyFields} {registry : FieldRegistry}

/-- What a check of one field can contribute. -/
theorem served_of_field_contributed
    {check : FieldCheck}
    {contribution : Contribution}
    (contributed : check.contribution? fields registry = .ok (some contribution)) :
    ∃ demand metadata operations, check.demand? fields = .ok (some demand) ∧
      registry.lookup check.label = some metadata ∧
      demand.Served check.label metadata contribution operations := by
  obtain ⟨demand, demanded, rest⟩ := Outcome.bind_eq_ok_iff.1 contributed
  cases demand with
  | none => simp at rest
  | some demand =>
      obtain ⟨metadata, required, rest⟩ := Outcome.bind_eq_ok_iff.1 rest
      obtain ⟨operations, served⟩ := FieldDemand.served_of_contribution?_eq_ok_some rest
      exact ⟨demand, metadata, operations, demanded, lookup_of_requireField_eq_ok required,
        served⟩

/-- A check that demands something of its field looks the field up. -/
theorem plainContribution?_of_demand
    {check : FieldCheck}
    {demand : FieldDemand}
    (demanded : check.demand? fields = .ok (some demand)) :
    (field check).plainContribution? fields registry =
      requireField check.name registry check.label >>= fun metadata =>
        demand.contribution? check.name check.label metadata := by
  rw [plainContribution?, FieldCheck.contribution?, demanded]
  rfl

/-- What a check of one field contributes is what it demands of the field, under its keys. -/
theorem exists_plain_of_demand
    {check : FieldCheck}
    {demand : FieldDemand}
    {outcome : Option Contribution}
    (demanded : check.demand? fields = .ok (some demand))
    (contributed : (field check).contribution? fields registry = .ok outcome) :
    ∃ metadata plain, registry.lookup check.label = some metadata ∧
      demand.contribution? check.name check.label metadata = .ok plain ∧
      (field check).plainContribution? fields registry = .ok plain ∧
      outcome = plain.map (·.keyed check.name) := by
  obtain ⟨plain, run, rfl⟩ := Outcome.map_eq_ok_iff.1 contributed
  obtain ⟨metadata, required, served⟩ :=
    Outcome.bind_eq_ok_iff.1 ((plainContribution?_of_demand demanded).symm.trans run)
  exact ⟨metadata, plain, lookup_of_requireField_eq_ok required, served, run, rfl⟩

/-- What a linked check contributes if it demands something. -/
theorem linkedContribution?_of_demand
    {check : LinkedCheck}
    {demand : LinkedDemand}
    (demanded : check.demand? fields = some demand) :
    check.contribution? fields registry = (demand.contribution check.name registry).map some := by
  rw [LinkedCheck.contribution?, demanded]

/-- A linked check contributes what it demands. -/
theorem linked_contributed_iff
    {check : LinkedCheck}
    {contribution : Contribution} :
    check.contribution? fields registry = .ok (some contribution) ↔
      ∃ demand, check.demand? fields = some demand ∧
        demand.contribution check.name registry = .ok contribution := by
  cases demanded : check.demand? fields with
  | none => simp [LinkedCheck.contribution?, demanded]
  | some demand => simp [linkedContribution?_of_demand demanded, Outcome.map_eq_ok_iff]

/-- What a linked check can contribute. -/
theorem served_of_linked_contributed
    {check : LinkedCheck}
    {contribution : Contribution}
    (contributed : check.contribution? fields registry = .ok (some contribution)) :
    ∃ demand leaves, check.demand? fields = some demand ∧
      LinkedDemand.Served demand registry contribution leaves := by
  obtain ⟨demand, demanded, compiled⟩ := linked_contributed_iff.1 contributed
  obtain ⟨leaves, served⟩ := LinkedDemand.served_of_contribution_eq_ok compiled
  exact ⟨demand, leaves, demanded, served⟩

/-- What the permission check can contribute. -/
theorem served_of_permission_contributed
    {store : Access.Store}
    {contribution : Contribution}
    (contributed : permissionContribution? store fields registry = .ok (some contribution)) :
    ∃ accountFields : AccountFields, accountFields.IsRegistered registry ∧
      contribution.query.MadeOf accountFields.IsLeaf ∧
      ∃ message, contribution.printer = .fixed message := by
  unfold permissionContribution? at contributed
  cases demanded : fields.permission with
  | none => simp [demanded] at contributed
  | some policy =>
      simp only [demanded] at contributed
      obtain ⟨accountFields, looked, rest⟩ := Outcome.bind_eq_ok_iff.1 contributed
      obtain ⟨snapshot, -, equal⟩ := Outcome.bind_eq_ok_iff.1 rest
      cases equal
      exact ⟨accountFields, AccountFields.isRegistered_of_ofRegistry_eq_ok looked,
        AccountFields.madeOf_accountsAboveQuery _ _ _, _, rfl⟩

/-- Every check contributes a populated predicate on registered fields. -/
theorem founded_of_plainContribution?
    {contribution : Contribution}
    (contributed : check.plainContribution? fields registry = .ok (some contribution)) :
    contribution.Founded registry := by
  cases check with
  | field check =>
      obtain ⟨demand, metadata, operations, -, lookup, served⟩ :=
        served_of_field_contributed contributed
      refine ⟨served.madeOf.populated, fun field member => ?_⟩
      obtain ⟨operation, -, rfl⟩ := served.madeOf.of_mem_fields member
      exact FieldQuery.isRegistered_ofField lookup operation
  | linked check =>
      obtain ⟨demand, leaves, -, served⟩ := served_of_linked_contributed contributed
      refine ⟨served.populated, ?_⟩
      rw [served.query, Query.fields_linked]
      exact served.registered
  | permission store =>
      obtain ⟨accountFields, registered, madeOf, -⟩ :=
        served_of_permission_contributed contributed
      exact ⟨madeOf.populated,
        fun field member => (madeOf.of_mem_fields member).isRegistered registered⟩

/-- The leaves that a check contributes ask only for ages that it demands. -/
theorem agesFit_of_plainContribution?
    {contribution : Contribution}
    (fit : check.AgesFit fields)
    (contributed : check.plainContribution? fields registry = .ok (some contribution)) :
    ∀ field ∈ contribution.query.fields, field.operation.agesFit = true := by
  cases check with
  | field check =>
      obtain ⟨demand, metadata, operations, demanded, -, served⟩ :=
        served_of_field_contributed contributed
      intro field member
      obtain ⟨operation, inOperations, rfl⟩ := served.madeOf.of_mem_fields member
      exact served.agesFit (fit demand demanded) operation inOperations
  | linked check =>
      obtain ⟨demand, leaves, -, served⟩ := served_of_linked_contributed contributed
      rw [served.query, Query.fields_linked]
      exact served.agesFit
  | permission store =>
      obtain ⟨accountFields, -, madeOf, -⟩ := served_of_permission_contributed contributed
      exact fun field member => (madeOf.of_mem_fields member).2

/-- The leaves that a check contributes stand under their own paths. -/
theorem isPlain_of_plainContribution?
    {contribution : Contribution}
    (contributed : check.plainContribution? fields registry = .ok (some contribution)) :
    contribution.query.IsPlain := by
  intro field member
  cases check with
  | field check =>
      obtain ⟨demand, metadata, operations, -, -, served⟩ :=
        served_of_field_contributed contributed
      obtain ⟨operation, -, rfl⟩ := served.madeOf.of_mem_fields member
      rfl
  | linked check =>
      obtain ⟨demand, leaves, -, served⟩ := served_of_linked_contributed contributed
      rw [served.query, Query.fields_linked] at member
      exact served.plain field member
  | permission store =>
      obtain ⟨accountFields, -, madeOf, -⟩ := served_of_permission_contributed contributed
      obtain ⟨⟨_, rfl⟩ | ⟨_, rfl⟩ | ⟨_, rfl⟩, -⟩ := madeOf.of_mem_fields member <;> rfl

/-- The printer of a check reads under the paths of its leaves only. -/
theorem exists_field_of_mem_keys
    {contribution : Contribution}
    (contributed : check.plainContribution? fields registry = .ok (some contribution))
    {key : String}
    (member : key ∈ contribution.printer.keys) :
    ∃ field ∈ contribution.query.fields, field.path = key := by
  cases check with
  | field check =>
      obtain ⟨demand, metadata, operations, -, -, served⟩ :=
        served_of_field_contributed contributed
      rcases served.printer with ⟨message, printer⟩ | ⟨⟨template, printer⟩, -⟩
      · rw [printer] at member
        simp [Printer.keys] at member
      · rw [printer] at member
        have inhabited := served.madeOf.populated.fields_ne_nil
        obtain ⟨field, inFields⟩ := List.exists_mem_of_ne_nil _ inhabited
        refine ⟨field, inFields, ?_⟩
        obtain ⟨operation, -, rfl⟩ := served.madeOf.of_mem_fields inFields
        exact (List.mem_singleton.1 member).symm
  | linked check =>
      obtain ⟨demand, leaves, -, served⟩ := served_of_linked_contributed contributed
      rw [served.printer] at member
      rw [served.query, Query.fields_linked]
      exact List.mem_map.1 member
  | permission store =>
      obtain ⟨accountFields, -, -, message, printer⟩ :=
        served_of_permission_contributed contributed
      rw [printer] at member
      simp [Printer.keys] at member

/-- A check contributes one group of linked leaves, or single leaves only. -/
theorem groups_of_plainContribution?
    {contribution : Contribution}
    (contributed : check.plainContribution? fields registry = .ok (some contribution)) :
    (∃ linkedCheck demand leaves, check = .linked linkedCheck ∧
        contribution.query.groups = [leaves] ∧
        LinkedDemand.Served demand registry contribution leaves) ∨
      ∀ group ∈ contribution.query.groups, ∃ field, group = [field] := by
  cases check with
  | field check =>
      obtain ⟨demand, metadata, operations, -, -, served⟩ :=
        served_of_field_contributed contributed
      refine .inr fun group member => ?_
      obtain ⟨field, single, -⟩ := served.madeOf.single group member
      exact ⟨field, single⟩
  | linked check =>
      obtain ⟨demand, leaves, -, served⟩ := served_of_linked_contributed contributed
      exact .inl ⟨check, demand, leaves, rfl, by rw [served.query, Query.groups_linked], served⟩
  | permission store =>
      obtain ⟨accountFields, -, madeOf, -⟩ := served_of_permission_contributed contributed
      refine .inr fun group member => ?_
      obtain ⟨field, single, -⟩ := madeOf.single group member
      exact ⟨field, single⟩

theorem contribution?_eq_ok_some_iff
    {contribution : Contribution} :
    check.contribution? fields registry = .ok (some contribution) ↔
      ∃ plain, check.plainContribution? fields registry = .ok (some plain) ∧
        plain.keyed check.name = contribution := by
  rw [contribution?, Outcome.map_eq_ok_iff]
  constructor
  · rintro ⟨part, run, equal⟩
    obtain ⟨plain, rfl, keyed⟩ := Option.map_eq_some_iff.1 equal
    exact ⟨plain, run, keyed⟩
  · rintro ⟨plain, run, rfl⟩
    exact ⟨some plain, run, rfl⟩

/-- The leaves that a check contributes are keyed by its name. -/
theorem key_of_contribution?
    {contribution : Contribution}
    (contributed : check.contribution? fields registry = .ok (some contribution))
    {field : FieldQuery}
    (member : field ∈ contribution.query.fields) :
    field.key = highlightKey check.name field.path := by
  obtain ⟨plain, -, rfl⟩ := contribution?_eq_ok_some_iff.1 contributed
  rw [Contribution.keyed, Query.fields_keyed] at member
  obtain ⟨bare, -, rfl⟩ := List.mem_map.1 member
  rfl

/-- The printer of a check reads keys of leaves of its predicate. -/
theorem exists_field_of_mem_keyed_keys
    {contribution : Contribution}
    (contributed : check.contribution? fields registry = .ok (some contribution))
    {key : String}
    (member : key ∈ contribution.printer.keys) :
    ∃ field ∈ contribution.query.fields, field.key = key := by
  obtain ⟨plain, run, rfl⟩ := contribution?_eq_ok_some_iff.1 contributed
  rw [Contribution.keyed, Printer.keys_keyed] at member
  obtain ⟨path, inPlain, rfl⟩ := List.mem_map.1 member
  obtain ⟨field, inQuery, rfl⟩ := exists_field_of_mem_keys run inPlain
  refine ⟨field.keyed check.name, ?_, rfl⟩
  rw [Contribution.keyed, Query.fields_keyed]
  exact List.mem_map_of_mem inQuery

theorem founded_of_contribution?
    {contribution : Contribution}
    (contributed : check.contribution? fields registry = .ok (some contribution)) :
    contribution.Founded registry := by
  obtain ⟨plain, run, rfl⟩ := contribution?_eq_ok_some_iff.1 contributed
  have founded := founded_of_plainContribution? run
  refine ⟨founded.populated.keyed check.name, ?_⟩
  rw [Contribution.keyed, Query.fields_keyed]
  intro field member
  obtain ⟨bare, inPlain, rfl⟩ := List.mem_map.1 member
  exact founded.registered bare inPlain

theorem agesFit_of_contribution?
    {contribution : Contribution}
    (fit : check.AgesFit fields)
    (contributed : check.contribution? fields registry = .ok (some contribution)) :
    ∀ field ∈ contribution.query.fields, field.operation.agesFit = true := by
  obtain ⟨plain, run, rfl⟩ := contribution?_eq_ok_some_iff.1 contributed
  rw [Contribution.keyed, Query.fields_keyed]
  intro field member
  obtain ⟨bare, inPlain, rfl⟩ := List.mem_map.1 member
  exact agesFit_of_plainContribution? fit run bare inPlain

end LeafCheck
end WorkloadPolicy
