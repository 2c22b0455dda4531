import WorkloadPolicy.Proofs.Contribution

/-!
# Columns of linked demands

Linked leaves match when all of them hold in one row.  A demand with more columns
matches less, as long as some column that both have does not take the empty text:
longer columns add rows in which that one is empty.
-/

namespace WorkloadPolicy

/-! ## Rows that hold -/

namespace LinkedRow

theorem lt_foldl_max_iff
    {columns : List (FieldQuery × List String)}
    {start index : Nat} :
    index < columns.foldl (fun count column => max count column.2.length) start ↔
      index < start ∨ ∃ column ∈ columns, index < column.2.length := by
  induction columns generalizing start with
  | nil => simp
  | cons column columns hypothesis =>
      have either :
          index < max start column.2.length ↔ index < start ∨ index < column.2.length := by
        omega
      rw [List.foldl_cons, hypothesis, either, or_assoc]
      simp only [List.mem_cons, exists_eq_or_imp]

/-- There is a row at every position that some leaf has a value at. -/
theorem mem_ofFields_iff
    {fields : List FieldQuery}
    {values : FieldValues}
    {row : LinkedRow} :
    row ∈ ofFields fields values ↔
      ∃ index, (∃ field ∈ fields, index < (values.get field.path).length) ∧
        row = fields.map fun field => (field, ((values.get field.path)[index]?).getD "") := by
  simp only [ofFields, List.mem_map, List.mem_range, lt_foldl_max_iff, Nat.not_lt_zero, false_or,
    List.map_map, exists_exists_and_eq_and]
  exact exists_congr fun index => and_congr_right fun _ => eq_comm

/-- A row whose ages fit is tested leaf by leaf. -/
theorem test_eq
    (now : Calendar.Instant)
    {row : LinkedRow}
    (fit : ∀ cell ∈ row, cell.1.operation.agesFit = true) :
    row.test now = some (row.all fun cell => cell.1.operation.holds now cell.2) := by
  induction row with
  | nil => rfl
  | cons cell row hypothesis =>
      obtain ⟨first, others⟩ := List.forall_mem_cons.1 fit
      rw [test, Operation.faults_eq_false first, List.all_cons]
      cases holds : cell.1.operation.holds now cell.2
      · simp
      · simp [hypothesis others]

end LinkedRow

/-- Linked leaves match when all of them hold at one position. -/
theorem Query.isMatch_linked_iff
    {now : Calendar.Instant}
    {values : FieldValues}
    {fields : List FieldQuery}
    (fit : ∀ field ∈ fields, field.operation.agesFit = true) :
    (evaluate now values (linked fields)).isMatch = true ↔
      ∃ index, (∃ field ∈ fields, index < (values.get field.path).length) ∧
        ∀ field ∈ fields,
          field.operation.holds now (((values.get field.path)[index]?).getD "") = true := by
  have rowsFit :
      ∀ row ∈ LinkedRow.ofFields fields values, ∀ cell ∈ row,
        cell.1.operation.agesFit = true := by
    intro row member cell inRow
    apply fit cell.1
    rw [← LinkedRow.map_fst_of_mem_ofFields member]
    exact List.mem_map_of_mem inRow
  rw [evaluate_linked, isMatch_evaluateRows_iff (evaluateRows_ne_fault now fit values)]
  constructor
  · rintro ⟨row, member, tested⟩
    rw [LinkedRow.test_eq now (rowsFit row member), Option.some.injEq, List.all_eq_true] at tested
    obtain ⟨index, within, rfl⟩ := LinkedRow.mem_ofFields_iff.1 member
    exact ⟨index, within, fun field inFields => tested _ (List.mem_map_of_mem inFields)⟩
  · rintro ⟨index, within, each⟩
    have member := LinkedRow.mem_ofFields_iff.2 ⟨index, within, rfl⟩
    refine ⟨_, member, ?_⟩
    rw [LinkedRow.test_eq now (rowsFit _ member), Option.some.injEq, List.all_eq_true,
      List.forall_mem_map]
    exact each

/-! ## Columns -/

namespace ColumnDemand

/-- The empty text does not do for a column. -/
def IsExacting : ColumnDemand → Prop
  | any => False
  | exact expected => expected ≠ ""
  | numeric _ => True
  | pattern _ _ => True

theorem IsExacting.holds_empty
    {demand : ColumnDemand}
    (exacting : demand.IsExacting)
    {check : String}
    {operation : Operation}
    (compiled : demand.operation check = .ok operation)
    (now : Calendar.Instant) :
    operation.holds now "" = false := by
  cases demand with
  | any => exact exacting.elim
  | exact expected =>
      cases compiled
      simpa [Operation.holds] using Ne.symm exacting
  | numeric policy =>
      cases compiled
      rfl
  | pattern text anywhere =>
      obtain ⟨pattern, -, rfl⟩ := Outcome.map_eq_ok_iff.1 compiled
      rfl

/-- What a column demands does not depend on the check that it belongs to. -/
theorem operation_eq_of_eq_ok
    {demand : ColumnDemand}
    {check other : String}
    {operation otherOperation : Operation}
    (compiled : demand.operation check = .ok operation)
    (otherCompiled : demand.operation other = .ok otherOperation) :
    operation = otherOperation := by
  cases demand with
  | any => exact Except.ok.inj (compiled.symm.trans otherCompiled)
  | exact expected => exact Except.ok.inj (compiled.symm.trans otherCompiled)
  | numeric policy => exact Except.ok.inj (compiled.symm.trans otherCompiled)
  | pattern text anywhere =>
      obtain ⟨pattern, run, rfl⟩ := Outcome.map_eq_ok_iff.1 compiled
      obtain ⟨otherPattern, otherRun, rfl⟩ := Outcome.map_eq_ok_iff.1 otherCompiled
      cases anywhere with
      | true =>
          have same := (compileAnywhere_eq_ok_iff.1 run).symm.trans
            (compileAnywhere_eq_ok_iff.1 otherRun)
          rw [Option.some.inj same]
      | false =>
          have same := (compileWhole_eq_ok_iff.1 run).symm.trans
            (compileWhole_eq_ok_iff.1 otherRun)
          rw [Option.some.inj same]

end ColumnDemand

/-- A leaf tests a column of a demand. -/
def FieldQuery.Tests
    (check : String)
    (registry : FieldRegistry)
    (column : FieldLabel × ColumnDemand)
    (field : FieldQuery) : Prop :=
  ∃ metadata operation, registry.lookup column.1 = some metadata ∧
    column.2.operation check = .ok operation ∧ field = .ofField column.1 metadata operation

/-- Leaves that test one column for two checks look for the same values under the
same path. -/
theorem FieldQuery.Tests.same
    {check other : String}
    {registry : FieldRegistry}
    {column : FieldLabel × ColumnDemand}
    {field otherField : FieldQuery}
    (tests : field.Tests check registry column)
    (otherTests : otherField.Tests other registry column) :
    field.path = otherField.path ∧ field.operation = otherField.operation := by
  obtain ⟨metadata, operation, found, compiled, rfl⟩ := tests
  obtain ⟨otherMetadata, otherOperation, otherFound, otherCompiled, rfl⟩ := otherTests
  cases Option.some.inj (found.symm.trans otherFound)
  exact ⟨rfl, ColumnDemand.operation_eq_of_eq_ok compiled otherCompiled⟩

namespace LinkedDemand

/-- The leaves of a demand test its columns. -/
theorem exists_tests
    {check : String}
    {registry : FieldRegistry}
    {demand : LinkedDemand}
    {contribution : Contribution}
    (contributed : demand.contribution check registry = .ok contribution) :
    ∃ fields, contribution.query = .linked fields ∧
      (∀ field ∈ fields, ∃ column ∈ demand.columns, field.Tests check registry column) ∧
      ∀ column ∈ demand.columns, ∃ field ∈ fields, field.Tests check registry column := by
  obtain ⟨columns, compiled, rest⟩ := Outcome.bind_eq_ok_iff.1 contributed
  obtain ⟨fields, looked, equal⟩ := Outcome.bind_eq_ok_iff.1 rest
  cases equal
  have tests {column : FieldLabel × ColumnDemand} {compiledColumn : FieldLabel × Operation}
      {field : FieldQuery}
      (operationRun : (column.2.operation check >>= fun operation => .ok (column.1, operation)) =
        .ok compiledColumn)
      (leafRun : (requireField check registry compiledColumn.1 >>= fun metadata =>
        .ok (.ofField compiledColumn.1 metadata compiledColumn.2)) = .ok field) :
      field.Tests check registry column := by
    obtain ⟨operation, compiled, equal⟩ := Outcome.bind_eq_ok_iff.1 operationRun
    cases equal
    obtain ⟨metadata, required, equal⟩ := Outcome.bind_eq_ok_iff.1 leafRun
    cases equal
    exact ⟨metadata, operation, lookup_of_requireField_eq_ok required, compiled, rfl⟩
  refine ⟨fields, rfl, fun field member => ?_, fun column member => ?_⟩
  · obtain ⟨compiledColumn, inCompiled, leafRun⟩ := Outcome.exists_input_of_mem looked member
    obtain ⟨column, inColumns, operationRun⟩ := Outcome.exists_input_of_mem compiled inCompiled
    exact ⟨column, inColumns, tests operationRun leafRun⟩
  · obtain ⟨compiledColumn, inCompiled, operationRun⟩ :=
      Outcome.exists_result_of_mem compiled member
    obtain ⟨field, inFields, leafRun⟩ := Outcome.exists_result_of_mem looked inCompiled
    exact ⟨field, inFields, tests operationRun leafRun⟩

/-- A demand matches where one with more columns does. -/
theorem isMatch_of_columns_subset
    {check other : String}
    {registry : FieldRegistry}
    {strong weak : LinkedDemand}
    {strongPart weakPart : Contribution}
    (strongRun : strong.contribution check registry = .ok strongPart)
    (weakRun : weak.contribution other registry = .ok weakPart)
    (subset : weak.columns ⊆ strong.columns)
    (exacting : ∃ column ∈ weak.columns, column.2.IsExacting)
    {now : Calendar.Instant}
    {values : FieldValues}
    (matched : (strongPart.query.evaluate now values).isMatch = true) :
    (weakPart.query.evaluate now values).isMatch = true := by
  obtain ⟨strongFields, strongServed⟩ := served_of_contribution_eq_ok strongRun
  obtain ⟨weakFields, weakServed⟩ := served_of_contribution_eq_ok weakRun
  obtain ⟨_, strongQuery, -, strongTests⟩ := exists_tests strongRun
  obtain ⟨_, weakQuery, testsWeak, weakTests⟩ := exists_tests weakRun
  cases Query.linked.inj (strongServed.query.symm.trans strongQuery)
  cases Query.linked.inj (weakServed.query.symm.trans weakQuery)
  rw [strongQuery, Query.isMatch_linked_iff strongServed.agesFit] at matched
  rw [weakQuery, Query.isMatch_linked_iff weakServed.agesFit]
  obtain ⟨index, -, each⟩ := matched
  have weakEach :
      ∀ field ∈ weakFields,
        field.operation.holds now (((values.get field.path)[index]?).getD "") = true := by
    intro field member
    obtain ⟨column, inColumns, tests⟩ := testsWeak field member
    obtain ⟨found, inStrong, foundTests⟩ := strongTests column (subset inColumns)
    obtain ⟨samePath, sameOperation⟩ := tests.same foundTests
    rw [samePath, sameOperation]
    exact each found inStrong
  refine ⟨index, ?_, weakEach⟩
  -- The position is within the exacting column, which would be empty past its end.
  obtain ⟨column, inColumns, exacting⟩ := exacting
  obtain ⟨field, inFields, tests⟩ := weakTests column inColumns
  refine ⟨field, inFields, ?_⟩
  by_contra beyond
  have holds := weakEach field inFields
  obtain ⟨metadata, operation, -, compiled, rfl⟩ := tests
  rw [List.getElem?_eq_none (Nat.le_of_not_lt beyond), Option.getD_none] at holds
  exact Bool.false_ne_true ((exacting.holds_empty compiled now).symm.trans holds)

end LinkedDemand
end WorkloadPolicy
