import Mathlib.Data.Nat.Basic
import Mathlib.Order.Basic
import WorkloadPolicy.Proofs.Columns
import WorkloadPolicy.Proofs.Rekeying
import WorkloadPolicy.Proofs.Telling

/-!
# Rows of records

A flattened entity tears its records into columns: under every path of a record's
parts there is one value per record, in order.  Linked leaves join such columns into
rows again, and so does their printer with the highlights.  Both times the rows are the
records, none of them mixed, skipped or repeated.
-/

namespace WorkloadPolicy

variable {α : Type}

/-! ## Joining columns -/

/-- Columns with one value per record form one row per record. -/
theorem rowsOfColumns_map
    {β : Type}
    {columns : List β}
    (inhabited : columns ≠ [])
    (records : List α)
    (cell : α → β → String) :
    rowsOfColumns (columns.map fun column => records.map fun record => cell record column) =
      records.map fun record => columns.map (cell record) := by
  have level :
      ∀ column ∈ columns.map fun column => records.map fun record => cell record column,
        column.length = records.length := by
    simp
  rw [rowsOfColumns_eq (by simpa using inhabited) level]
  apply List.ext_getElem
  · simp
  · intro index _ within
    simp only [List.length_map] at within
    simp [List.getElem?_eq_getElem within]

namespace LinkedRow

/-- Leaves whose columns have one value per record form one row per record. -/
theorem ofFields_eq_map
    {fields : List FieldQuery}
    {values : FieldValues}
    {records : List α}
    {cell : α → FieldLabel → String}
    (inhabited : fields ≠ [])
    (columnar : ∀ field ∈ fields,
      values.get field.path = records.map fun record => cell record field.label) :
    ofFields fields values =
      records.map fun record => fields.map fun field => (field, cell record field.label) := by
  have count :
      (fields.map fun field => (field, values.get field.path)).foldl
          (fun count column => max count column.2.length) 0 =
        records.length := by
    apply eq_of_forall_lt_iff
    intro index
    rw [lt_foldl_max_iff]
    constructor
    · rintro (never | ⟨column, member, within⟩)
      · omega
      · obtain ⟨field, inFields, rfl⟩ := List.mem_map.1 member
        simpa [columnar field inFields] using within
    · intro within
      obtain ⟨field, inFields⟩ := List.exists_mem_of_ne_nil _ inhabited
      refine .inr ⟨_, List.mem_map_of_mem inFields, ?_⟩
      simpa [columnar field inFields] using within
  unfold ofFields
  simp only [count, List.map_map]
  apply List.ext_getElem
  · simp
  · intro index _ within
    simp only [List.length_map] at within
    simp only [List.getElem_map, List.getElem_range]
    apply List.map_congr_left
    intro field member
    simp [columnar field member, List.getElem?_eq_getElem within]

/-- A row has the value of each leaf under its key, if the keys are distinct. -/
theorem get_highlights_eq
    {row : LinkedRow}
    (distinct : (row.map (·.1.key)).Nodup)
    {cell : FieldQuery × String}
    (member : cell ∈ row) :
    row.highlights.get cell.1.key = [cell.2] := by
  obtain ⟨value, only⟩ :=
    List.length_eq_one_iff.1 (length_get_highlights distinct (List.mem_map_of_mem member))
  have inside : cell.2 ∈ row.highlights.get cell.1.key := by
    rw [get_highlights, List.mem_flatMap]
    exact ⟨cell, member, by simp⟩
  rw [only, List.mem_singleton] at inside
  rw [only, inside]

end LinkedRow

/-! ## Linked leaves on records -/

section Records

variable
  {now : Calendar.Instant}
  {fields : List FieldQuery}
  {values : FieldValues}
  {records : List α}
  {cell : α → FieldLabel → String}
  (inhabited : fields ≠ [])
  (agesFit : ∀ field ∈ fields, field.operation.agesFit = true)
  (columnar : ∀ field ∈ fields,
    values.get field.path = records.map fun record => cell record field.label)

/-- Whether all of some leaves hold on the parts of a record. -/
def FieldQuery.allHold
    (now : Calendar.Instant)
    (fields : List FieldQuery)
    (part : FieldLabel → String) : Bool :=
  fields.all fun field => field.operation.holds now (part field.label)

include agesFit in
theorem LinkedRow.test_ofRecord (part : FieldLabel → String) :
    test now (fields.map fun field => (field, part field.label)) =
      some (FieldQuery.allHold now fields part) := by
  rw [test_eq now (by simpa using agesFit), List.all_map]
  rfl

include inhabited agesFit columnar

/-- Linked leaves match if all of them hold on some record. -/
theorem Query.isMatch_linked_records_iff :
    (evaluate now values (linked fields)).isMatch = true ↔
      ∃ record ∈ records, FieldQuery.allHold now fields (cell record) = true := by
  rw [evaluate_linked, isMatch_evaluateRows_iff (evaluateRows_ne_fault now agesFit values),
    LinkedRow.ofFields_eq_map inhabited columnar]
  simp only [List.mem_map, exists_exists_and_eq_and, LinkedRow.test_ofRecord agesFit,
    Option.some.injEq]

/-- Under the key of a leaf stand its parts of the records that hold, in order. -/
theorem Query.get_found_linked_records
    (distinct : (fields.map (·.key)).Nodup)
    {field : FieldQuery}
    (member : field ∈ fields) :
    (evaluate now values (linked fields)).found.get field.key =
      (records.filter fun record => FieldQuery.allHold now fields (cell record)).map
        fun record => cell record field.label := by
  have hits (record : α) :
      (LinkedRow.test now (fields.map fun field => (field, cell record field.label)) ==
          some true) =
        FieldQuery.allHold now fields (cell record) := by
    rw [LinkedRow.test_ofRecord agesFit]
    exact beq_true _
  rw [evaluate_linked, found_evaluateRows (evaluateRows_ne_fault now agesFit values),
    LinkedRow.ofFields_eq_map inhabited columnar, List.filter_map, Highlights.get_concat,
    List.map_map, List.flatMap_map, List.map_eq_flatMap]
  simp only [Function.comp_def, hits]
  apply List.flatMap_congr
  intro record _
  have keys :
      ((fields.map fun field => (field, cell record field.label)).map (·.1.key)).Nodup := by
    rw [List.map_map]
    exact distinct
  exact LinkedRow.get_highlights_eq keys (List.mem_map_of_mem member)

end Records

/-! ## Demands on single values -/

/-- Whether a value is not empty and matches a pattern, as a whole or anywhere in it. -/
def Pattern.fits (anywhere : Bool) (pattern value : String) : Bool :=
  !value.isEmpty &&
    (Pattern.compile? true (if anywhere then pattern else Pattern.anchored pattern)).any
      (·.isMatch value)

/-- Whether a value reads as a number that compares with a threshold as asked. -/
def NumericalPolicy.fits (policy : NumericalPolicy) (value : String) : Bool :=
  (Decimal.number? value).any (policy.comparator.compare · policy.value)

namespace ColumnDemand

/-- Whether a value does for a column. -/
def accepts (value : String) : ColumnDemand → Bool
  | any => true
  | exact expected => value == expected
  | numeric policy => policy.fits value
  | pattern text anywhere => Pattern.fits anywhere text value

/-- The operation that tests a column holds on the values that do for it. -/
theorem holds_operation
    {demand : ColumnDemand}
    {check : String}
    {operation : Operation}
    (compiled : demand.operation check = .ok operation)
    (now : Calendar.Instant)
    (value : String) :
    operation.holds now value = demand.accepts value := by
  cases demand with
  | any =>
      cases compiled
      rfl
  | exact expected =>
      cases compiled
      rfl
  | numeric policy =>
      cases compiled
      simp only [Operation.holds, accepts, NumericalPolicy.fits]
      cases Decimal.number? value <;> rfl
  | pattern text anywhere =>
      obtain ⟨pattern, run, rfl⟩ := Outcome.map_eq_ok_iff.1 compiled
      have found :
          Pattern.compile? true (if anywhere then text else Pattern.anchored text) =
            some pattern := by
        cases anywhere with
        | true => exact compileAnywhere_eq_ok_iff.1 run
        | false => exact compileWhole_eq_ok_iff.1 run
      rw [Operation.holds, accepts, Pattern.fits, found, Option.any_some]

end ColumnDemand

/-! ## Rules about records -/

/-- What a policy asks of single records, and what is told of one that complies. -/
structure RecordRule (α : Type) where
  holds : α → Bool
  alerts : α → List Alert

namespace RecordRule

/-- The alerts about the records that comply, in order. -/
def tell (rule : RecordRule α) (records : List α) : List Alert :=
  (records.filter rule.holds).flatMap rule.alerts

end RecordRule

namespace Contribution

/-- A contribution goes by records: on flattened values it matches if some record
complies with a rule, and it tells of those that do, one after the other. -/
structure GoesBy
    (now : Calendar.Instant)
    (values : FieldValues)
    (records : List α)
    (rule : RecordRule α)
    (contribution : Contribution) : Prop where
  sound : contribution.query.evaluate now values ≠ .fault
  isMatch_iff :
    (contribution.query.evaluate now values).isMatch = true ↔
      ∃ record ∈ records, rule.holds record = true
  alerts :
    contribution.printer.alerts (contribution.query.evaluate now values).found =
      rule.tell records

namespace GoesBy

variable
  {now : Calendar.Instant}
  {values : FieldValues}
  {records : List α}
  {rule : RecordRule α}
  {contribution : Contribution}

/-- Keys make no difference to records. -/
theorem keyed
    (goesBy : contribution.GoesBy now values records rule)
    (plain : contribution.query.IsPlain)
    (check : String) :
    (contribution.keyed check).GoesBy now values records rule := by
  refine ⟨?_, ?_, ?_⟩
  · rw [evaluate_keyed plain]
    exact fun isFault => goesBy.sound (Verdict.keyed_eq_fault_iff.1 isFault)
  · rw [isMatch_keyed plain]
    exact goesBy.isMatch_iff
  · rw [evaluate_keyed plain, Verdict.found_keyed]
    exact (Printer.alerts_keyed ..).trans goesBy.alerts

end GoesBy
end Contribution

namespace LinkedDemand

/-- The rule of a demand on records whose parts are the cells of its columns. -/
def rule (demand : LinkedDemand) (cell : α → FieldLabel → String) : RecordRule α where
  holds record := demand.columns.all fun column => column.2.accepts (cell record column.1)
  alerts record := demand.template.alerts (demand.columns.map fun column => cell record column.1)

/-- The leaves of a demand hold on the parts that do for its columns. -/
theorem allHold_eq
    {demand : LinkedDemand}
    {check : String}
    {registry : FieldRegistry}
    {fields : List FieldQuery}
    (ofField : ∀ field ∈ fields, ∃ column ∈ demand.columns, field.Tests check registry column)
    (ofColumn : ∀ column ∈ demand.columns, ∃ field ∈ fields, field.Tests check registry column)
    (now : Calendar.Instant)
    (part : FieldLabel → String) :
    FieldQuery.allHold now fields part =
      demand.columns.all fun column => column.2.accepts (part column.1) := by
  rw [Bool.eq_iff_iff, FieldQuery.allHold, List.all_eq_true, List.all_eq_true]
  constructor
  · intro each column member
    obtain ⟨field, inFields, metadata, operation, -, compiled, rfl⟩ := ofColumn column member
    rw [← ColumnDemand.holds_operation compiled now]
    exact each _ inFields
  · intro each field member
    obtain ⟨column, inColumns, metadata, operation, -, compiled, rfl⟩ := ofField field member
    exact (ColumnDemand.holds_operation compiled now _).trans (each column inColumns)

/-- A demand whose columns have one value per record goes by its rule on records. -/
theorem goesBy_rule
    {demand : LinkedDemand}
    {check : String}
    {registry : FieldRegistry}
    {contribution : Contribution}
    (isStandard : registry.IsStandard)
    (contributed : demand.contribution check registry = .ok contribution)
    (now : Calendar.Instant)
    {values : FieldValues}
    {records : List α}
    {cell : α → FieldLabel → String}
    (columnar : ∀ label ∈ demand.columns.map (·.1),
      values.get label.metadata.path = records.map fun record => cell record label) :
    contribution.GoesBy now values records (demand.rule cell) := by
  obtain ⟨fields, served⟩ := served_of_contribution_eq_ok contributed
  obtain ⟨_, query, ofField, ofColumn⟩ := exists_tests contributed
  cases Query.linked.inj (served.query.symm.trans query)
  have inhabited := served.fields_ne_nil
  have agesFit := served.agesFit
  have columns :
      ∀ field ∈ fields,
        values.get field.path = records.map fun record => cell record field.label := by
    intro field member
    obtain ⟨metadata, found, path, -⟩ := served.registered field member
    rw [path, isStandard _ _ found]
    apply columnar
    rw [← served.labels]
    exact List.mem_map_of_mem member
  have holds (record : α) :
      FieldQuery.allHold now fields (cell record) = (demand.rule cell).holds record :=
    allHold_eq ofField ofColumn now (cell record)
  have distinct : (fields.map (·.key)).Nodup := by
    rw [List.map_congr_left served.plain]
    exact served.paths_nodup isStandard.hasDistinctPaths
  have found :
      (fields.map (·.path)).map (contribution.query.evaluate now values).found.get =
        fields.map fun field =>
          (records.filter (demand.rule cell).holds).map fun record => cell record field.label := by
    rw [List.map_map]
    apply List.map_congr_left
    intro field member
    rw [Function.comp_apply, ← served.plain field member, query,
      Query.get_found_linked_records inhabited agesFit columns distinct member]
    simp only [holds]
  refine ⟨?_, ?_, ?_⟩
  · rw [query, Query.evaluate_linked]
    exact evaluateRows_ne_fault now agesFit values
  · rw [query, Query.isMatch_linked_records_iff inhabited agesFit columns]
    simp only [holds]
  · rw [served.printer, Printer.alerts, found, rowsOfColumns_map inhabited, List.flatMap_map,
      RecordRule.tell]
    apply List.flatMap_congr
    intro record _
    have labels :
        (fields.map fun field => cell record field.label) =
          demand.columns.map fun column => cell record column.1 := by
      have mapped := congrArg (List.map (cell record)) served.labels
      rwa [List.map_map, List.map_map] at mapped
    exact congrArg demand.template.alerts labels

end LinkedDemand
end WorkloadPolicy
