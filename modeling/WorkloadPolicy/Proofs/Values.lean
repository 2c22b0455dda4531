import WorkloadPolicy.Proofs.Admission
import WorkloadPolicy.Proofs.Rows

/-!
# Leaves on single values

Most leaves test the values under their path one by one, and record those that they
hold of.  Where a record of an entity adds one value under the path, such a leaf goes
by records, and its printer tells of each record that complies with one message.
-/

namespace WorkloadPolicy

/-- Whether a leaf with an operation records the values that it holds of. -/
def Operation.records : Operation → Bool
  | missing => false
  | lacks .. => false
  | mapKeyAbsent _ => false
  | _ => true

theorem Operation.highlights_of_records
    {operation : Operation}
    (records : operation.records = true) :
    operation.highlights = true := by
  cases operation <;> first | rfl | simp [Operation.records] at records

namespace FieldQuery

/-- Under the key of a leaf stand the values that it holds of, in order. -/
theorem get_found_evaluate
    {now : Calendar.Instant}
    {field : FieldQuery}
    (records : field.operation.records = true)
    (fit : field.operation.agesFit = true)
    (values : List String) :
    (field.evaluate now values).found.get field.key =
      values.filter fun value => field.operation.holds now value := by
  unfold evaluate
  split
  · rename_i missing
    simp [missing, Operation.records] at records
  · rename_i lacks
    simp [lacks, Operation.records] at records
  · rename_i absent
    simp [absent, Operation.records] at records
  · rw [if_neg (by simp [Operation.faults_eq_false fit])]
    split
    · rename_i none
      rw [none]
      rfl
    · simp

end FieldQuery

/-- A leaf on a path with one value per record goes by the records, if it holds of the
values of those that comply and its template tells of each of them. -/
theorem Contribution.goesBy_of_leaf
    {α : Type}
    {now : Calendar.Instant}
    {values : FieldValues}
    {label : FieldLabel}
    {metadata : FieldMetadata}
    {operation : Operation}
    {template : FieldTemplate}
    {records : List α}
    {text : α → String}
    {rule : RecordRule α}
    (isRecorded : operation.records = true)
    (fit : operation.agesFit = true)
    (each : template.isOnce = false)
    (columnar : values.get metadata.path = records.map text)
    (holds : ∀ record ∈ records, operation.holds now (text record) = rule.holds record)
    (alerts : ∀ record ∈ records,
      rule.alerts record = [{ message := template.message (text record) }]) :
    (⟨.leaf (.ofField label metadata operation), .field metadata.path template⟩ :
      Contribution).GoesBy now values records rule where
  sound := FieldQuery.evaluate_ne_fault now fit _
  isMatch_iff := by
    rw [Query.evaluate_leaf,
      FieldQuery.isMatch_evaluate_iff (Operation.highlights_of_records isRecorded) fit]
    show (∃ value ∈ values.get metadata.path, operation.holds now value = true) ↔ _
    rw [columnar]
    constructor
    · rintro ⟨_, member, isHeld⟩
      obtain ⟨record, inRecords, rfl⟩ := List.mem_map.1 member
      exact ⟨record, inRecords, (holds record inRecords).symm.trans isHeld⟩
    · rintro ⟨record, inRecords, complies⟩
      exact ⟨text record, List.mem_map_of_mem inRecords,
        (holds record inRecords).trans complies⟩
  alerts := by
    have found :
        (FieldQuery.evaluate now (.ofField label metadata operation)
              (values.get metadata.path)).found.get metadata.path =
          (records.filter rule.holds).map text := by
      rw [columnar]
      refine (FieldQuery.get_found_evaluate isRecorded fit _).trans ?_
      rw [List.filter_map]
      exact congrArg _ (List.filter_congr holds)
    show template.alerts _ = _
    rw [Query.evaluate_leaf]
    refine (congrArg template.alerts found).trans ?_
    rw [FieldTemplate.alerts, each, RecordRule.tell, List.flatMap_congr fun record member =>
      alerts record (List.mem_filter.1 member).1, ← List.map_eq_flatMap]
    simp

end WorkloadPolicy
