import Mathlib.Data.List.Basic
import WorkloadPolicy.Proofs.Verdict

/-!
# What an evaluation looks at

A predicate consists of groups of leaves: a leaf by itself, or linked leaves
together.  Its verdict depends on the values under the paths of these leaves
alone, and its highlights stand under their keys alone.  It is a fault only if
a leaf asks for an age that does not fit a duration.
-/

namespace WorkloadPolicy
namespace Query

mutual

/-- The groups of leaves that are tested together, in order. -/
def groups : Query → List (List FieldQuery)
  | leaf field => [[field]]
  | linked fields => [fields]
  | conjunction children => groupsOfAll children
  | disjunction children => groupsOfAll children

/-- The groups of several predicates. -/
def groupsOfAll : List Query → List (List FieldQuery)
  | [] => []
  | child :: children => groups child ++ groupsOfAll children

end

/-- The leaves of a predicate in order. -/
def fields (query : Query) : List FieldQuery :=
  query.groups.flatten

theorem groupsOfAll_eq_flatMap (children : List Query) :
    groupsOfAll children = children.flatMap groups := by
  induction children with
  | nil => rfl
  | cons child children hypothesis => simp [groupsOfAll, hypothesis]

@[simp] theorem groups_leaf (field : FieldQuery) : (leaf field).groups = [[field]] := rfl

@[simp] theorem groups_linked (fields : List FieldQuery) :
    (linked fields).groups = [fields] := rfl

@[simp] theorem groups_conjunction (children : List Query) :
    (conjunction children).groups = children.flatMap groups :=
  groupsOfAll_eq_flatMap children

@[simp] theorem groups_disjunction (children : List Query) :
    (disjunction children).groups = children.flatMap groups :=
  groupsOfAll_eq_flatMap children

theorem fields_eq_flatMap_of_groups
    {queries : List Query}
    {query : Query}
    (groups_eq : query.groups = queries.flatMap groups) :
    query.fields = queries.flatMap fields := by
  rw [fields, groups_eq, List.flatten_eq_flatMap, List.flatMap_assoc]
  exact List.flatMap_congr fun part _ => List.flatten_eq_flatMap.symm

@[simp] theorem fields_leaf (field : FieldQuery) : (leaf field).fields = [field] := rfl

@[simp] theorem fields_linked (fields : List FieldQuery) :
    (linked fields).fields = fields := by
  simp [Query.fields]

@[simp] theorem fields_conjunction (children : List Query) :
    (conjunction children).fields = children.flatMap fields :=
  fields_eq_flatMap_of_groups (groups_conjunction children)

@[simp] theorem fields_disjunction (children : List Query) :
    (disjunction children).fields = children.flatMap fields :=
  fields_eq_flatMap_of_groups (groups_disjunction children)

/-- The kinds of entities that a predicate reads are those of its leaves. -/
theorem kinds_eq_map_fields (query : Query) :
    query.kinds = query.fields.map (·.kind) := by
  induction query with
  | leaf field => rfl
  | linked fields => simp [kinds]
  | conjunction children hypothesis =>
      rw [kinds, kindsOfAll_eq_flatMap, fields_conjunction, List.map_flatMap]
      exact List.flatMap_congr hypothesis
  | disjunction children hypothesis =>
      rw [kinds, kindsOfAll_eq_flatMap, fields_disjunction, List.map_flatMap]
      exact List.flatMap_congr hypothesis

section Evaluate

variable (now : Calendar.Instant) (values : FieldValues)

theorem evaluateAll_eq_all (children : List Query) :
    evaluateAll now values children = Verdict.all (children.map (evaluate now values)) := by
  induction children with
  | nil => rfl
  | cons child children hypothesis => simp [evaluateAll, hypothesis]

theorem evaluateAny_eq_any (children : List Query) :
    evaluateAny now values children = Verdict.any (children.map (evaluate now values)) := by
  induction children with
  | nil => rfl
  | cons child children hypothesis => simp [evaluateAny, hypothesis]

@[simp] theorem evaluate_leaf (field : FieldQuery) :
    evaluate now values (leaf field) = field.evaluate now (values.get field.path) := rfl

@[simp] theorem evaluate_linked (fields : List FieldQuery) :
    evaluate now values (linked fields) =
      evaluateRows now (LinkedRow.ofFields fields values) := rfl

@[simp] theorem evaluate_conjunction (children : List Query) :
    evaluate now values (conjunction children) =
      Verdict.all (children.map (evaluate now values)) :=
  evaluateAll_eq_all now values children

@[simp] theorem evaluate_disjunction (children : List Query) :
    evaluate now values (disjunction children) =
      Verdict.any (children.map (evaluate now values)) :=
  evaluateAny_eq_any now values children

/-- The conjunction of some predicates, collapsed or not, is matched when all of
them are. -/
theorem evaluate_of_all?_eq_some
    {queries : List Query}
    {query : Query}
    (combined : all? queries = some query) :
    evaluate now values query = Verdict.all (queries.map (evaluate now values)) := by
  match queries, combined with
  | [_], rfl => simp
  | _ :: _ :: _, rfl => exact evaluate_conjunction now values _

/-- The disjunction of some predicates, collapsed or not, is matched when one of
them is. -/
theorem evaluate_of_any?_eq_some
    {queries : List Query}
    {query : Query}
    (combined : any? queries = some query) :
    evaluate now values query = Verdict.any (queries.map (evaluate now values)) := by
  match queries, combined with
  | [_], rfl => simp
  | _ :: _ :: _, rfl => exact evaluate_disjunction now values _

end Evaluate

@[simp] theorem all?_eq_none_iff {queries : List Query} :
    all? queries = none ↔ queries = [] := by
  match queries with
  | [] => simp [all?]
  | [_] => simp [all?]
  | _ :: _ :: _ => simp [all?]

@[simp] theorem any?_eq_none_iff {queries : List Query} :
    any? queries = none ↔ queries = [] := by
  match queries with
  | [] => simp [any?]
  | [_] => simp [any?]
  | _ :: _ :: _ => simp [any?]

theorem groups_of_all?_eq_some
    {queries : List Query}
    {query : Query}
    (combined : all? queries = some query) :
    query.groups = queries.flatMap groups := by
  match queries, combined with
  | [_], rfl => simp
  | _ :: _ :: _, rfl => exact groups_conjunction _

theorem groups_of_any?_eq_some
    {queries : List Query}
    {query : Query}
    (combined : any? queries = some query) :
    query.groups = queries.flatMap groups := by
  match queries, combined with
  | [_], rfl => simp
  | _ :: _ :: _, rfl => exact groups_disjunction _

theorem fields_of_all?_eq_some
    {queries : List Query}
    {query : Query}
    (combined : all? queries = some query) :
    query.fields = queries.flatMap fields :=
  fields_eq_flatMap_of_groups (groups_of_all?_eq_some combined)

theorem fields_of_any?_eq_some
    {queries : List Query}
    {query : Query}
    (combined : any? queries = some query) :
    query.fields = queries.flatMap fields :=
  fields_eq_flatMap_of_groups (groups_of_any?_eq_some combined)

end Query

/-! ## The values an evaluation reads -/

theorem LinkedRow.ofFields_congr
    {fields : List FieldQuery}
    {left right : FieldValues}
    (agree : ∀ field ∈ fields, left.get field.path = right.get field.path) :
    LinkedRow.ofFields fields left = LinkedRow.ofFields fields right := by
  have columns :
      (fields.map fun field => (field, left.get field.path)) =
        fields.map fun field => (field, right.get field.path) :=
    List.map_congr_left fun field member => by rw [agree field member]
  simp only [LinkedRow.ofFields, columns]

/-- A predicate has the same verdict on values that agree under the paths of its
leaves. -/
theorem Query.evaluate_congr
    {now : Calendar.Instant}
    {query : Query}
    {left right : FieldValues}
    (agree : ∀ field ∈ query.fields, left.get field.path = right.get field.path) :
    evaluate now left query = evaluate now right query := by
  induction query with
  | leaf field =>
      rw [evaluate_leaf, evaluate_leaf, agree field (by simp)]
  | linked fields =>
      rw [evaluate_linked, evaluate_linked,
        LinkedRow.ofFields_congr fun field member => agree field (by simpa using member)]
  | conjunction children hypothesis =>
      rw [evaluate_conjunction, evaluate_conjunction]
      congr 1
      apply List.map_congr_left
      intro child member
      apply hypothesis child member
      intro field inChild
      apply agree field
      rw [fields_conjunction]
      exact List.mem_flatMap.2 ⟨child, member, inChild⟩
  | disjunction children hypothesis =>
      rw [evaluate_disjunction, evaluate_disjunction]
      congr 1
      apply List.map_congr_left
      intro child member
      apply hypothesis child member
      intro field inChild
      apply agree field
      rw [fields_disjunction]
      exact List.mem_flatMap.2 ⟨child, member, inChild⟩

/-! ## The keys of highlights -/

namespace Verdict

theorem get_found_all_eq_nil
    {verdicts : List Verdict}
    {key : String}
    (unused : ∀ verdict ∈ verdicts, verdict.found.get key = []) :
    (all verdicts).found.get key = [] := by
  cases outcome : all verdicts with
  | matched highlights =>
      obtain ⟨-, rfl⟩ := all_eq_matched_iff.1 outcome
      rw [found_matched, Highlights.get_concat, List.flatMap_map, List.flatMap_eq_nil_iff]
      exact unused
  | unmatched => rfl
  | fault => rfl

theorem get_found_any_eq_nil
    {verdicts : List Verdict}
    {key : String}
    (unused : ∀ verdict ∈ verdicts, verdict.found.get key = []) :
    (any verdicts).found.get key = [] := by
  cases outcome : any verdicts with
  | matched highlights =>
      obtain ⟨-, -, rfl⟩ := any_eq_matched_iff.1 outcome
      rw [found_matched, Highlights.get_concat, List.flatMap_map, List.flatMap_eq_nil_iff]
      exact unused
  | unmatched => rfl
  | fault => rfl

end Verdict

namespace FieldQuery

/-- What a leaf finds stands under its key. -/
theorem get_found_of_ne
    (now : Calendar.Instant)
    {field : FieldQuery}
    {key : String}
    (different : field.key ≠ key)
    (values : List String) :
    (field.evaluate now values).found.get key = [] := by
  unfold evaluate
  split
  · split <;> rfl
  · split <;> simp [Verdict.found, different]
  · split <;> rfl
  · split
    · rfl
    · split <;> simp [Verdict.found, different]

/-- A leaf finds nothing where there are no values. -/
theorem found_of_no_values (now : Calendar.Instant) (field : FieldQuery) :
    (field.evaluate now []).found = {} := by
  unfold evaluate
  split <;> simp

end FieldQuery

namespace LinkedRow

theorem get_highlights (row : LinkedRow) (key : String) :
    row.highlights.get key =
      row.flatMap fun cell => if cell.1.key = key then [cell.2] else [] := by
  simp [highlights, Highlights.get, List.flatMap_map]

/-- The leaves of every row are the linked leaves, in order. -/
theorem map_fst_of_mem_ofFields
    {fields : List FieldQuery}
    {values : FieldValues}
    {row : LinkedRow}
    (member : row ∈ ofFields fields values) :
    row.map (·.1) = fields := by
  simp only [ofFields, List.mem_map] at member
  obtain ⟨index, -, rfl⟩ := member
  rw [List.map_map, List.map_map]
  exact List.map_id fields

end LinkedRow

/-- The highlights of linked leaves are those of the rows that hold, one after
the other. -/
theorem found_evaluateRows
    {now : Calendar.Instant}
    {rows : List LinkedRow}
    (sound : evaluateRows now rows ≠ .fault) :
    (evaluateRows now rows).found =
      Highlights.concat
        ((rows.filter fun row => row.test now == some true).map LinkedRow.highlights) := by
  have folded (hits : List LinkedRow) (start : Highlights) :
      hits.foldl (fun found row => found ++ row.highlights) start =
        start ++ Highlights.concat (hits.map LinkedRow.highlights) := by
    induction hits generalizing start with
    | nil => simp
    | cons hit hits hypothesis => simp [hypothesis, Highlights.append_assoc]
  unfold evaluateRows at sound ⊢
  split
  · rename_i isFault
    simp [isFault] at sound
  · split
    · rename_i none
      simp [none]
    · rename_i some
      rw [Verdict.found_matched, folded, Highlights.empty_append]

/-- What linked leaves find under a key that is none of theirs. -/
theorem get_found_evaluateRows_of_not_mem
    {now : Calendar.Instant}
    {fields : List FieldQuery}
    {values : FieldValues}
    {key : String}
    (foreign : key ∉ fields.map (·.key)) :
    (evaluateRows now (LinkedRow.ofFields fields values)).found.get key = [] := by
  by_cases sound : evaluateRows now (LinkedRow.ofFields fields values) = .fault
  · rw [sound]
    rfl
  · rw [found_evaluateRows sound, Highlights.get_concat, List.flatMap_map,
      List.flatMap_eq_nil_iff]
    intro row hit
    rw [LinkedRow.get_highlights, List.flatMap_eq_nil_iff]
    intro cell inRow
    have inFields : cell.1 ∈ fields := by
      rw [← LinkedRow.map_fst_of_mem_ofFields (List.mem_filter.1 hit).1]
      exact List.mem_map_of_mem inRow
    have different : cell.1.key ≠ key := by
      rintro rfl
      exact foreign (List.mem_map_of_mem inFields)
    rw [if_neg different]

/-- A predicate finds nothing under a key that is none of its leaves'. -/
theorem Query.get_found_of_not_mem
    (now : Calendar.Instant)
    (values : FieldValues)
    {query : Query}
    {key : String}
    (foreign : key ∉ query.fields.map (·.key)) :
    (evaluate now values query).found.get key = [] := by
  induction query with
  | leaf field =>
      refine FieldQuery.get_found_of_ne now ?_ _
      rintro rfl
      simp at foreign
  | linked fields =>
      apply get_found_evaluateRows_of_not_mem
      simpa using foreign
  | conjunction children hypothesis =>
      rw [evaluate_conjunction]
      apply Verdict.get_found_all_eq_nil
      simp only [fields_conjunction, List.map_flatMap, List.mem_flatMap, not_exists,
        not_and] at foreign
      simpa using fun child member => hypothesis child member (foreign child member)
  | disjunction children hypothesis =>
      rw [evaluate_disjunction]
      apply Verdict.get_found_any_eq_nil
      simp only [fields_disjunction, List.map_flatMap, List.mem_flatMap, not_exists,
        not_and] at foreign
      simpa using fun child member => hypothesis child member (foreign child member)

/-! ## Faults -/

/-- Whether an operation can be tested on every value: an age must fit a
duration. -/
def Operation.agesFit : Operation → Bool
  | olderThanDays days => Calendar.Instant.dayCountFits days
  | _ => true

theorem Operation.faults_eq_false
    {operation : Operation}
    (fit : operation.agesFit = true)
    (value : String) :
    operation.faults value = false := by
  cases operation <;> simp_all [agesFit, faults]

theorem FieldQuery.evaluate_ne_fault
    (now : Calendar.Instant)
    {field : FieldQuery}
    (fit : field.operation.agesFit = true)
    (values : List String) :
    field.evaluate now values ≠ .fault := by
  unfold evaluate
  split
  · split <;> simp
  · split <;> simp
  · split <;> simp
  · rw [if_neg (by simp [Operation.faults_eq_false fit])]
    split <;> simp

theorem LinkedRow.test_ne_none
    (now : Calendar.Instant)
    {row : LinkedRow}
    (fit : ∀ cell ∈ row, cell.1.operation.agesFit = true) :
    row.test now ≠ none := by
  induction row with
  | nil => simp [test]
  | cons cell row hypothesis =>
      obtain ⟨first, others⟩ := List.forall_mem_cons.1 fit
      rw [test, Operation.faults_eq_false first]
      simp only [Bool.false_eq_true, ↓reduceIte]
      split
      · exact hypothesis others
      · simp

theorem evaluateRows_ne_fault
    (now : Calendar.Instant)
    {fields : List FieldQuery}
    (fit : ∀ field ∈ fields, field.operation.agesFit = true)
    (values : FieldValues) :
    evaluateRows now (LinkedRow.ofFields fields values) ≠ .fault := by
  have sound : ¬ (LinkedRow.ofFields fields values).any fun row => (row.test now).isNone := by
    simp only [List.any_eq_true, Option.isNone_iff_eq_none, not_exists, not_and]
    intro row member
    apply LinkedRow.test_ne_none now
    intro cell inRow
    apply fit cell.1
    rw [← LinkedRow.map_fst_of_mem_ofFields member]
    exact List.mem_map_of_mem inRow
  rw [evaluateRows, if_neg sound]
  split <;> simp

/-- Rows that can be tested match if some row holds. -/
theorem isMatch_evaluateRows_iff
    {now : Calendar.Instant}
    {rows : List LinkedRow}
    (sound : evaluateRows now rows ≠ .fault) :
    (evaluateRows now rows).isMatch = true ↔ ∃ row ∈ rows, row.test now = some true := by
  unfold evaluateRows at sound ⊢
  split
  · rename_i isFault
    simp [isFault] at sound
  · split
    · rename_i none
      simpa [List.filter_eq_nil_iff] using none
    · rename_i hits
      obtain ⟨row, member⟩ := List.exists_mem_of_ne_nil _ hits
      simpa using ⟨row, by simpa using member⟩

/-- A predicate whose ages fit durations can be evaluated on all values. -/
theorem Query.evaluate_ne_fault
    (now : Calendar.Instant)
    {query : Query}
    (fit : ∀ field ∈ query.fields, field.operation.agesFit = true)
    (values : FieldValues) :
    evaluate now values query ≠ .fault := by
  induction query with
  | leaf field => exact FieldQuery.evaluate_ne_fault now (fit field (by simp)) _
  | linked fields =>
      exact evaluateRows_ne_fault now (fun field member => fit field (by simpa)) values
  | conjunction children hypothesis =>
      rw [evaluate_conjunction]
      apply Verdict.all_ne_fault
      intro member
      obtain ⟨child, inChildren, isFault⟩ := List.mem_map.1 member
      refine hypothesis child inChildren (fun field inChild => fit field ?_) isFault
      rw [fields_conjunction]
      exact List.mem_flatMap.2 ⟨child, inChildren, inChild⟩
  | disjunction children hypothesis =>
      rw [evaluate_disjunction, Ne, Verdict.any_eq_fault_iff]
      intro member
      obtain ⟨child, inChildren, isFault⟩ := List.mem_map.1 member
      refine hypothesis child inChildren (fun field inChild => fit field ?_) isFault
      rw [fields_disjunction]
      exact List.mem_flatMap.2 ⟨child, inChildren, inChild⟩

/-- Where all ages fit, a disjunction matches when some disjunct does. -/
theorem Query.isMatch_of_any?_eq_some
    {now : Calendar.Instant}
    {values : FieldValues}
    {queries : List Query}
    {query : Query}
    (combined : any? queries = some query)
    (fit : ∀ part ∈ queries, ∀ field ∈ part.fields, field.operation.agesFit = true) :
    (evaluate now values query).isMatch = true ↔
      ∃ part ∈ queries, (evaluate now values part).isMatch = true := by
  have sound : Verdict.fault ∉ queries.map (evaluate now values) := by
    intro isFault
    obtain ⟨part, inParts, fault⟩ := List.mem_map.1 isFault
    exact evaluate_ne_fault now (fit part inParts) values fault
  rw [evaluate_of_any?_eq_some now values combined, Verdict.isMatch_any sound, List.any_map,
    List.any_eq_true]
  rfl

end WorkloadPolicy
