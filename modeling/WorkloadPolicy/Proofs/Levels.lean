import WorkloadPolicy.Proofs.Keying

/-!
# Columns of equal length

A linked printer tells nothing when the values under its keys differ in count.
Highlights are level under some keys when they do not.  Every row that linked
leaves match adds one value under each of their keys, so that what an
evaluation finds is level under the keys of a group as long as no other group
uses some of these keys.
-/

namespace WorkloadPolicy

/-- Columns of one length form a row for each of their places. -/
theorem rowsOfColumns_eq
    {columns : List (List String)}
    {count : Nat}
    (inhabited : columns ≠ [])
    (level : ∀ column ∈ columns, column.length = count) :
    rowsOfColumns columns =
      (List.range count).map fun place => columns.map fun column => (column[place]?).getD "" := by
  cases columns with
  | nil => exact absurd rfl inhabited
  | cons first others =>
      obtain ⟨firstLength, othersLength⟩ := List.forall_mem_cons.1 level
      have equal : (others.all fun column => column.length == first.length) = true := by
        rw [List.all_eq_true]
        intro column member
        rw [othersLength column member, firstLength, beq_self_eq_true]
      rw [rowsOfColumns, if_pos equal, firstLength]

theorem rowsOfColumns_ne_nil
    {columns : List (List String)}
    {count : Nat}
    (inhabited : columns ≠ [])
    (level : ∀ column ∈ columns, column.length = count)
    (positive : 0 < count) :
    rowsOfColumns columns ≠ [] := by
  rw [rowsOfColumns_eq inhabited level, Ne, List.map_eq_nil_iff, List.range_eq_nil]
  omega

/-- How many rows some columns form depends on their lengths only. -/
theorem length_rowsOfColumns_congr
    {left right : List (List String)}
    (lengths : left.map List.length = right.map List.length) :
    (rowsOfColumns left).length = (rowsOfColumns right).length := by
  cases left with
  | nil =>
      rw [List.map_nil, eq_comm, List.map_eq_nil_iff] at lengths
      rw [lengths]
  | cons first others =>
      cases right with
      | nil => simp at lengths
      | cons otherFirst otherOthers =>
          obtain ⟨sameFirst, sameOthers⟩ := List.cons.inj lengths
          have ofLengths (columns : List (List String)) (count : Nat) :
              (columns.all fun column => column.length == count) =
                (columns.map List.length).all (· == count) := by
            rw [List.all_map]
            rfl
          simp only [rowsOfColumns, ofLengths, sameFirst, sameOthers]
          split <;> simp

namespace Highlights

/-- All of some keys have the same count of values. -/
def Level (highlights : Highlights) (keys : List String) : Prop :=
  ∃ count, ∀ key ∈ keys, (highlights.get key).length = count

namespace Level

theorem of_silent
    {highlights : Highlights}
    {keys : List String}
    (silent : ∀ key ∈ keys, highlights.get key = []) :
    highlights.Level keys :=
  ⟨0, fun key member => by rw [silent key member, List.length_nil]⟩

theorem empty (keys : List String) : Level {} keys :=
  of_silent fun _ _ => rfl

/-- Any highlights are level under one key. -/
theorem singleton (highlights : Highlights) (key : String) : highlights.Level [key] :=
  ⟨_, fun _ member => by rw [List.mem_singleton.1 member]⟩

theorem append
    {first second : Highlights}
    {keys : List String}
    (firstLevel : first.Level keys)
    (secondLevel : second.Level keys) :
    (first ++ second).Level keys := by
  obtain ⟨firstCount, firstLength⟩ := firstLevel
  obtain ⟨secondCount, secondLength⟩ := secondLevel
  refine ⟨firstCount + secondCount, fun key member => ?_⟩
  rw [get_append, List.length_append, firstLength key member, secondLength key member]

theorem concat
    {parts : List Highlights}
    {keys : List String}
    (each : ∀ part ∈ parts, part.Level keys) :
    (Highlights.concat parts).Level keys := by
  induction parts with
  | nil => exact empty keys
  | cons part parts hypothesis =>
      obtain ⟨first, others⟩ := List.forall_mem_cons.1 each
      exact first.append (hypothesis others)

end Level
end Highlights

/-! ## Rows of level highlights -/

section Rows

variable {keys : List String}

theorem rowsOfColumns_empty (keys : List String) :
    rowsOfColumns (keys.map (Highlights.get {})) = [] := by
  cases keys with
  | nil => rfl
  | cons key keys =>
      have level : ∀ column ∈ (key :: keys).map (Highlights.get {}), column.length = 0 := by
        simp
      rw [rowsOfColumns_eq (by simp) level]
      rfl

/-- Level highlights one after the other form the rows of both. -/
theorem rowsOfColumns_append
    {first second : Highlights}
    (firstLevel : first.Level keys)
    (secondLevel : second.Level keys) :
    rowsOfColumns (keys.map (first ++ second).get) =
      rowsOfColumns (keys.map first.get) ++ rowsOfColumns (keys.map second.get) := by
  cases keys with
  | nil => rfl
  | cons key keys =>
      obtain ⟨firstCount, firstLength⟩ := firstLevel
      obtain ⟨secondCount, secondLength⟩ := secondLevel
      have inhabited (highlights : Highlights) : (key :: keys).map highlights.get ≠ [] := by simp
      have bothLength :
          ∀ other ∈ key :: keys,
            ((first ++ second).get other).length = firstCount + secondCount := by
        intro other member
        rw [Highlights.get_append, List.length_append, firstLength other member,
          secondLength other member]
      rw [rowsOfColumns_eq (inhabited _) (List.forall_mem_map.2 bothLength),
        rowsOfColumns_eq (inhabited _) (List.forall_mem_map.2 firstLength),
        rowsOfColumns_eq (inhabited _) (List.forall_mem_map.2 secondLength), List.range_add,
        List.map_append, List.map_map]
      congr 1
      · apply List.map_congr_left
        intro place within
        simp only [List.map_map]
        apply List.map_congr_left
        intro other member
        rw [List.mem_range, ← firstLength other member] at within
        simp [List.getElem?_append_left within]
      · apply List.map_congr_left
        intro place _
        simp only [Function.comp_apply, List.map_map]
        apply List.map_congr_left
        intro other member
        simp [List.getElem?_append_right, firstLength other member]

/-- Level highlights of several parts form the rows of each, in order. -/
theorem rowsOfColumns_concat
    {parts : List Highlights}
    (each : ∀ part ∈ parts, part.Level keys) :
    rowsOfColumns (keys.map (Highlights.concat parts).get) =
      parts.flatMap fun part => rowsOfColumns (keys.map part.get) := by
  induction parts with
  | nil => exact rowsOfColumns_empty keys
  | cons part parts hypothesis =>
      obtain ⟨first, others⟩ := List.forall_mem_cons.1 each
      rw [Highlights.concat_cons, rowsOfColumns_append first (.concat others), hypothesis others,
        List.flatMap_cons]

end Rows

/-- Whether a printer has anything to tell depends on how many values its keys have, not
on the values. -/
theorem Printer.alerts_eq_nil_iff_of_length_eq
    {printer : Printer}
    {left right : Highlights}
    (lengths : ∀ key, (left.get key).length = (right.get key).length) :
    printer.alerts left = [] ↔ printer.alerts right = [] := by
  induction printer with
  | field key template =>
      rw [alerts, alerts, FieldTemplate.alerts_eq_nil_iff, FieldTemplate.alerts_eq_nil_iff,
        ← List.length_eq_zero_iff, ← List.length_eq_zero_iff, lengths]
  | linked keys template =>
      have rows :
          (rowsOfColumns (keys.map left.get)).length =
            (rowsOfColumns (keys.map right.get)).length := by
        apply length_rowsOfColumns_congr
        rw [List.map_map, List.map_map]
        exact List.map_congr_left fun key _ => lengths key
      have silent (highlights : Highlights) :
          (linked keys template).alerts highlights = [] ↔
            (rowsOfColumns (keys.map highlights.get)).length = 0 ∨ template.speaks = false := by
        rw [alerts, List.flatMap_eq_nil_iff]
        simp only [LinkedTemplate.alerts_eq_nil_iff]
        cases rowsOfColumns (keys.map highlights.get) with
        | nil => simp
        | cons row rows => simpa using fun mute _ _ => mute
      rw [silent, silent, rows]
  | fixed message => simp [alerts]
  | concat printers hypothesis =>
      rw [alerts_concat, alerts_concat, List.flatMap_eq_nil_iff, List.flatMap_eq_nil_iff]
      exact forall₂_congr hypothesis

/-- A linked printer tells something when its keys have values, all equally
many. -/
theorem Printer.alerts_linked_ne_nil
    {keys : List String}
    {template : LinkedTemplate}
    {highlights : Highlights}
    (speaks : template.speaks = true)
    (inhabited : keys ≠ [])
    (level : highlights.Level keys)
    (present : ∀ key ∈ keys, highlights.get key ≠ []) :
    (linked keys template).alerts highlights ≠ [] := by
  obtain ⟨count, lengths⟩ := level
  obtain ⟨key, member⟩ := List.exists_mem_of_ne_nil _ inhabited
  have positive : 0 < count := by
    rw [← lengths key member]
    exact List.length_pos_of_ne_nil (present key member)
  have rows : rowsOfColumns (keys.map highlights.get) ≠ [] := by
    refine rowsOfColumns_ne_nil (by simpa using inhabited) ?_ positive
    rw [List.forall_mem_map]
    exact lengths
  obtain ⟨row, inRows⟩ := List.exists_mem_of_ne_nil _ rows
  rw [alerts, Ne, List.flatMap_eq_nil_iff]
  intro silent
  have mute := (LinkedTemplate.alerts_eq_nil_iff template row).1 (silent row inRows)
  simp [speaks] at mute

namespace Verdict

theorem level_found_all
    {verdicts : List Verdict}
    {keys : List String}
    (each : ∀ verdict ∈ verdicts, verdict.found.Level keys) :
    (all verdicts).found.Level keys := by
  cases outcome : all verdicts with
  | matched highlights =>
      obtain ⟨-, rfl⟩ := all_eq_matched_iff.1 outcome
      exact .concat (by simpa using each)
  | unmatched => exact .empty keys
  | fault => exact .empty keys

theorem level_found_any
    {verdicts : List Verdict}
    {keys : List String}
    (each : ∀ verdict ∈ verdicts, verdict.found.Level keys) :
    (any verdicts).found.Level keys := by
  cases outcome : any verdicts with
  | matched highlights =>
      obtain ⟨-, -, rfl⟩ := any_eq_matched_iff.1 outcome
      exact .concat (by simpa using each)
  | unmatched => exact .empty keys
  | fault => exact .empty keys

end Verdict

/-! ## Rows of linked leaves -/

namespace LinkedRow

/-- A row has one value under each key of its leaves, if they are distinct. -/
theorem length_get_highlights
    {row : LinkedRow}
    (distinct : (row.map (·.1.key)).Nodup)
    {key : String}
    (member : key ∈ row.map (·.1.key)) :
    (row.highlights.get key).length = 1 := by
  rw [get_highlights]
  induction row with
  | nil => simp at member
  | cons cell row hypothesis =>
      rw [List.map_cons, List.nodup_cons] at distinct
      rw [List.flatMap_cons, List.length_append]
      by_cases first : cell.1.key = key
      · have others :
            (row.flatMap fun other => if other.1.key = key then [other.2] else []) = [] := by
          rw [List.flatMap_eq_nil_iff]
          intro other inRow
          apply if_neg
          intro same
          apply distinct.1
          rw [first, ← same]
          exact List.mem_map_of_mem inRow
        rw [others, if_pos first]
        rfl
      · rw [if_neg first, List.length_nil, Nat.zero_add]
        apply hypothesis distinct.2
        rw [List.map_cons, List.mem_cons] at member
        exact member.resolve_left (Ne.symm first)

theorem keys_of_mem_ofFields
    {fields : List FieldQuery}
    {values : FieldValues}
    {row : LinkedRow}
    (member : row ∈ ofFields fields values) :
    row.map (·.1.key) = fields.map (·.key) := by
  rw [← map_fst_of_mem_ofFields member, List.map_map]
  rfl

end LinkedRow

/-- Linked leaves find as many values under each of their keys as there are rows
that hold. -/
theorem length_get_found_evaluateRows
    {now : Calendar.Instant}
    {fields : List FieldQuery}
    {values : FieldValues}
    (distinct : (fields.map (·.key)).Nodup)
    (sound : evaluateRows now (LinkedRow.ofFields fields values) ≠ .fault)
    {key : String}
    (member : key ∈ fields.map (·.key)) :
    ((evaluateRows now (LinkedRow.ofFields fields values)).found.get key).length =
      ((LinkedRow.ofFields fields values).filter fun row =>
        row.test now == some true).length := by
  rw [found_evaluateRows sound, Highlights.get_concat, List.flatMap_map, List.length_flatMap]
  have ones :
      ∀ row ∈ (LinkedRow.ofFields fields values).filter fun row => row.test now == some true,
        (row.highlights.get key).length = 1 := by
    intro row hit
    have keys := LinkedRow.keys_of_mem_ofFields (List.mem_filter.1 hit).1
    refine LinkedRow.length_get_highlights ?_ ?_
    · rw [keys]
      exact distinct
    · rw [keys]
      exact member
  rw [List.map_congr_left ones]
  simp

/-! ## Groups of leaves -/

namespace Query

/-- A group of leaves does not disturb some keys on some values: the keys are
just its own, or it has none of them, or it is a leaf without values. -/
inductive Spares
    (values : FieldValues)
    (keys : List String)
    (group : List FieldQuery) : Prop
  | own (equal : group.map (·.key) = keys)
  | foreign (disjoint : ∀ field ∈ group, field.key ∉ keys)
  | idle (field : FieldQuery) (single : group = [field]) (none : values.get field.path = [])

/-- What a predicate finds is level under keys that each of its groups spares. -/
theorem level_found
    {now : Calendar.Instant}
    {values : FieldValues}
    {keys : List String}
    (distinct : keys.Nodup)
    {query : Query}
    (spares : ∀ group ∈ query.groups, Spares values keys group) :
    (evaluate now values query).found.Level keys := by
  induction query with
  | leaf field =>
      rw [evaluate_leaf]
      cases spares [field] (by simp) with
      | own equal =>
          rw [← equal]
          exact .singleton _ field.key
      | foreign disjoint =>
          refine .of_silent fun key member => ?_
          refine FieldQuery.get_found_of_ne now ?_ _
          rintro rfl
          exact disjoint field (by simp) member
      | idle other single none =>
          cases single
          rw [none, FieldQuery.found_of_no_values]
          exact .empty keys
  | linked fields =>
      rw [evaluate_linked]
      cases spares fields (by simp) with
      | own equal =>
          cases equal
          by_cases sound : evaluateRows now (LinkedRow.ofFields fields values) = .fault
          · rw [sound]
            exact .empty _
          · exact ⟨_, fun key member =>
              length_get_found_evaluateRows distinct sound member⟩
      | foreign disjoint =>
          refine .of_silent fun key member => ?_
          apply get_found_evaluateRows_of_not_mem
          intro inKeys
          obtain ⟨field, inFields, rfl⟩ := List.mem_map.1 inKeys
          exact disjoint field inFields member
      | idle other single none =>
          cases single
          have noRows : LinkedRow.ofFields [other] values = [] := by
            simp [LinkedRow.ofFields, none]
          rw [noRows]
          exact .empty keys
  | conjunction children hypothesis =>
      rw [evaluate_conjunction]
      apply Verdict.level_found_all
      rw [List.forall_mem_map]
      intro child member
      apply hypothesis child member
      intro group inChild
      apply spares group
      rw [groups_conjunction]
      exact List.mem_flatMap.2 ⟨child, member, inChild⟩
  | disjunction children hypothesis =>
      rw [evaluate_disjunction]
      apply Verdict.level_found_any
      rw [List.forall_mem_map]
      intro child member
      apply hypothesis child member
      intro group inChild
      apply spares group
      rw [groups_disjunction]
      exact List.mem_flatMap.2 ⟨child, member, inChild⟩

end Query
end WorkloadPolicy
