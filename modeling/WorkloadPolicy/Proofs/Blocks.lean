import Mathlib.Data.List.Flatten
import Mathlib.Data.List.Perm.Subperm
import WorkloadPolicy.Proofs.Telling

/-!
# Blocks of highlights

A run puts the highlights of its entities one after the other, a block for each.  Most
messages are about one value or one row of one block, so that more blocks tell no less,
and the order of the blocks is that of the messages only.  Messages that are given once
are given for any block, and fixed ones whatever the blocks.
-/

namespace WorkloadPolicy

open List (Subperm)

/-! ## Lists with multiplicities -/

section Lists

variable {α β : Type}

/-- What is collected from fewer items is less. -/
theorem subperm_flatMap
    {fewer more : List α}
    (less : Subperm fewer more)
    (collect : α → List β) :
    Subperm (fewer.flatMap collect) (more.flatMap collect) := by
  obtain ⟨items, same, within⟩ := less
  exact ⟨items.flatMap collect, same.flatMap_right collect, within.flatMap collect⟩

/-- What is collected is less if it is less from each item. -/
theorem subperm_flatMap_of_forall
    {items : List α}
    {fewer more : α → List β}
    (each : ∀ item ∈ items, Subperm (fewer item) (more item)) :
    Subperm (items.flatMap fewer) (items.flatMap more) := by
  induction items with
  | nil => exact List.nil_subperm
  | cons item items hypothesis =>
      obtain ⟨first, others⟩ := List.forall_mem_cons.1 each
      exact first.append (hypothesis others)

theorem subperm_map
    {fewer more : List α}
    (less : Subperm fewer more)
    (change : α → β) :
    Subperm (fewer.map change) (more.map change) := by
  obtain ⟨items, same, within⟩ := less
  exact ⟨items.map change, same.map change, within.map change⟩

end Lists

/-! ## Templates and printers -/

namespace FieldTemplate

/-- A template that speaks once says the same of every value. -/
theorem message_eq_of_isOnce
    {template : FieldTemplate}
    (once : template.isOnce = true)
    (value other : String) :
    template.message value = template.message other := by
  cases template <;> first | rfl | simp [isOnce] at once

/-- Of more values no less is told. -/
theorem subperm_alerts
    (template : FieldTemplate)
    {fewer more : List String}
    (less : Subperm fewer more) :
    Subperm (template.alerts fewer) (template.alerts more) := by
  cases once : template.isOnce with
  | false =>
      simp only [alerts, once]
      exact subperm_map less _
  | true =>
      cases fewer with
      | nil =>
          have silent : template.alerts [] = [] := (template.alerts_eq_nil_iff []).2 rfl
          rw [silent]
          exact List.nil_subperm
      | cons value fewer =>
          obtain ⟨other, rest, rfl⟩ :=
            List.exists_cons_of_ne_nil (List.ne_nil_of_mem (less.subset List.mem_cons_self))
          have same : template.alerts (value :: fewer) = template.alerts (other :: rest) := by
            simp [alerts, once, message_eq_of_isOnce once value other]
          rw [same]

end FieldTemplate

namespace LeafCheck

variable
  {check : LeafCheck}
  {fields : PolicyFields}
  {registry : FieldRegistry}
  {part : Contribution}

/-- More blocks of highlights that are level for a check tell no less of it. -/
theorem subperm_alerts
    (contributed : check.contribution? fields registry = .ok (some part))
    {fewer more : List Highlights}
    (level : ∀ block ∈ more, ∀ group ∈ part.query.groups, block.Level (group.map (·.key)))
    (less : Subperm fewer more) :
    Subperm (part.printer.alerts (.concat fewer)) (part.printer.alerts (.concat more)) := by
  obtain ⟨plain, run, rfl⟩ := contribution?_eq_ok_some_iff.1 contributed
  have ofFixed {message : String} (printer : plain.printer = .fixed message) :
      (plain.keyed check.name).printer = .fixed message := by
    rw [Contribution.keyed, printer, Printer.keyed]
  cases check with
  | field check =>
      obtain ⟨demand, metadata, operations, -, -, served⟩ := served_of_field_contributed run
      rcases served.printer with ⟨message, printer⟩ | ⟨⟨template, printer⟩, -⟩
      · rw [ofFixed printer]
        exact .refl _
      · simp only [Contribution.keyed, printer, Printer.keyed, Printer.alerts,
          Highlights.get_concat]
        exact template.subperm_alerts (subperm_flatMap less _)
  | linked check =>
      obtain ⟨demand, leaves, -, served⟩ := served_of_linked_contributed run
      have levelled :
          ∀ block ∈ more, block.Level ((leaves.map (·.keyed check.name)).map (·.key)) := by
        intro block member
        apply level block member
        rw [served.query_keyed]
        exact List.mem_singleton_self _
      have printer :
          (plain.keyed (linked check).name).printer =
            .linked ((leaves.map (·.keyed check.name)).map (·.key)) demand.template :=
        served.printer_keyed check.name
      rw [printer, Printer.alerts, Printer.alerts, rowsOfColumns_concat levelled,
        rowsOfColumns_concat fun block member => levelled block (less.subset member)]
      exact subperm_flatMap (subperm_flatMap less _) _
  | permission store =>
      obtain ⟨accountFields, -, -, message, printer⟩ := served_of_permission_contributed run
      rw [ofFixed printer]
      exact .refl _

end LeafCheck

/-- More blocks of highlights that are level for a tree of checks tell no less of it. -/
theorem Check.subperm_alerts
    {check : Check}
    {fields : PolicyFields}
    {registry : FieldRegistry}
    {contribution : Contribution}
    (contributed : check.contribution? fields registry = .ok (some contribution))
    {fewer more : List Highlights}
    (level : ∀ block ∈ more, ∀ group ∈ contribution.query.groups,
      block.Level (group.map (·.key)))
    (less : Subperm fewer more) :
    Subperm (contribution.printer.alerts (.concat fewer))
      (contribution.printer.alerts (.concat more)) := by
  rw [alerts_of_contribution? contributed, alerts_of_contribution? contributed]
  apply subperm_flatMap_of_forall
  intro part member
  obtain ⟨leaf, -, leafRun⟩ := mem_contributed_iff.1 member
  refine LeafCheck.subperm_alerts leafRun (fun block inMore group inPart => ?_) less
  apply level block inMore
  rw [groups_of_contribution? contributed]
  exact List.mem_flatMap.2 ⟨part, member, inPart⟩

end WorkloadPolicy
