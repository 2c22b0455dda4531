import WorkloadPolicy.Check.Basic
import WorkloadPolicy.Proofs.Split
import WorkloadPolicy.Text

/-!
# Highlight keys

A highlight key puts the name of a check in front of a path.  As long as names
contain no slash, a key determines both; as long as paths contain none, it
determines the path.  A printer reads nothing but the highlights under its own
keys.
-/

namespace WorkloadPolicy

theorem toList_highlightKey (check path : String) :
    (highlightKey check path).toList = check.toList ++ '/' :: path.toList := by
  simp [highlightKey]

/-- A key determines the check and the path if names contain no slash. -/
theorem highlightKey_inj
    {check other path otherPath : String}
    (unmarked : '/' ∉ check.toList)
    (otherUnmarked : '/' ∉ other.toList)
    (equal : highlightKey check path = highlightKey other otherPath) :
    check = other ∧ path = otherPath := by
  have characters := congrArg String.toList equal
  rw [toList_highlightKey, toList_highlightKey] at characters
  have cuts := congrArg (Text.cutChars '/') characters
  rw [Text.cutChars_append unmarked, Text.cutChars_append otherUnmarked] at cuts
  simpa [String.toList_inj] using cuts

theorem highlightKey_right_injective (check : String) :
    Function.Injective (highlightKey check) := by
  intro path other equal
  simpa [highlightKey] using equal

theorem highlightKey_left_injective (path : String) :
    Function.Injective fun check => highlightKey check path := by
  intro check other equal
  have characters := congrArg String.toList equal
  simp only [toList_highlightKey] at characters
  exact String.toList_inj.1 (List.append_left_injective _ characters)

/-- A key determines the path if paths contain no slash. -/
theorem path_of_highlightKey_eq
    {check other path otherPath : String}
    (unmarked : '/' ∉ path.toList)
    (otherUnmarked : '/' ∉ otherPath.toList)
    (equal : highlightKey check path = highlightKey other otherPath) :
    path = otherPath := by
  have characters := congrArg (fun text => text.toList.reverse) equal
  simp only [toList_highlightKey, List.reverse_append, List.reverse_cons, List.append_assoc,
    List.singleton_append] at characters
  have cuts := congrArg (Text.cutChars '/') characters
  rw [Text.cutChars_append (by simpa using unmarked),
    Text.cutChars_append (by simpa using otherUnmarked)] at cuts
  simpa [String.toList_inj] using congrArg Prod.fst cuts

theorem slash_mem_highlightKey (check path : String) :
    '/' ∈ (highlightKey check path).toList := by
  simp [toList_highlightKey]

namespace Query

/-- A predicate is plain when its leaves stand under their own paths. -/
def IsPlain (query : Query) : Prop :=
  ∀ field ∈ query.fields, field.key = field.path

/-! ## Keyed predicates -/

@[simp] theorem keyed_leaf (check : String) (field : FieldQuery) :
    (leaf field).keyed check = leaf (field.keyed check) := rfl

@[simp] theorem keyed_linked (check : String) (fields : List FieldQuery) :
    (linked fields).keyed check = linked (fields.map (·.keyed check)) := rfl

@[simp] theorem keyed_conjunction (check : String) (children : List Query) :
    (conjunction children).keyed check = conjunction (children.map (keyed check)) := by
  rw [keyed, keyedAll_eq_map]

@[simp] theorem keyed_disjunction (check : String) (children : List Query) :
    (disjunction children).keyed check = disjunction (children.map (keyed check)) := by
  rw [keyed, keyedAll_eq_map]

/-- Keying commutes with disjunction. -/
theorem any?_map_keyed
    (check : String)
    {queries : List Query}
    {query : Query}
    (combined : any? queries = some query) :
    any? (queries.map (keyed check)) = some (query.keyed check) := by
  match queries, combined with
  | [_], rfl => rfl
  | _ :: _ :: _, rfl => rw [keyed_disjunction]; rfl

theorem groups_keyed (check : String) (query : Query) :
    (query.keyed check).groups = query.groups.map (List.map (·.keyed check)) := by
  induction query with
  | leaf field => simp
  | linked fields => simp
  | conjunction children hypothesis =>
      rw [keyed_conjunction, groups_conjunction, groups_conjunction, List.flatMap_map,
        List.map_flatMap]
      exact List.flatMap_congr hypothesis
  | disjunction children hypothesis =>
      rw [keyed_disjunction, groups_disjunction, groups_disjunction, List.flatMap_map,
        List.map_flatMap]
      exact List.flatMap_congr hypothesis

theorem fields_keyed (check : String) (query : Query) :
    (query.keyed check).fields = query.fields.map (·.keyed check) := by
  rw [fields, groups_keyed, fields, List.map_flatten]

theorem Populated.keyed
    {query : Query}
    (check : String)
    (populated : query.Populated) :
    (query.keyed check).Populated := by
  induction populated with
  | leaf field => exact .leaf _
  | linked inhabited => exact .linked (by simpa using inhabited)
  | conjunction inhabited _ hypothesis =>
      rw [keyed_conjunction]
      refine .conjunction (by simpa using inhabited) ?_
      simpa using hypothesis
  | disjunction inhabited _ hypothesis =>
      rw [keyed_disjunction]
      refine .disjunction (by simpa using inhabited) ?_
      simpa using hypothesis

end Query

namespace Printer

/-! ## What printers read -/

mutual

/-- The keys whose highlights a printer reads. -/
def keys : Printer → List String
  | field key _ => [key]
  | linked keys _ => keys
  | fixed _ => []
  | concat printers => keysOfAll printers

/-- The keys that several printers read. -/
def keysOfAll : List Printer → List String
  | [] => []
  | printer :: printers => keys printer ++ keysOfAll printers

end

theorem keysOfAll_eq_flatMap (printers : List Printer) :
    keysOfAll printers = printers.flatMap keys := by
  induction printers with
  | nil => rfl
  | cons printer printers hypothesis => simp [keysOfAll, hypothesis]

@[simp] theorem keys_concat (printers : List Printer) :
    (concat printers).keys = printers.flatMap keys :=
  keysOfAll_eq_flatMap printers

@[simp] theorem alerts_concat (highlights : Highlights) (printers : List Printer) :
    (concat printers).alerts highlights = printers.flatMap (alerts highlights) :=
  alertsOfAll_eq_flatMap highlights printers

theorem keys_keyed (check : String) (printer : Printer) :
    (printer.keyed check).keys = printer.keys.map (highlightKey check) := by
  induction printer with
  | field key template => rfl
  | linked keys template => rfl
  | fixed message => rfl
  | concat printers hypothesis =>
      rw [keyed, keyedAll_eq_map, keys_concat, keys_concat, List.flatMap_map, List.map_flatMap]
      exact List.flatMap_congr hypothesis

/-- Highlights that agree under the keys of a printer give the same alerts. -/
theorem alerts_congr
    {printer : Printer}
    {left right : Highlights}
    (agree : ∀ key ∈ printer.keys, left.get key = right.get key) :
    printer.alerts left = printer.alerts right := by
  induction printer with
  | field key template => rw [alerts, alerts, agree key (by simp [keys])]
  | linked keys template =>
      have columns : keys.map left.get = keys.map right.get := List.map_congr_left agree
      rw [alerts, alerts, columns]
  | fixed message => rfl
  | concat printers hypothesis =>
      rw [alerts_concat, alerts_concat]
      apply List.flatMap_congr
      intro printer member
      apply hypothesis printer member
      intro key inPrinter
      apply agree key
      rw [keys_concat]
      exact List.mem_flatMap.2 ⟨printer, member, inPrinter⟩

/-- Several printers, collapsed or not, read what each of them reads. -/
theorem keys_of_concat?_eq_some
    {printers : List Printer}
    {printer : Printer}
    (combined : concat? printers = some printer) :
    printer.keys = printers.flatMap keys := by
  match printers, combined with
  | [_], rfl => simp
  | _ :: _ :: _, rfl => exact keys_concat _

/-- Several printers, collapsed or not, speak in order. -/
theorem alerts_of_concat?_eq_some
    {printers : List Printer}
    {printer : Printer}
    (combined : concat? printers = some printer)
    (highlights : Highlights) :
    printer.alerts highlights = printers.flatMap (alerts highlights) := by
  match printers, combined with
  | [_], rfl => simp
  | _ :: _ :: _, rfl => exact alerts_concat highlights _

end Printer
end WorkloadPolicy
