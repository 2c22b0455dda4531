import WorkloadPolicy.Report.Template

/-!
# Printers

A printer tells which highlights to read and how to turn them into alerts.  It
never looks at the entities themselves.  Printers are plain data, so that the
printer of a policy can be looked at as well as used.
-/

namespace WorkloadPolicy

/-- How alerts are made from highlights. -/
inductive Printer where
  /-- Tell of the values under a key. -/
  | field (key : String) (template : FieldTemplate)
  /-- Tell of the rows that the values under several keys form. -/
  | linked (keys : List String) (template : LinkedTemplate)
  /-- Give a message whatever was highlighted. -/
  | fixed (message : String)
  /-- Let several printers speak in order. -/
  | concat (printers : List Printer)

/-- The rows formed by columns of values.  Columns of unequal lengths do not
belong together and form no rows. -/
def rowsOfColumns (columns : List (List String)) : List (List String) :=
  match columns with
  | [] => []
  | first :: others =>
      if others.all fun column => column.length == first.length then
        (List.range first.length).map fun index =>
          columns.map fun column => (column[index]?).getD ""
      else
        []

namespace Printer

/-- To prove something of all printers, prove it of every printer whose parts
have it. -/
@[elab_as_elim, induction_eliminator]
theorem induction
    {motive : Printer → Prop}
    (field : ∀ key template, motive (field key template))
    (linked : ∀ keys template, motive (linked keys template))
    (fixed : ∀ message, motive (fixed message))
    (concat : ∀ printers, (∀ printer ∈ printers, motive printer) →
      motive (concat printers)) :
    ∀ printer, motive printer
  | .field key template => field key template
  | .linked keys template => linked keys template
  | .fixed message => fixed message
  | .concat printers =>
      concat printers fun printer _ => induction field linked fixed concat printer

/-- Some printers as one.  A single one stands for itself, and none make no
printer. -/
def concat? : List Printer → Option Printer
  | [] => none
  | [printer] => some printer
  | printers => some (concat printers)

mutual

/-- The printer that reads its highlights under the keys of a check. -/
def keyed (check : String) : Printer → Printer
  | field key template => field (highlightKey check key) template
  | linked keys template => linked (keys.map (highlightKey check)) template
  | fixed message => fixed message
  | concat printers => concat (keyedAll check printers)

/-- Several printers under the keys of a check. -/
def keyedAll (check : String) : List Printer → List Printer
  | [] => []
  | printer :: printers => keyed check printer :: keyedAll check printers

end

mutual

/-- The alerts about highlights. -/
def alerts (highlights : Highlights) : Printer → List Alert
  | field key template => template.alerts (highlights.get key)
  | linked keys template =>
      (rowsOfColumns (keys.map highlights.get)).flatMap fun row => template.alerts row
  | fixed message => [{ message := message }]
  | concat printers => alertsOfAll highlights printers

/-- The alerts of several printers in order. -/
def alertsOfAll (highlights : Highlights) : List Printer → List Alert
  | [] => []
  | printer :: printers => alerts highlights printer ++ alertsOfAll highlights printers

end

theorem keyedAll_eq_map (check : String) (printers : List Printer) :
    keyedAll check printers = printers.map (keyed check) := by
  induction printers with
  | nil => rfl
  | cons printer printers hypothesis => simp [keyedAll, hypothesis]

theorem alertsOfAll_eq_flatMap (highlights : Highlights) (printers : List Printer) :
    alertsOfAll highlights printers = printers.flatMap (alerts highlights) := by
  induction printers with
  | nil => rfl
  | cons printer printers hypothesis => simp [alertsOfAll, hypothesis]

end Printer
end WorkloadPolicy
