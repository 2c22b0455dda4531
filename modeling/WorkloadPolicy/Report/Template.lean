import WorkloadPolicy.Calendar.Rfc3339
import WorkloadPolicy.Decimal.Written
import WorkloadPolicy.Policy.Comparator
import WorkloadPolicy.Predicate.Evaluation
import WorkloadPolicy.Report.Violation

/-!
# Message templates

A template turns highlighted values into alerts.  Field templates take the
values under one key, most of them one value at a time.  Linked templates take
rows of values that belong together.
-/

namespace WorkloadPolicy

/-- The shape of messages about the values of one field. -/
inductive FieldTemplate where
  /-- A value matched a pattern. -/
  | matched (label pattern : String)
  /-- A number compared as told with a threshold. -/
  | threshold (description : String) (comparator : Comparator) (threshold : Float)
  /-- A timestamp was more than so many days ago. -/
  | age (label : String) (days : Int)
  /-- A fixed message, given once if there are values. -/
  | flag (message : String)
  /-- A capability was, or was not, in a list. -/
  | capability (list : String) (present : Bool)
  /-- An entry of a map matched a policy about its key and value. -/
  | mapEntry (subject policy key value : String)
  /-- Processes were found, told once. -/
  | process (aspect pattern : String)

/-- How one column of a row about a volume is told. -/
inductive VolumeColumn where
  /-- The value matched a pattern. -/
  | matched (label pattern : String)
  /-- A fixed message. -/
  | flag (message : String)
  deriving DecidableEq, Repr

/-- The shape of messages about rows of values. -/
inductive LinkedTemplate where
  /-- Rows hold an instruction and its arguments. -/
  | dockerfileLine (instruction value : String)
  /-- Rows hold an identifier and a reference. -/
  | cve (pattern : String)
  /-- Rows hold a score, an identifier and, maybe, a fixed version. -/
  | cvss (comparator : Comparator) (threshold : Float)
  /-- Rows hold a fixed version and an identifier. -/
  | fixedBy (pattern : String)
  /-- Rows hold a type, a read-only mark and a source. -/
  | hostMount (readOnly : Bool)
  /-- Rows hold one value for each column. -/
  | volume (columns : List VolumeColumn)

namespace FieldTemplate

/-- The message that a value matched a pattern. -/
def matchedMessage (label pattern value : String) : String :=
  label ++ " '" ++ value ++ "' matched " ++ pattern

/-- The message that processes were found. -/
def processMessage (aspect pattern : String) : String :=
  "Found " ++ (if aspect == "args" then "processes" else "process") ++ " with " ++
    aspect ++ " matching '" ++ pattern ++ "'"

/-- The message about one value. -/
def message (value : String) : FieldTemplate → String
  | matched label pattern => matchedMessage label pattern value
  | threshold description comparator limit =>
      "The " ++ description ++ " of " ++ value ++ " is " ++ comparator.words ++
        " the threshold of " ++ Decimal.rounded 2 limit
  | age label days =>
      label ++ " '" ++ Calendar.readableTime value ++ "' was more than " ++
        toString days ++ " days ago"
  | flag message => message
  | capability list present =>
      value ++ (if present then " was" else " was not") ++ " in the " ++ list ++ " list"
  | mapEntry subject policy key valuePattern =>
      let entry := splitEntry value
      subject ++ " (key='" ++ entry.1 ++ "', value='" ++ entry.2 ++ "') matched " ++
        policy ++ " (key = '" ++ key ++ "', value = '" ++ valuePattern ++ "')"
  | process aspect pattern => processMessage aspect pattern

/-- Whether a message is given once for all values. -/
def isOnce : FieldTemplate → Bool
  | flag _ | process .. => true
  | _ => false

/-- The alerts about the values of a field. -/
def alerts (template : FieldTemplate) (values : List String) : List Alert :=
  let told := if template.isOnce then values.take 1 else values
  told.map fun value => { message := template.message value }

/-- No value is told of only if there is none. -/
@[simp] theorem alerts_eq_nil_iff (template : FieldTemplate) (values : List String) :
    template.alerts values = [] ↔ values = [] := by
  unfold alerts
  cases values <;> split <;> simp

end FieldTemplate

namespace VolumeColumn

/-- The message about the value in a column. -/
def message (value : String) : VolumeColumn → String
  | matched label pattern => FieldTemplate.matchedMessage label pattern value
  | flag message => message

end VolumeColumn

namespace LinkedTemplate

/-- The value in a column of a row; a missing one is empty. -/
def cell (row : List String) (column : Nat) : String :=
  (row[column]?).getD ""

/-- The alerts about one row. -/
def alerts (row : List String) : LinkedTemplate → List Alert
  | dockerfileLine instruction value =>
      [{ message :=
          "Dockerfile Line '" ++ cell row 0 ++ " " ++ cell row 1 ++
            "' matches the rule " ++ instruction ++ " " ++ value }]
  | cve pattern =>
      [Alert.withLink
        { message := "CVE " ++ cell row 0 ++ " matched regex '" ++ pattern ++ "'" }
        (cell row 1)]
  | cvss comparator threshold =>
      [{ message :=
          "Found a CVSS score of " ++ cell row 0 ++ " (" ++ comparator.words ++ " " ++
            Decimal.rounded 1 threshold ++ ") (cve: " ++ cell row 1 ++ ")" ++
            if 2 < row.length then " (fixed by: " ++ cell row 2 ++ ")" else "" }]
  | fixedBy pattern =>
      [{ message :=
          "Vulnerability " ++ cell row 1 ++ " is fixable in '" ++ cell row 0 ++
            "' matching '" ++ pattern ++ "'" }]
  | hostMount readOnly =>
      [{ message :=
          (if readOnly then "Read-only" else "Writable") ++ " host mount '" ++
            cell row 2 ++ "' found" }]
  | volume columns =>
      columns.zipIdx.map fun column =>
        { message := column.1.message (cell row column.2) }

/-- Whether a template has something to tell about every row. -/
def speaks : LinkedTemplate → Bool
  | volume columns => !columns.isEmpty
  | _ => true

/-- A row goes untold only if the template never tells anything. -/
@[simp] theorem alerts_eq_nil_iff (template : LinkedTemplate) (row : List String) :
    template.alerts row = [] ↔ template.speaks = false := by
  cases template <;> simp [alerts, speaks]

end LinkedTemplate
end WorkloadPolicy
