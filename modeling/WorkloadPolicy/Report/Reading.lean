import WorkloadPolicy.Policy.Reading
import WorkloadPolicy.Report.Printer

/-!
# Printers as JSON

A printer is written as an object whose member `kind` names its form; the
forms of templates and of columns are named by the members `template` and
`column`.  The name of a form inside another object may also be given as its
position among the names.
-/

namespace WorkloadPolicy

open Readable

namespace Json

/-- The entry of a table that a tag names. -/
def tagged? (positions : Bool) (table : List (String × α)) : Json → Option α
  | .text name => table.lookup name
  | .integer position =>
      if positions && 0 ≤ position then
        (table[position.toNat]?).map (·.2)
      else
        none
  | _ => none

end Json

namespace FieldTemplate

/-- The forms of field templates with their readers. -/
def forms : List (String × (Record Json → Option FieldTemplate)) :=
  [("matched", fun record => do
      some (matched (← record.required "label" text?) (← record.required "pattern" text?))),
    ("threshold", fun record => do
      some
        (threshold
          (← record.required "description" text?)
          (← record.required "comparator" Comparator.read?)
          (← record.required "threshold" real?))),
    ("age", fun record => do
      some (age (← record.required "label" text?) (← record.required "days" integer?))),
    ("flag", fun record => do some (flag (← record.required "message" text?))),
    ("capability", fun record => do
      some
        (capability (← record.required "list" text?) (← record.required "present" boolean?))),
    ("map_entry", fun record => do
      some
        (mapEntry
          (← record.required "subject" text?)
          (← record.required "policy" text?)
          (← record.required "key" text?)
          (← record.required "value" text?))),
    ("process", fun record => do
      some
        (process (← record.required "attribute" text?) (← record.required "pattern" text?)))]

/-- Read a field template. -/
def read? (json : Json) : Option FieldTemplate := do
  let record ← Record.ofNode? json
  let form ← record.required "template" (Json.tagged? true forms)
  form record

/-- The JSON form of a field template. -/
def toJson : FieldTemplate → Json
  | matched label pattern =>
      .object
        [("template", .text "matched"), ("label", .text label), ("pattern", .text pattern)]
  | threshold description comparator limit =>
      .object
        [("template", .text "threshold"),
          ("description", .text description),
          ("comparator", .text comparator.name),
          ("threshold", .ofNumber limit)]
  | age label days =>
      .object [("template", .text "age"), ("label", .text label), ("days", .integer days)]
  | flag message => .object [("template", .text "flag"), ("message", .text message)]
  | capability list present =>
      .object
        [("template", .text "capability"), ("list", .text list), ("present", .boolean present)]
  | mapEntry subject policy key value =>
      .object
        [("template", .text "map_entry"),
          ("subject", .text subject),
          ("policy", .text policy),
          ("key", .text key),
          ("value", .text value)]
  | process aspect pattern =>
      .object
        [("template", .text "process"),
          ("attribute", .text aspect),
          ("pattern", .text pattern)]

end FieldTemplate

namespace VolumeColumn

/-- The forms of columns with their readers. -/
def forms : List (String × (Record Json → Option VolumeColumn)) :=
  [("matched", fun record => do
      some (matched (← record.required "label" text?) (← record.required "pattern" text?))),
    ("flag", fun record => do some (flag (← record.required "message" text?)))]

/-- Read a column. -/
def read? (json : Json) : Option VolumeColumn := do
  let record ← Record.ofNode? json
  let form ← record.required "column" (Json.tagged? true forms)
  form record

/-- The JSON form of a column. -/
def toJson : VolumeColumn → Json
  | matched label pattern =>
      .object [("column", .text "matched"), ("label", .text label), ("pattern", .text pattern)]
  | flag message => .object [("column", .text "flag"), ("message", .text message)]

end VolumeColumn

namespace LinkedTemplate

/-- The forms of linked templates with their readers. -/
def forms : List (String × (Record Json → Option LinkedTemplate)) :=
  [("dockerfile_line", fun record => do
      some
        (dockerfileLine
          (← record.required "instruction" text?)
          (← record.required "value" text?))),
    ("cve", fun record => do some (cve (← record.required "pattern" text?))),
    ("cvss", fun record => do
      some
        (cvss
          (← record.required "comparator" Comparator.read?)
          (← record.required "threshold" real?))),
    ("fixed_by", fun record => do some (fixedBy (← record.required "pattern" text?))),
    ("host_mount", fun record => do
      some (hostMount (← record.required "read_only" boolean?))),
    ("volume", fun record => do
      some (volume (← record.required "columns" (listOf? VolumeColumn.read?))))]

/-- Read a linked template. -/
def read? (json : Json) : Option LinkedTemplate := do
  let record ← Record.ofNode? json
  let form ← record.required "template" (Json.tagged? true forms)
  form record

/-- The JSON form of a linked template. -/
def toJson : LinkedTemplate → Json
  | dockerfileLine instruction value =>
      .object
        [("template", .text "dockerfile_line"),
          ("instruction", .text instruction),
          ("value", .text value)]
  | cve pattern => .object [("template", .text "cve"), ("pattern", .text pattern)]
  | cvss comparator threshold =>
      .object
        [("template", .text "cvss"),
          ("comparator", .text comparator.name),
          ("threshold", .ofNumber threshold)]
  | fixedBy pattern => .object [("template", .text "fixed_by"), ("pattern", .text pattern)]
  | hostMount readOnly =>
      .object [("template", .text "host_mount"), ("read_only", .boolean readOnly)]
  | volume columns =>
      .object
        [("template", .text "volume"), ("columns", .list (columns.map VolumeColumn.toJson))]

end LinkedTemplate

namespace Printer

/-- The forms of printers. -/
inductive Form where
  | field
  | linked
  | fixed
  | concat
  deriving DecidableEq, Repr

/-- The names of the forms. -/
def forms : List (String × Form) :=
  [("field", .field), ("linked", .linked), ("fixed", .fixed), ("concat", .concat)]

/-- Read a printer that contains no others. -/
def readSingle? (form : Form) (record : Record Json) : Option Printer := do
  match form with
  | .field =>
      some
        (field
          (← record.required "key" text?)
          (← record.required "template" FieldTemplate.read?))
  | .linked =>
      some
        (linked
          (← record.required "keys" (listOf? text?))
          (← record.required "template" LinkedTemplate.read?))
  | .fixed => some (fixed (← record.required "message" text?))
  | .concat => none

mutual

/-- Read a printer; `nested` says that it stands inside another one. -/
def readAt? (nested : Bool) : Json → Option Printer
  | .object members =>
      match (members.lookup "kind").bind (Json.tagged? nested forms) with
      | some .concat => (readMember? members).map concat
      | some form => readSingle? form ⟨members⟩
      | none => none
  | _ => none

/-- Read the printers in the member that lists them. -/
def readMember? : List (String × Json) → Option (List Printer)
  | [] => none
  | (name, value) :: members =>
      if name = "printers" then readItems? value else readMember? members

/-- Read a list of printers. -/
def readItems? : Json → Option (List Printer)
  | .list items => readEach? items
  | _ => none

/-- Read printers one by one. -/
def readEach? : List Json → Option (List Printer)
  | [] => some []
  | item :: items => do
      let printer ← readAt? true item
      let printers ← readEach? items
      some (printer :: printers)

end

/-- Read a printer. -/
def read? (json : Json) : Option Printer :=
  readAt? false json

mutual

/-- The JSON form of a printer. -/
def toJson : Printer → Json
  | field key template =>
      .object
        [("kind", .text "field"), ("key", .text key), ("template", template.toJson)]
  | linked keys template =>
      .object
        [("kind", .text "linked"), ("keys", .ofTexts keys), ("template", template.toJson)]
  | fixed message => .object [("kind", .text "fixed"), ("message", .text message)]
  | concat printers =>
      .object [("kind", .text "concat"), ("printers", .list (toJsonAll printers))]

/-- The JSON forms of several printers. -/
def toJsonAll : List Printer → List Json
  | [] => []
  | printer :: printers => toJson printer :: toJsonAll printers

end

theorem toJsonAll_eq_map (printers : List Printer) :
    toJsonAll printers = printers.map toJson := by
  induction printers with
  | nil => rfl
  | cons printer printers hypothesis => simp [toJsonAll, hypothesis]

end Printer
end WorkloadPolicy
