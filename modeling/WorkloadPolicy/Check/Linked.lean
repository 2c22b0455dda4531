import WorkloadPolicy.Check.Basic
import WorkloadPolicy.Policy.Document

/-!
# Checks of linked fields

A linked check tests several fields of the same record at once, row by row:
the score of a vulnerability belongs with its own identifier and reference.
The printer reads the highlights back in the order of the columns.
-/

namespace WorkloadPolicy

/-- What is demanded of the value in one column. -/
inductive ColumnDemand where
  | any
  | exact (expected : String)
  | numeric (policy : NumericalPolicy)
  /-- The value matches a pattern, as a whole or anywhere in it. -/
  | pattern (pattern : String) (anywhere : Bool)

/-- What a policy demands of rows of linked fields.  There is a column at least,
no field has two of them, and every row is worth an alert. -/
structure LinkedDemand where
  columns : List (FieldLabel × ColumnDemand)
  template : LinkedTemplate
  columns_ne_nil : columns ≠ [] := by simp
  labels_nodup : (columns.map (·.1)).Nodup := by simp
  speaks : template.speaks = true := by rfl

/-- A check of linked fields. -/
structure LinkedCheck where
  name : String
  /-- The demand that a policy's constraints make, if any. -/
  demand? : PolicyFields → Option LinkedDemand

namespace ColumnDemand

/-- The operation that tests a column. -/
def operation (check : String) : ColumnDemand → Except CheckError Operation
  | any => .ok .any
  | exact expected => .ok (.exact expected)
  | numeric policy => .ok (.numeric policy.comparator policy.value)
  | pattern text anywhere =>
      (if anywhere then compileAnywhere check text else compileWhole check text).map .regex

/-- A pattern for whole values; an empty text demands nothing. -/
def ofPattern (anywhere : Bool) (text : String) : ColumnDemand :=
  if text.isEmpty then any else pattern text anywhere

end ColumnDemand

namespace LinkedDemand

/-- The leaves of columns whose operations are given. -/
def leaves
    (check : String)
    (registry : FieldRegistry)
    (columns : List (FieldLabel × Operation)) : Except CheckError (List FieldQuery) :=
  columns.mapM fun column => do
    let metadata ← requireField check registry column.1
    .ok (.ofField column.1 metadata column.2)

/-- What a demand contributes.  All patterns are compiled before the first
field is looked up. -/
def contribution
    (check : String)
    (registry : FieldRegistry)
    (demand : LinkedDemand) : Except CheckError Contribution := do
  let columns ← demand.columns.mapM fun column => do
    let operation ← column.2.operation check
    .ok (column.1, operation)
  let fields ← leaves check registry columns
  .ok ⟨.linked fields, .linked (fields.map (·.key)) demand.template⟩

end LinkedDemand

namespace LinkedCheck

/-- What a check contributes to a policy with the given constraints. -/
def contribution?
    (check : LinkedCheck)
    (fields : PolicyFields)
    (registry : FieldRegistry) : Except CheckError (Option Contribution) :=
  match check.demand? fields with
  | none => .ok none
  | some demand => (demand.contribution check.name registry).map some

/-- The demand on an instruction, whole, and its arguments, anywhere. -/
def dockerfileLineDemand? (fields : PolicyFields) : Option LinkedDemand := do
  let rule ← fields.lineRule
  if rule.instruction.isEmpty && rule.value.isEmpty then
    none
  else
    some
      { columns :=
          [(.dockerfileInstruction, .ofPattern false rule.instruction),
            (.dockerfileValue, .ofPattern true rule.value)]
        template := .dockerfileLine rule.instruction rule.value }

/-- The check of the instructions that an image was built from. -/
def dockerfileLine : LinkedCheck :=
  ⟨"dockerfile line", dockerfileLineDemand?⟩

/-- The demand on the identifier of a vulnerability. -/
def cveDemand? (fields : PolicyFields) : Option LinkedDemand := do
  let text ← nonEmpty? fields.cve
  some
    { columns := [(.cve, .pattern text false), (.cveLink, .any)]
      template := .cve text }

/-- The check of the identifiers of vulnerabilities. -/
def cve : LinkedCheck :=
  ⟨"cve", cveDemand?⟩

/-- The demand on the score of a vulnerability and on the version that fixes
it, if one is asked for. -/
def cvssDemand? (fields : PolicyFields) : Option LinkedDemand := do
  let policy ← fields.cvss
  let fixed := (nonEmpty? fields.fixedBy).toList.map fun text =>
    (FieldLabel.fixedBy, ColumnDemand.pattern text false)
  some
    { columns := [(.cvss, .numeric policy), (.cve, .any)] ++ fixed
      template := .cvss policy.comparator policy.value
      labels_nodup := by
        unfold fixed
        cases nonEmpty? fields.fixedBy <;> simp }

/-- The check of the scores of vulnerabilities. -/
def cvss : LinkedCheck :=
  ⟨"cvss", cvssDemand?⟩

/-- The demand on the version that fixes a vulnerability.  A policy about
scores reports it together with the score. -/
def fixedByDemand? (fields : PolicyFields) : Option LinkedDemand :=
  match fields.cvss with
  | some _ => none
  | none => do
      let text ← nonEmpty? fields.fixedBy
      some
        { columns := [(.fixedBy, .pattern text false), (.cve, .any)]
          template := .fixedBy text }

/-- The check of the versions that fix vulnerabilities. -/
def fixedBy : LinkedCheck :=
  ⟨"fixed by", fixedByDemand?⟩

/-- The demand on a mount of a host path.  Writable mounts are looked for
unless the policy says otherwise. -/
def hostMountDemand? (fields : PolicyFields) : Option LinkedDemand := do
  let policy ← fields.hostMount
  let readOnly := policy.readOnly.getD false
  some
    { columns :=
        [(.volumeType, .exact "HostPath"),
          (.volumeReadOnly, .exact (booleanText readOnly)),
          (.volumeSource, .any)]
      template := .hostMount readOnly }

/-- The check of mounts of host paths. -/
def hostMount : LinkedCheck :=
  ⟨"host mount", hostMountDemand?⟩

/-- A column of a demand on volumes together with how it is told. -/
abbrev ToldColumn := (FieldLabel × ColumnDemand) × VolumeColumn

/-- A column about a text of a volume, if the policy sets it. -/
def volumeTextColumn
    (label : FieldLabel)
    (subject : String)
    (text : Option String) : List ToldColumn :=
  (nonEmpty? text).toList.map fun pattern =>
    ((label, .pattern pattern false), .matched subject pattern)

/-- A column about the read-only mark of a volume, if the policy sets it. -/
def volumeModeColumn (readOnly : Option Bool) : List ToldColumn :=
  readOnly.toList.map fun value =>
    ((.volumeReadOnly, .exact (booleanText value)),
      .flag (if value then "Read-only volume found" else "Writable volume found"))

/-- The columns about everything that a policy sets of a volume. -/
def volumeColumns (policy : VolumePolicy) : List ToldColumn :=
  volumeTextColumn .volumeName "Volume name" policy.name ++
    volumeTextColumn .volumeSource "Volume source" policy.source ++
    volumeTextColumn .volumeDestination "Volume destination" policy.destination ++
    volumeTextColumn .volumeType "Volume type" policy.volumeType ++
    volumeModeColumn policy.readOnly

theorem labels_volumeTextColumn
    (label : FieldLabel)
    (subject : String)
    (text : Option String) :
    ((volumeTextColumn label subject text).map (·.1.1)).Sublist [label] := by
  unfold volumeTextColumn
  cases nonEmpty? text <;> simp

theorem labels_volumeModeColumn (readOnly : Option Bool) :
    ((volumeModeColumn readOnly).map (·.1.1)).Sublist [.volumeReadOnly] := by
  unfold volumeModeColumn
  cases readOnly <;> simp

/-- The columns of a volume are about its fields, in this order. -/
theorem labels_volumeColumns_sublist (policy : VolumePolicy) :
    ((volumeColumns policy).map (·.1.1)).Sublist
      [.volumeName, .volumeSource, .volumeDestination, .volumeType, .volumeReadOnly] := by
  simp only [volumeColumns, List.map_append]
  exact (((labels_volumeTextColumn ..).append (labels_volumeTextColumn ..)).append
    (labels_volumeTextColumn ..)).append (labels_volumeTextColumn ..) |>.append
    (labels_volumeModeColumn ..)

/-- No field of a volume has two columns. -/
theorem labels_volumeColumns_nodup (policy : VolumePolicy) :
    ((volumeColumns policy).map (·.1.1)).Nodup :=
  (labels_volumeColumns_sublist policy).nodup (by decide)

/-- The demand on one volume of everything that the policy sets. -/
def volumeDemand? (fields : PolicyFields) : Option LinkedDemand := do
  let policy ← fields.volume
  if unset : volumeColumns policy = [] then
    none
  else
    some
      { columns := (volumeColumns policy).map (·.1)
        template := .volume ((volumeColumns policy).map (·.2))
        columns_ne_nil := by simpa using unset
        labels_nodup := by
          rw [List.map_map]
          exact labels_volumeColumns_nodup policy
        speaks := by simpa [LinkedTemplate.speaks] using unset }

/-- The check of volumes. -/
def volume : LinkedCheck :=
  ⟨"volume", volumeDemand?⟩

end LinkedCheck
end WorkloadPolicy
