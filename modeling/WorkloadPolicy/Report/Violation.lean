import WorkloadPolicy.Entity.Process

/-!
# Violations

What is reported when a policy matches: alerts, each a message that may carry
a reference, and, if a process event was looked at, a violation that names it.
-/

namespace WorkloadPolicy

/-- One reason why a policy matched. -/
structure Alert where
  message : String
  /-- An address to read more at. -/
  link : Option String := none
  deriving DecidableEq, Repr, Inhabited

/-- A violation by process events. -/
structure ProcessViolation where
  message : String
  processes : List ProcessIndicator
  deriving DecidableEq, Repr, Inhabited

/-- Everything that one run of a policy reports. -/
structure Violations where
  alerts : List Alert := []
  process : Option ProcessViolation := none
  deriving DecidableEq, Repr, Inhabited

open Readable

namespace Alert

/-- An alert with a reference.  An empty reference changes nothing. -/
def withLink (alert : Alert) (link : String) : Alert :=
  if link.isEmpty then alert else { alert with link := some link }

/-- Read an alert. -/
def read? [Readable Node] (node : Node) : Option Alert := do
  let record ← Record.ofNode? node
  some
    { message := ← record.required "message" text?
      link := ← record.optional "link" text? }

/-- The JSON form of an alert.  An absent reference is left out. -/
def toJson (alert : Alert) : Json :=
  .object
    (("message", .text alert.message) ::
      match alert.link with
      | some link => [("link", .text link)]
      | none => [])

@[simp] theorem message_withLink (alert : Alert) (link : String) :
    (alert.withLink link).message = alert.message := by
  unfold withLink
  split <;> rfl

end Alert

namespace ProcessViolation

/-- The violation by one process event.  The process is named by the path of
its file, or by its short name if there is no path. -/
def ofProcess (process : ProcessIndicator) : ProcessViolation :=
  let signal := process.signal
  let binary := if signal.execFilePath.isEmpty then signal.name else signal.execFilePath
  { message :=
      "Binary '" ++ binary ++ "' executed with arguments '" ++ signal.args ++
        "' under user ID " ++ toString signal.uid
    processes := [process] }

/-- Read a violation by process events. -/
def read? [Readable Node] (node : Node) : Option ProcessViolation := do
  let record ← Record.ofNode? node
  some
    { message := ← record.required "message" text?
      processes := ← record.required "processes" (listOf? ProcessIndicator.read?) }

/-- The JSON form of a violation by process events. -/
def toJson (violation : ProcessViolation) : Json :=
  .object
    [("message", .text violation.message),
      ("processes", .list (violation.processes.map ProcessIndicator.toJson))]

end ProcessViolation

namespace Violations

/-- Whether nothing is reported. -/
def isEmpty (violations : Violations) : Bool :=
  violations.alerts.isEmpty && violations.process.isNone

/-- Read a report. -/
def read? [Readable Node] (node : Node) : Option Violations := do
  let record ← Record.ofNode? node
  some
    { alerts := ← record.required "alert_violations" (listOf? Alert.read?)
      process := ← record.optional "process_violation" ProcessViolation.read? }

/-- The JSON form of a report.  An absent violation by processes is left
out. -/
def toJson (violations : Violations) : Json :=
  .object
    (("alert_violations", .list (violations.alerts.map Alert.toJson)) ::
      match violations.process with
      | some violation => [("process_violation", violation.toJson)]
      | none => [])

/-- Nothing is reported only by the empty report. -/
theorem isEmpty_iff (violations : Violations) :
    violations.isEmpty = true ↔ violations = {} := by
  obtain ⟨alerts, process⟩ := violations
  simp [isEmpty]

end Violations
end WorkloadPolicy
