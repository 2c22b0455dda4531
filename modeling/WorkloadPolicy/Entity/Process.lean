import WorkloadPolicy.Entity.Image

/-!
# Process events

A process event says that a process was started inside a deployment.
-/

namespace WorkloadPolicy

/-- What was started. -/
structure ProcessSignal where
  /-- The short name of the process. -/
  name : String
  args : String := ""
  execFilePath : String := ""
  uid : Nat := 0
  time : Option Calendar.Instant := none
  deriving DecidableEq, Repr, Inhabited

/-- A process event. -/
structure ProcessIndicator where
  id : String
  deploymentId : String
  containerName : String := ""
  podId : String := ""
  signal : ProcessSignal
  deriving DecidableEq, Repr, Inhabited

open Readable

namespace ProcessSignal

/-- Read a signal. -/
def read? [Readable Node] (node : Node) : Option ProcessSignal := do
  let record ← Record.ofNode? node
  some
    { name := ← record.required "name" text?
      args := ← record.withDefault "args" "" text?
      execFilePath := ← record.withDefault "exec_file_path" "" text?
      uid := ← record.withDefault "uid" 0 word?
      time := ← record.optional "time" readInstant? }

/-- The JSON form of a signal. -/
def toJson (signal : ProcessSignal) : Json :=
  .object
    [("name", .text signal.name),
      ("args", .text signal.args),
      ("exec_file_path", .text signal.execFilePath),
      ("uid", .integer signal.uid),
      ("time", instantToJson signal.time)]

end ProcessSignal

namespace ProcessIndicator

/-- Read a process event. -/
def read? [Readable Node] (node : Node) : Option ProcessIndicator := do
  let record ← Record.ofNode? node
  some
    { id := ← record.required "id" text?
      deploymentId := ← record.required "deployment_id" text?
      containerName := ← record.withDefault "container_name" "" text?
      podId := ← record.withDefault "pod_id" "" text?
      signal := ← record.required "signal" ProcessSignal.read? }

/-- The JSON form of a process event. -/
def toJson (process : ProcessIndicator) : Json :=
  .object
    [("id", .text process.id),
      ("deployment_id", .text process.deploymentId),
      ("container_name", .text process.containerName),
      ("pod_id", .text process.podId),
      ("signal", process.signal.toJson)]

end ProcessIndicator
end WorkloadPolicy
