import WorkloadPolicy.Calendar.Lenient
import WorkloadPolicy.Record

/-!
# Container images

An image has a name, optional build metadata and, once it has been scanned, a
list of installed components with their vulnerabilities.
-/

namespace WorkloadPolicy

/-- The parts of an image reference. -/
structure ImageName where
  registry : String := ""
  remote : String := ""
  tag : String := ""
  fullName : String := ""
  deriving DecidableEq, Repr, Inhabited

/-- One instruction of the file an image was built from. -/
structure ImageLayer where
  instruction : String
  value : String := ""
  deriving DecidableEq, Repr, Inhabited

/-- How an image was built. -/
structure ImageMetadata where
  created : Option Calendar.Instant := none
  /-- The layers in build order. -/
  layers : List ImageLayer := []
  /-- The labels in the order of their keys. -/
  labels : List (String × String) := []
  deriving DecidableEq, Repr, Inhabited

/-- A vulnerability of a component. -/
structure Vulnerability where
  cve : String
  cvss : Float32 := 0.0
  link : String := ""
  /-- The version that mends it, if there is one. -/
  fixedBy : Option String := none
  deriving Inhabited

/-- An installed package. -/
structure Component where
  name : String
  version : String := ""
  vulnerabilities : List Vulnerability := []
  deriving Inhabited

/-- The result of a scan. -/
structure ImageScan where
  scanTime : Option Calendar.Instant := none
  components : List Component := []
  deriving Inhabited

/-- A container image. -/
structure Image where
  id : String
  name : ImageName := {}
  metadata : Option ImageMetadata := none
  /-- Absent when the image was never scanned. -/
  scan : Option ImageScan := none
  deriving Inhabited

namespace ImageName

/-- The full name, or the parts put together when there is none. -/
def displayName (name : ImageName) : String :=
  if name.fullName.isEmpty then
    name.registry ++ "/" ++ name.remote ++ ":" ++ name.tag
  else
    name.fullName

end ImageName

open Readable

/-- Read a timestamp of a record. -/
def readInstant? [Readable Node] (node : Node) : Option Calendar.Instant := do
  Calendar.Lenient.instant? (← text? node)

/-- The JSON form of an optional timestamp. -/
def instantToJson : Option Calendar.Instant → Json
  | some instant => .text instant.zuluText
  | none => .null

namespace ImageName

/-- Read an image name. -/
def read? [Readable Node] (node : Node) : Option ImageName := do
  let record ← Record.ofNode? node
  some
    { registry := ← record.withDefault "registry" "" text?
      remote := ← record.withDefault "remote" "" text?
      tag := ← record.withDefault "tag" "" text?
      fullName := ← record.withDefault "full_name" "" text? }

/-- The JSON form of an image name. -/
def toJson (name : ImageName) : Json :=
  .object
    [("registry", .text name.registry),
      ("remote", .text name.remote),
      ("tag", .text name.tag),
      ("full_name", .text name.fullName)]

end ImageName

namespace ImageLayer

/-- Read a layer. -/
def read? [Readable Node] (node : Node) : Option ImageLayer := do
  let record ← Record.ofNode? node
  some
    { instruction := ← record.required "instruction" text?
      value := ← record.withDefault "value" "" text? }

/-- The JSON form of a layer. -/
def toJson (layer : ImageLayer) : Json :=
  .object [("instruction", .text layer.instruction), ("value", .text layer.value)]

end ImageLayer

namespace ImageMetadata

/-- Read build metadata. -/
def read? (node : Json) : Option ImageMetadata := do
  let record ← Record.ofNode? node
  some
    { created := ← record.optional "created" readInstant?
      layers := ← record.withDefault "layers" [] (listOf? ImageLayer.read?)
      labels := ← record.withDefault "labels" [] Json.textTable? }

/-- The JSON form of build metadata. -/
def toJson (metadata : ImageMetadata) : Json :=
  .object
    [("created", instantToJson metadata.created),
      ("layers", .list (metadata.layers.map ImageLayer.toJson)),
      ("labels", .ofTextTable metadata.labels)]

end ImageMetadata

namespace Vulnerability

/-- Read a vulnerability. -/
def read? (node : Json) : Option Vulnerability := do
  let record ← Record.ofNode? node
  some
    { cve := ← record.required "cve" text?
      cvss := ← record.withDefault "cvss" 0.0 Json.number32?
      link := ← record.withDefault "link" "" text?
      fixedBy := ← record.optional "fixed_by" text? }

/-- The JSON form of a vulnerability. -/
def toJson (vulnerability : Vulnerability) : Json :=
  .object
    [("cve", .text vulnerability.cve),
      ("cvss", .ofNumber vulnerability.cvss.toFloat),
      ("link", .text vulnerability.link),
      ("fixed_by", .ofText? vulnerability.fixedBy)]

end Vulnerability

namespace Component

/-- Read a component. -/
def read? (node : Json) : Option Component := do
  let record ← Record.ofNode? node
  some
    { name := ← record.required "name" text?
      version := ← record.withDefault "version" "" text?
      vulnerabilities := ← record.withDefault "vulns" [] (listOf? Vulnerability.read?) }

/-- The JSON form of a component. -/
def toJson (component : Component) : Json :=
  .object
    [("name", .text component.name),
      ("version", .text component.version),
      ("vulns", .list (component.vulnerabilities.map Vulnerability.toJson))]

end Component

namespace ImageScan

/-- Read a scan. -/
def read? (node : Json) : Option ImageScan := do
  let record ← Record.ofNode? node
  some
    { scanTime := ← record.optional "scan_time" readInstant?
      components := ← record.withDefault "components" [] (listOf? Component.read?) }

/-- The JSON form of a scan. -/
def toJson (scan : ImageScan) : Json :=
  .object
    [("scan_time", instantToJson scan.scanTime),
      ("components", .list (scan.components.map Component.toJson))]

end ImageScan

namespace Image

/-- Read an image. -/
def read? (node : Json) : Option Image := do
  let record ← Record.ofNode? node
  some
    { id := ← record.required "id" text?
      name := ← record.withDefault "name" {} ImageName.read?
      metadata := ← record.optional "metadata" ImageMetadata.read?
      scan := ← record.optional "scan" ImageScan.read? }

/-- The JSON form of an image. -/
def toJson (image : Image) : Json :=
  .object
    [("id", .text image.id),
      ("name", image.name.toJson),
      ("metadata", (image.metadata.map ImageMetadata.toJson).getD .null),
      ("scan", (image.scan.map ImageScan.toJson).getD .null)]

end Image
end WorkloadPolicy
