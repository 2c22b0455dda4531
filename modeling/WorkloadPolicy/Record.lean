import WorkloadPolicy.Json.Basic

/-!
# Reading records

Records are read from trees of several formats.  A format says how a node of
its trees is taken as a text, a number, a list and so on; the readers of
records are written once over these operations.  Every operation fails when
the node is of another form, and there is no conversion between forms.

A member of a record is required, has a default, or is optional.  An optional
member may be missing or null.  A member that occurs twice is refused, and
members that a record does not know are ignored.
-/

namespace WorkloadPolicy

/-- A format whose nodes can be taken as values of several forms. -/
class Readable (Node : Type) where
  /-- Whether the node stands for an absent value. -/
  isNull? : Node → Option Bool
  text? : Node → Option String
  /-- The name of a variant without contents. -/
  variant? : Node → Option String
  boolean? : Node → Option Bool
  /-- An integer of 64 bits with a sign. -/
  integer? : Node → Option Int
  /-- An integer of 64 bits without a sign. -/
  natural? : Node → Option Nat
  real? : Node → Option Float
  items? : Node → Option (List Node)
  entries? : Node → Option (List (Node × Node))

/-- The members of a record before they are read. -/
structure Record (Node : Type) where
  members : List (String × Node)

namespace Record

variable {Node : Type} [Readable Node]

/-- The names and values of a node. -/
def ofNode? (node : Node) : Option (Record Node) := do
  let entries ← Readable.entries? node
  let members ← entries.mapM fun entry => do
    let name ← Readable.text? entry.1
    some (name, entry.2)
  some ⟨members⟩

/-- The values given for a name. -/
def values (record : Record Node) (name : String) : List Node :=
  (record.members.filter (·.1 == name)).map (·.2)

/-- A member that must be there. -/
def required
    (record : Record Node)
    (name : String)
    (read : Node → Option α) : Option α :=
  match record.values name with
  | [node] => read node
  | _ => none

/-- A member that has a default. -/
def withDefault
    (record : Record Node)
    (name : String)
    (default : α)
    (read : Node → Option α) : Option α :=
  match record.values name with
  | [] => some default
  | [node] => read node
  | _ => none

/-- A member that may be absent or null. -/
def optional
    (record : Record Node)
    (name : String)
    (read : Node → Option α) : Option (Option α) :=
  match record.values name with
  | [] => some none
  | [node] => do
      if ← Readable.isNull? node then
        some none
      else
        (read node).map some
  | _ => none

end Record

namespace Readable

variable {Node : Type} [Readable Node]

/-- A list whose items are all read alike. -/
def listOf? (read : Node → Option α) (node : Node) : Option (List α) := do
  (← items? node).mapM read

/-- A variant found by its name in a table. -/
def variantOf? (table : List (String × α)) (node : Node) : Option α := do
  table.lookup (← variant? node)

/-- A natural number of 32 bits. -/
def word? (node : Node) : Option Nat := do
  let number ← natural? node
  if number < 1 <<< 32 then some number else none

end Readable

namespace Json

/-- The `Float` of a number. -/
def number? : Json → Option Float
  | .integer value =>
      some (if 0 ≤ value then Float.ofNat value.natAbs else -(Float.ofNat value.natAbs))
  | .real value => some value
  | _ => none

/-- The `Float32` of a number. -/
def number32? : Json → Option Float32
  | .integer value =>
      some (if 0 ≤ value then Float32.ofNat value.natAbs else -(Float32.ofNat value.natAbs))
  | .real value => some value.toFloat32
  | _ => none

/-- The name of a variant: a text, or an object whose one member is null. -/
def variantName? : Json → Option String
  | .text name => some name
  | .object [(name, .null)] => some name
  | _ => none

instance : Readable Json where
  isNull? node := some (match node with | .null => true | _ => false)
  text? := fun
    | .text value => some value
    | _ => none
  variant? := variantName?
  boolean? := fun
    | .boolean value => some value
    | _ => none
  integer? := fun
    | .integer value => if value < 1 <<< 63 then some value else none
    | _ => none
  natural? := fun
    | .integer value => if 0 ≤ value then some value.toNat else none
    | _ => none
  real? := number?
  items? := fun
    | .list items => some items
    | _ => none
  entries? := fun
    | .object members => some (members.map fun member => (.text member.1, member.2))
    | _ => none

/-- A table from text to text in the order of its keys. -/
def textTable? : Json → Option (List (String × String))
  | .object members => do
      let entries ← members.mapM fun member => do
        let value ← Readable.text? member.2
        some (member.1, value)
      some (entries.mergeSort fun left right => left.1 ≤ right.1)
  | _ => none

end Json
end WorkloadPolicy
