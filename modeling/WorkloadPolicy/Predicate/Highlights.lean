import WorkloadPolicy.Record

/-!
# Highlights

Highlights are the values that an evaluation matched, under the keys of the
leaves that matched them.  They are kept as a journal of records in the order
in which they were made, so that putting two journals one after the other
appends the values under every key.
-/

namespace WorkloadPolicy

/-- A journal of matched values under keys. -/
structure Highlights where
  records : List (String × List String) := []
  deriving DecidableEq, Repr, Inhabited

namespace Highlights

/-- Highlights with values under one key. -/
def ofKey (key : String) (values : List String) : Highlights :=
  ⟨[(key, values)]⟩

/-- The highlights of two evaluations, in order. -/
def merge (first second : Highlights) : Highlights :=
  ⟨first.records ++ second.records⟩

instance : Append Highlights := ⟨merge⟩

/-- Add one value under a key. -/
def add (highlights : Highlights) (key value : String) : Highlights :=
  highlights ++ ofKey key [value]

/-- The values under a key, in the order in which they were recorded. -/
def get (highlights : Highlights) (key : String) : List String :=
  highlights.records.flatMap fun record => if record.1 = key then record.2 else []

/-- Whether no value has been recorded. -/
def isEmpty (highlights : Highlights) : Bool :=
  highlights.records.all (·.2.isEmpty)

/-- The keys in ascending order, each once. -/
def keys (highlights : Highlights) : List String :=
  ((highlights.records.map (·.1)).eraseDups).mergeSort (· ≤ ·)

/-- The keys with their values. -/
def entries (highlights : Highlights) : List (String × List String) :=
  highlights.keys.map fun key => (key, highlights.get key)

@[simp] theorem records_append (first second : Highlights) :
    (first ++ second).records = first.records ++ second.records := rfl

@[simp] theorem get_empty (key : String) : get {} key = [] := rfl

@[simp] theorem get_append (first second : Highlights) (key : String) :
    (first ++ second).get key = first.get key ++ second.get key := by
  simp [get]

@[simp] theorem get_ofKey (key other : String) (values : List String) :
    (ofKey key values).get other = if key = other then values else [] := by
  simp [get, ofKey]

@[simp] theorem get_add (highlights : Highlights) (key value other : String) :
    (highlights.add key value).get other =
      highlights.get other ++ if key = other then [value] else [] := by
  simp [add]

theorem append_assoc (first second third : Highlights) :
    (first ++ second) ++ third = first ++ (second ++ third) := by
  show Highlights.mk _ = Highlights.mk _
  simp

@[simp] theorem empty_append (highlights : Highlights) :
    ({} : Highlights) ++ highlights = highlights := rfl

@[simp] theorem append_empty (highlights : Highlights) :
    highlights ++ ({} : Highlights) = highlights := by
  show Highlights.mk _ = _
  simp

/-- Nothing has been recorded exactly when no key has values. -/
theorem isEmpty_iff (highlights : Highlights) :
    highlights.isEmpty = true ↔ ∀ key, highlights.get key = [] := by
  simp only [isEmpty, List.all_eq_true, List.isEmpty_iff, get, List.flatMap_eq_nil_iff]
  constructor
  · intro allEmpty key record member
    simp [allEmpty record member]
  · intro noValues record member
    simpa using noValues record.1 record member

open Readable

/-- Read a table from keys to lists of values. -/
def readTable? [Readable Node] (node : Node) : Option Highlights := do
  let records ← (← Record.ofNode? node).members.mapM fun member => do
    let values ← listOf? text? member.2
    some (member.1, values)
  some ⟨records⟩

/-- Read highlights. -/
def read? [Readable Node] (node : Node) : Option Highlights := do
  (← Record.ofNode? node).required "highlights" readTable?

/-- The JSON form of the keys and values. -/
def tableToJson (highlights : Highlights) : Json :=
  .object (highlights.entries.map fun entry => (entry.1, .ofTexts entry.2))

end Highlights
end WorkloadPolicy
