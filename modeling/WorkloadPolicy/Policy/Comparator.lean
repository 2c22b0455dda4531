import WorkloadPolicy.Record

/-!
# Comparators

A comparator compares a value with a threshold.  Two numbers count as equal
when they differ by less than the gap between one and the next greater
`Float`.
-/

namespace WorkloadPolicy

/-- A comparison of a value with a threshold. -/
inductive Comparator where
  | lessThan
  | lessThanOrEquals
  | equals
  | greaterThanOrEquals
  | greaterThan
  deriving DecidableEq, Repr, Inhabited

namespace Comparator

/-- All comparators. -/
def all : List Comparator :=
  [lessThan, lessThanOrEquals, equals, greaterThanOrEquals, greaterThan]

/-- The gap between one and the next greater `Float`. -/
def epsilon : Float := Float.ofBits 0x3CB0000000000000

/-- Whether a value compares as asked with a threshold. -/
def compare (comparator : Comparator) (value threshold : Float) : Bool :=
  match comparator with
  | lessThan => value < threshold
  | lessThanOrEquals => value ≤ threshold
  | equals => (value - threshold).abs < epsilon
  | greaterThanOrEquals => threshold ≤ value
  | greaterThan => threshold < value

/-- The sign of a comparator. -/
def symbol : Comparator → String
  | lessThan => "<"
  | lessThanOrEquals => "<="
  | equals => "="
  | greaterThanOrEquals => ">="
  | greaterThan => ">"

/-- A comparator in words. -/
def words : Comparator → String
  | lessThan => "less than"
  | lessThanOrEquals => "less than or equal to"
  | equals => "equal to"
  | greaterThanOrEquals => "greater than or equal to"
  | greaterThan => "greater than"

/-- The name of a comparator in documents. -/
def name : Comparator → String
  | lessThan => "LESS_THAN"
  | lessThanOrEquals => "LESS_THAN_OR_EQUALS"
  | equals => "EQUALS"
  | greaterThanOrEquals => "GREATER_THAN_OR_EQUALS"
  | greaterThan => "GREATER_THAN"

/-- Read a comparator by its name. -/
def read? [Readable Node] (node : Node) : Option Comparator :=
  Readable.variantOf? (all.map fun comparator => (comparator.name, comparator)) node

end Comparator
end WorkloadPolicy
