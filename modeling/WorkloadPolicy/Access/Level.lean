import WorkloadPolicy.Record

/-!
# Permission levels

A permission level says in five steps how much of a cluster's interface a
subject may use.  Levels are totally ordered, so that the level of a subject is
the greatest level any of its grants reaches.
-/

namespace WorkloadPolicy
namespace Access

/-- How much access a subject has. -/
inductive PermissionLevel where
  /-- No grant applies. -/
  | none
  /-- Read access inside some namespace. -/
  | default
  /-- Write access, or listing of every resource, inside some namespace. -/
  | elevatedInNamespace
  /-- Read or write access across the cluster. -/
  | elevatedClusterWide
  /-- Every verb on every resource across the cluster. -/
  | clusterAdmin
  deriving DecidableEq, Repr, Inhabited

namespace PermissionLevel

/-- The position in the order. -/
def rank : PermissionLevel → Nat
  | none => 0
  | default => 1
  | elevatedInNamespace => 2
  | elevatedClusterWide => 3
  | clusterAdmin => 4

instance : LE PermissionLevel := ⟨fun left right => left.rank ≤ right.rank⟩

instance : LT PermissionLevel := ⟨fun left right => left.rank < right.rank⟩

instance (left right : PermissionLevel) : Decidable (left ≤ right) :=
  inferInstanceAs (Decidable (left.rank ≤ right.rank))

instance (left right : PermissionLevel) : Decidable (left < right) :=
  inferInstanceAs (Decidable (left.rank < right.rank))

instance : Max PermissionLevel :=
  ⟨fun left right => if left ≤ right then right else left⟩

/-- All levels in ascending order. -/
def all : List PermissionLevel :=
  [none, default, elevatedInNamespace, elevatedClusterWide, clusterAdmin]

/-- The name of a level in documents and messages. -/
def name : PermissionLevel → String
  | none => "NONE"
  | default => "DEFAULT"
  | elevatedInNamespace => "ELEVATED_IN_NAMESPACE"
  | elevatedClusterWide => "ELEVATED_CLUSTER_WIDE"
  | clusterAdmin => "CLUSTER_ADMIN"

/-- Read a level by its name. -/
def read? [Readable Node] (node : Node) : Option PermissionLevel :=
  Readable.variantOf? (all.map fun level => (level.name, level)) node

/-- The JSON form of a level. -/
def toJson (level : PermissionLevel) : Json :=
  .text level.name

theorem rank_injective
    {left right : PermissionLevel}
    (equal : left.rank = right.rank) : left = right := by
  cases left <;> cases right <;> simp_all [rank]

theorem le_def (left right : PermissionLevel) :
    left ≤ right ↔ left.rank ≤ right.rank := Iff.rfl

theorem lt_def (left right : PermissionLevel) :
    left < right ↔ left.rank < right.rank := Iff.rfl

@[simp] theorem rank_max (left right : PermissionLevel) :
    (max left right).rank = max left.rank right.rank := by
  show (if left ≤ right then right else left).rank = _
  simp only [le_def]
  split <;> omega

end PermissionLevel
end Access
end WorkloadPolicy
