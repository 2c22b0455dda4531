import WorkloadPolicy.Unicode.CaseFold

/-!
# Sets of characters

A set of characters is a list of ranges of code points, which may overlap and
come in any order.  The operations are those of sets, together with the
closure under case variants.
-/

namespace WorkloadPolicy
namespace Unicode

/-- A set of code points as a union of ranges with both ends included. -/
structure CharSet where
  ranges : List (Nat × Nat)
  deriving DecidableEq, Repr, Inhabited

namespace CharSet

/-- The greatest code point. -/
def greatest : Nat := 0x10FFFF

/-- Whether a code point lies in a range. -/
def inRange (code : Nat) (range : Nat × Nat) : Bool :=
  range.1 ≤ code && code ≤ range.2

/-- Whether a code point is in a set. -/
def containsCode (set : CharSet) (code : Nat) : Bool :=
  set.ranges.any (inRange code)

/-- Whether a character is in a set. -/
def contains (set : CharSet) (character : Char) : Bool :=
  set.containsCode character.toNat

/-- The set without members. -/
def empty : CharSet := ⟨[]⟩

/-- The set of all code points. -/
def full : CharSet := ⟨[(0, greatest)]⟩

/-- The set of one code point. -/
def single (code : Nat) : CharSet := ⟨[(code, code)]⟩

/-- The set of the code points in a range. -/
def range (first last : Nat) : CharSet := ⟨[(first, last)]⟩

/-- The union of two sets. -/
def union (left right : CharSet) : CharSet := ⟨left.ranges ++ right.ranges⟩

/-- What is left of a range without the members of another range. -/
def cutRange (removed range : Nat × Nat) : List (Nat × Nat) :=
  if removed.2 < removed.1 ∨ range.2 < removed.1 ∨ removed.2 < range.1 then
    [range]
  else
    (if range.1 < removed.1 then [(range.1, removed.1 - 1)] else []) ++
      (if removed.2 < range.2 then [(removed.2 + 1, range.2)] else [])

/-- The members of a set that are not in another set. -/
def difference (set removed : CharSet) : CharSet :=
  ⟨removed.ranges.foldl (fun ranges range => ranges.flatMap (cutRange range)) set.ranges⟩

/-- The code points that are not in a set. -/
def complement (set : CharSet) : CharSet :=
  full.difference set

/-- The common members of two sets. -/
def intersection (left right : CharSet) : CharSet :=
  ⟨left.ranges.flatMap fun first =>
    right.ranges.filterMap fun second =>
      let low := max first.1 second.1
      let high := min first.2 second.2
      if low ≤ high then some (low, high) else none⟩

/-- The members of exactly one of two sets. -/
def symmetricDifference (left right : CharSet) : CharSet :=
  (left.difference right).union (right.difference left)

/-- The set of the case variants of one code point. -/
def variantsOf (code : Nat) : CharSet :=
  ⟨(caseVariants code).eraseDups.map fun variant => (variant, variant)⟩

/-- A set with the case variants of its members. -/
def closeCase (set : CharSet) : CharSet :=
  set.union
    ⟨(cased.filter fun code =>
        !set.containsCode code && (caseVariants code).any set.containsCode).map
      fun code => (code, code)⟩

/-- The members of a set below 128 with their ASCII case variants. -/
def closeAsciiCase (set : CharSet) : CharSet :=
  set.union
    ⟨(List.range 26).flatMap fun letter =>
      (if set.containsCode (0x41 + letter) then [(0x61 + letter, 0x61 + letter)] else []) ++
        (if set.containsCode (0x61 + letter) then [(0x41 + letter, 0x41 + letter)] else [])⟩

/-- Whether every member of a set is below 128. -/
def isAscii (set : CharSet) : Bool :=
  set.ranges.all fun range => range.2 < range.1 || range.2 < 128

/-- Join ranges that overlap or touch; the ranges come in the order of their
lower ends. -/
def joinRanges : List (Nat × Nat) → List (Nat × Nat) → List (Nat × Nat)
  | [], joined => joined.reverse
  | range :: ranges, [] => joinRanges ranges [range]
  | range :: ranges, last :: joined =>
      if range.1 ≤ last.2 + 1 then
        joinRanges ranges ((last.1, max last.2 range.2) :: joined)
      else
        joinRanges ranges (range :: last :: joined)

/-- The same set as disjoint ranges in ascending order. -/
def merged (set : CharSet) : CharSet :=
  ⟨joinRanges
    ((set.ranges.filter fun range => range.1 ≤ range.2).mergeSort
      fun left right => left.1 ≤ right.1) []⟩

@[simp] theorem containsCode_empty (code : Nat) :
    empty.containsCode code = false := rfl

@[simp] theorem containsCode_single (member code : Nat) :
    (single member).containsCode code = (code == member) := by
  rw [Bool.eq_iff_iff]
  simp only [containsCode, single, inRange, List.any_cons, List.any_nil, Bool.or_false,
    Bool.and_eq_true, decide_eq_true_eq, beq_iff_eq]
  omega

@[simp] theorem containsCode_union (left right : CharSet) (code : Nat) :
    (left.union right).containsCode code =
      (left.containsCode code || right.containsCode code) := by
  simp [containsCode, union]

theorem any_cutRange (removed range : Nat × Nat) (code : Nat) :
    (cutRange removed range).any (inRange code) =
      (inRange code range && !inRange code removed) := by
  rw [Bool.eq_iff_iff]
  unfold cutRange
  split
  · simp only [inRange, List.any_cons, List.any_nil, Bool.or_false, Bool.and_eq_true,
      decide_eq_true_eq, Bool.not_eq_true', Bool.and_eq_false_imp, decide_eq_false_iff_not]
    omega
  · simp only [List.any_append]
    split <;> split <;>
      simp only [inRange, List.any_cons, List.any_nil, Bool.or_false, Bool.false_or,
        Bool.or_eq_true, Bool.and_eq_true, decide_eq_true_eq, Bool.not_eq_true',
        Bool.and_eq_false_imp, decide_eq_false_iff_not, Bool.false_eq_true,
        false_iff] <;>
      omega

theorem any_flatMap_cutRange
    (removed : Nat × Nat)
    (ranges : List (Nat × Nat))
    (code : Nat) :
    (ranges.flatMap (cutRange removed)).any (inRange code) =
      (ranges.any (inRange code) && !inRange code removed) := by
  induction ranges with
  | nil => rfl
  | cons range ranges hypothesis =>
      simp only [List.flatMap_cons, List.any_append, List.any_cons, hypothesis,
        any_cutRange]
      cases inRange code range <;> cases inRange code removed <;> simp

@[simp] theorem containsCode_difference (set removed : CharSet) (code : Nat) :
    (set.difference removed).containsCode code =
      (set.containsCode code && !removed.containsCode code) := by
  obtain ⟨ranges⟩ := set
  obtain ⟨removed⟩ := removed
  simp only [difference, containsCode]
  induction removed generalizing ranges with
  | nil => simp
  | cons range removed hypothesis =>
      simp only [List.foldl_cons, hypothesis, any_flatMap_cutRange, List.any_cons]
      cases ranges.any (inRange code) <;> cases inRange code range <;> simp

@[simp] theorem containsCode_complement (set : CharSet) (code : Nat) :
    set.complement.containsCode code =
      (decide (code ≤ greatest) && !set.containsCode code) := by
  rw [complement, containsCode_difference]
  simp [full, containsCode, inRange]

end CharSet
end Unicode
end WorkloadPolicy
