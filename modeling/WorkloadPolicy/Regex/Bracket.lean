import WorkloadPolicy.Regex.Atom

/-!
# Bracketed classes

A bracketed class is a union of characters, ranges, named classes and nested
brackets.  The marks `&&`, `--` and `~~` stand between unions and mean
intersection, difference and symmetric difference; they group to the left.
The depth of nesting is counted along, because it is limited for the pattern
as a whole.
-/

namespace WorkloadPolicy
namespace Regex

open Unicode

namespace Bracket

/-- A mark between two unions. -/
inductive Mark where
  | intersection
  | difference
  | symmetricDifference
  deriving DecidableEq, Repr

/-- A set with the depth of its nesting. -/
structure Operand where
  members : CharSet
  depth : Nat

/-- What has been read of a bracketed class. -/
structure Progress where
  /-- What stands before the last mark. -/
  pending : Option (Operand × Mark) := none
  /-- The union after the last mark. -/
  members : CharSet := .empty
  /-- The count of its items. -/
  items : Nat := 0
  /-- The greatest depth of its items. -/
  depth : Nat := 0

namespace Progress

/-- Add an item to the union. -/
def add (progress : Progress) (members : CharSet) (depth : Nat) : Progress :=
  { progress with
    members := progress.members.union members
    items := progress.items + 1
    depth := max progress.depth depth }

/-- The union that has been read; several items are one level deeper. -/
def union (progress : Progress) : Operand :=
  ⟨progress.members, if progress.items ≤ 1 then progress.depth else progress.depth + 1⟩

/-- Apply the pending mark. -/
def operand (flags : Flags) (progress : Progress) : Operand :=
  match progress.pending with
  | none => progress.union
  | some (left, mark) =>
      let right := progress.union
      let first := Class.fold flags left.members
      let second := Class.fold flags right.members
      let members :=
        match mark with
        | .intersection => first.intersection second
        | .difference => first.difference second
        | .symmetricDifference => first.symmetricDifference second
      ⟨members, max left.depth right.depth + 1⟩

/-- Put everything read so far before a mark. -/
def push (flags : Flags) (progress : Progress) (mark : Mark) : Progress :=
  { pending := some (progress.operand flags, mark) }

end Progress

/-- A single character or an escape. -/
def item? (flags : Flags) : List Char → Option (Atom × List Char)
  | '\\' :: rest => escape? flags rest
  | character :: rest => some (.literal character false, rest)
  | [] => none

/-- The set of an atom that stands by itself. -/
def atomSet? (flags : Flags) : Atom → Option CharSet
  | .literal character _ =>
      if flags.unicode || character.toNat ≤ 0x7F then
        some (.single character.toNat)
      else
        none
  | .set members => some members
  | .look _ => none

/-- The range between two atoms, which must be literal characters. -/
def rangeSet? (flags : Flags) : Atom → Atom → Option CharSet
  | .literal first _, .literal last _ =>
      if first.toNat ≤ last.toNat && (flags.unicode || last.toNat ≤ 0x7F) then
        some (.range first.toNat last.toNat)
      else
        none
  | _, _ => none

/-- Whether a hyphen is followed by something that keeps it from making a
range. -/
def endsRange (flags : Flags) (afterHyphen : List Char) : Bool :=
  match skipSpace flags afterHyphen with
  | ']' :: _ => true
  | '-' :: _ => true
  | _ => false

/-- A range, or an atom by itself. -/
def range? (flags : Flags) (characters : List Char) : Option (CharSet × List Char) := do
  let (first, rest) ← item? flags characters
  match skipSpace flags rest with
  | [] => none
  | '-' :: after =>
      if endsRange flags after then
        some (← atomSet? flags first, '-' :: after)
      else
        let (last, rest) ← item? flags (skipSpace flags after)
        some (← rangeSet? flags first last, rest)
  | rest => some (← atomSet? flags first, rest)

/-- Hyphens at the front of a class are literal. -/
def leadingHyphens
    (flags : Flags)
    (progress : Progress) : Nat → List Char → Progress × List Char
  | 0, characters => (progress, characters)
  | fuel + 1, characters =>
      match characters with
      | '-' :: rest =>
          leadingHyphens flags (progress.add (.single '-'.toNat) 0) fuel (skipSpace flags rest)
      | rest => (progress, rest)

/-- What may stand only at the front of a class: a caret that negates it,
literal hyphens, and without those a literal closing bracket. -/
def front (flags : Flags) (characters : List Char) : Bool × Progress × List Char :=
  let (negated, rest) : Bool × List Char :=
    match skipSpace flags characters with
    | '^' :: rest => (true, skipSpace flags rest)
    | rest => (false, rest)
  let (progress, rest) := leadingHyphens flags {} (rest.length + 1) rest
  if progress.items = 0 then
    match rest with
    | ']' :: rest => (negated, progress.add (.single ']'.toNat) 0, skipSpace flags rest)
    | rest => (negated, progress, rest)
  else
    (negated, progress, rest)

/-- The rest of a class up to its closing bracket.  Every step consumes a
character, so the length of the text is fuel enough. -/
def items?
    (flags : Flags)
    (negated : Bool)
    (progress : Progress) : Nat → List Char → Option (Operand × List Char)
  | 0, _ => none
  | fuel + 1, characters =>
      match skipSpace flags characters with
      | [] => none
      | '[' :: rest =>
          match Class.named? flags rest with
          | some (some members, rest) => items? flags negated (progress.add members 0) fuel rest
          | some (none, _) => none
          | none =>
              let (innerNegated, inner, rest) := front flags rest
              match items? flags innerNegated inner fuel rest with
              | some (operand, rest) =>
                  items? flags negated (progress.add operand.members operand.depth) fuel rest
              | none => none
      | ']' :: rest =>
          let operand := progress.operand flags
          match Class.negate? flags negated (Class.fold flags operand.members) with
          | some members => some (⟨members, operand.depth + 1⟩, rest)
          | none => none
      | '&' :: '&' :: rest =>
          items? flags negated (progress.push flags .intersection) fuel rest
      | '-' :: '-' :: rest =>
          items? flags negated (progress.push flags .difference) fuel rest
      | '~' :: '~' :: rest =>
          items? flags negated (progress.push flags .symmetricDifference) fuel rest
      | rest =>
          match range? flags rest with
          | some (members, rest) => items? flags negated (progress.add members 0) fuel rest
          | none => none

/-- A class after its opening bracket. -/
def read? (flags : Flags) (characters : List Char) : Option (Operand × List Char) :=
  let (negated, progress, rest) := front flags characters
  items? flags negated progress (rest.length + 1) rest

end Bracket
end Regex
end WorkloadPolicy
