import WorkloadPolicy.Regex.Expr

/-!
# The size of a compiled expression

An expression may take at most ten mebibytes once it is compiled to an
automaton over the bytes of UTF-8.  The size is that of the larger of two
automata, one that reads texts forwards and records groups and one that reads
them backwards.  A state takes 32 bytes; a set of characters takes one chain of
states per sequence of byte ranges, and consecutive chains share their common
front.

The limit is approximate, for the size is that of the expression as it is
written.  An engine simplifies it first: a choice of single characters, say,
becomes one set.  An expression that is estimated above the limit may
therefore still compile.
-/

namespace WorkloadPolicy
namespace Regex

open Unicode

namespace Size

/-- The size of one state. -/
def state : Nat := 32

/-- The size of a state that branches two ways. -/
def branch : Nat := 40

/-- The greatest size of a compiled expression. -/
def greatest : Nat := 10 * (1 <<< 20)

/-- The bytes of a code point. -/
def bytes (code : Nat) : List Nat :=
  if code < 0x80 then [code]
  else if code < 0x800 then [0xC0 + code / 64, 0x80 + code % 64]
  else if code < 0x10000 then
    [0xE0 + code / 4096, 0x80 + code / 64 % 64, 0x80 + code % 64]
  else
    [0xF0 + code / 262144, 0x80 + code / 4096 % 64, 0x80 + code / 64 % 64, 0x80 + code % 64]

/-- Where to cut a range of code points so that the parts have simpler byte
sequences; the answer is the start of the second part. -/
def cutPoint? (first last : Nat) : Option Nat :=
  let atLength :=
    [0x7F, 0x7FF, 0xFFFF].find? fun limit => first ≤ limit && limit < last
  match atLength with
  | some limit => some (limit + 1)
  | none =>
      if last ≤ 0x7F then
        none
      else
        [64, 4096, 262144].findSome? fun block =>
          if first / block = last / block then none
          else if first % block ≠ 0 then some ((first / block + 1) * block)
          else if last % block ≠ block - 1 then some (last / block * block)
          else none

/-- The sequences of byte ranges for a range of code points without
surrogates; `fuel` bounds the count of nested cuts. -/
def sequencesWithin : Nat → Nat → Nat → List (List (Nat × Nat))
  | 0, _, _ => []
  | fuel + 1, first, last =>
      if last < first then
        []
      else
        match cutPoint? first last with
        | some middle =>
            sequencesWithin fuel first (middle - 1) ++ sequencesWithin fuel middle last
        | none => [(bytes first).zip (bytes last)]

/-- The sequences of byte ranges for a range of code points. -/
def sequences (range : Nat × Nat) : List (List (Nat × Nat)) :=
  if range.1 < 0xE000 ∧ 0xD7FF < range.2 then
    sequencesWithin 32 range.1 0xD7FF ++ sequencesWithin 32 0xE000 range.2
  else
    sequencesWithin 32 range.1 range.2

/-- The length of the common front of two sequences. -/
def commonFront : List (Nat × Nat) → List (Nat × Nat) → Nat
  | first :: left, second :: right => if first = second then commonFront left right + 1 else 0
  | _, _ => 0

/-- The count of states of the chains for sequences after a previous one. -/
def chainStates (previous : List (Nat × Nat)) : List (List (Nat × Nat)) → Nat
  | [] => 0
  | sequence :: rest =>
      sequence.length - commonFront previous sequence + chainStates sequence rest

/-- The size of a set of characters in the automaton that reads backwards. -/
def set (members : CharSet) : Nat :=
  match members.merged.ranges with
  | [] => state
  | [(first, last)] =>
      if first = last then
        state * (bytes first).length
      else if last < 0x80 then
        2 * state + 8
      else
        let all := sequences (first, last)
        state * (2 + chainStates [] all) + 4 * all.length
  | ranges =>
      if members.isAscii then
        2 * state + 8 * ranges.length
      else
        let all := ranges.flatMap sequences
        state * (2 + chainStates [] all) + 4 * all.length

/-- The size of an expression, given those of a set and of a group. -/
def expr (setSize : CharSet → Nat) (groupSize : Nat) : Expr → Nat
  | .empty => state
  | .set members => setSize members
  | .look _ => state
  | .concat first second => expr setSize groupSize first + expr setSize groupSize second
  | .alternate first second =>
      expr setSize groupSize first + expr setSize groupSize second + 2 * state + 8
  | .repeat body least most =>
      let once := expr setSize groupSize body
      match most with
      | none => max least 1 * once + branch
      | some most => least * once + (most - least) * (once + branch) + state
  | .capture body => expr setSize groupSize body + groupSize

/-- Whether the automata of an expression are small enough. -/
def fits (expression : Expr) : Bool :=
  let forwardSet := fun members : CharSet =>
    if members.isAscii then set members else set members / 2
  expr set 0 expression ≤ greatest && expr forwardSet (2 * state) expression ≤ greatest

end Size
end Regex
end WorkloadPolicy
