import WorkloadPolicy.Unicode.Property

/-!
# Regular expressions and where they match

An expression relates positions of a text: it leads from a start position to
every position where a match that begins there can end.  A set of positions is
kept as a natural number whose bit `i` says whether position `i` belongs to
it, and an expression acts on such sets.  Repetition iterates this action; a
repetition without an upper bound is followed until no position is new, which
happens after at most as many rounds as the text has positions.
-/

namespace WorkloadPolicy
namespace Regex

open Unicode

/-- A condition on the characters around a position. -/
inductive Look where
  /-- The start of the text. -/
  | textStart
  /-- The end of the text. -/
  | textEnd
  /-- The start of a line that a line feed ends. -/
  | lineStart
  /-- The end of a line that a line feed ends. -/
  | lineEnd
  /-- The start of a line that a carriage return, a line feed or both end. -/
  | anyLineStart
  /-- The end of a line that a carriage return, a line feed or both end. -/
  | anyLineEnd
  | wordBoundary (word : CharSet)
  | notWordBoundary (word : CharSet)
  | wordStart (word : CharSet)
  | wordEnd (word : CharSet)
  /-- No word character before. -/
  | wordStartHalf (word : CharSet)
  /-- No word character after. -/
  | wordEndHalf (word : CharSet)
  deriving DecidableEq, Repr

/-- A regular expression. -/
inductive Expr where
  | empty
  | set (members : CharSet)
  | look (condition : Look)
  | concat (first second : Expr)
  | alternate (first second : Expr)
  /-- At least `least` and at most `most` times. -/
  | repeat (body : Expr) (least : Nat) (most : Option Nat)
  /-- A capturing group. -/
  | capture (body : Expr)
  deriving DecidableEq, Repr

namespace Look

/-- Whether an optional neighbour is a word character. -/
def isWord (word : CharSet) (neighbour : Option Char) : Bool :=
  match neighbour with
  | some character => word.contains character
  | none => false

/-- Whether a condition holds between two neighbours, which are absent at the
ends of the text. -/
def holds (condition : Look) (before after : Option Char) : Bool :=
  match condition with
  | textStart => before.isNone
  | textEnd => after.isNone
  | lineStart => before.isNone || before == some '\n'
  | lineEnd => after.isNone || after == some '\n'
  | anyLineStart =>
      before.isNone || before == some '\n' ||
        (before == some '\r' && after != some '\n')
  | anyLineEnd =>
      after.isNone || after == some '\r' ||
        (after == some '\n' && before != some '\r')
  | wordBoundary word => isWord word before != isWord word after
  | notWordBoundary word => isWord word before == isWord word after
  | wordStart word => !isWord word before && isWord word after
  | wordEnd word => isWord word before && !isWord word after
  | wordStartHalf word => !isWord word before
  | wordEndHalf word => !isWord word after

end Look

/-- The positions before the characters of a text that satisfy a test. -/
def charMask (test : Char → Bool) : List Char → Nat
  | [] => 0
  | character :: rest => 2 * charMask test rest + if test character then 1 else 0

/-- The positions of a text whose neighbours satisfy a test. -/
def gapMask
    (test : Option Char → Option Char → Bool)
    (before : Option Char) : List Char → Nat
  | [] => if test before none then 1 else 0
  | character :: rest =>
      2 * gapMask test (some character) rest +
        if test before (some character) then 1 else 0

/-- Apply an action the given number of times.  Once it changes nothing it need
not be applied again. -/
def iterate (action : Nat → Nat) : Nat → Nat → Nat
  | 0, positions => positions
  | times + 1, positions =>
      let next := action positions
      if next = positions then positions else iterate action times next

/-- The positions reached by applying an action at most `times` times. -/
def upTo (action : Nat → Nat) : Nat → Nat → Nat
  | 0, positions => positions
  | times + 1, positions =>
      let grown := positions ||| action positions
      if grown = positions then positions else upTo action times grown

namespace Expr

/-- The positions where matches end that begin at one of the given positions. -/
def ends (text : List Char) : Expr → Nat → Nat
  | empty, positions => positions
  | set members, positions => 2 * (positions &&& charMask members.contains text)
  | look condition, positions => positions &&& gapMask condition.holds none text
  | concat first second, positions => second.ends text (first.ends text positions)
  | alternate first second, positions =>
      first.ends text positions ||| second.ends text positions
  | .repeat body least most, positions =>
      let further :=
        match most with
        | none => text.length + 1
        | some most => most - least
      upTo (body.ends text) further (iterate (body.ends text) least positions)
  | capture body, positions => body.ends text positions

/-- Whether an expression matches somewhere in a text. -/
def matchesIn (expr : Expr) (text : List Char) : Bool :=
  expr.ends text (1 <<< (text.length + 1) - 1) != 0

end Expr
end Regex
end WorkloadPolicy
