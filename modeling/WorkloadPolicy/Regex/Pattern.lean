import WorkloadPolicy.Regex.Reader
import WorkloadPolicy.Regex.Size

/-!
# Compiled patterns

A pattern is compiled once and then tested against many texts.  It is kept
together with the source text it was compiled from.  A pattern for whole
values is put between anchors as text before it is read.
-/

namespace WorkloadPolicy

/-- A compiled pattern. -/
structure Pattern where
  /-- The text that was compiled. -/
  source : String
  expr : Regex.Expr
  deriving DecidableEq, Repr

namespace Pattern

/-- Compile a pattern, if it is well formed and not too large. -/
def compile? (insensitive : Bool) (source : String) : Option Pattern :=
  match Regex.read? ⟨insensitive, false, false, false, false, true⟩ source.toList with
  | some expr => if Regex.Size.fits expr then some ⟨source, expr⟩ else none
  | none => none

/-- The pattern text that matches whole values only. -/
def anchored (source : String) : String :=
  "^(?:" ++ source ++ ")$"

/-- Whether a pattern matches somewhere in a text. -/
def isMatch (pattern : Pattern) (text : String) : Bool :=
  pattern.expr.matchesIn text.toList

end Pattern
end WorkloadPolicy
