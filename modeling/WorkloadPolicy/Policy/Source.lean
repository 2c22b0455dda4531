import WorkloadPolicy.Policy.Reading
import WorkloadPolicy.Yaml.Reading

/-!
# Policies from files

A policy is written as a YAML document in a file of UTF-8 text.
-/

namespace WorkloadPolicy

/-- Why a file holds no policy. -/
inductive SourceError where
  /-- There is no such file, or it is no text. -/
  | unreadable
  /-- The text is no document of a policy. -/
  | malformed
  deriving DecidableEq, Repr

namespace Policy

/-- Read a policy from the text of a document. -/
def ofYaml? (text : String) : Except SourceError Policy :=
  match (Yaml.Tree.read? text).bind Policy.read? with
  | some policy => .ok policy
  | none => .error .malformed

/-- Read a policy from the contents of a file. -/
def ofFile? (contents : Option ByteArray) : Except SourceError Policy :=
  match contents.bind String.fromUTF8? with
  | some text => ofYaml? text
  | none => .error .unreadable

end Policy
end WorkloadPolicy
