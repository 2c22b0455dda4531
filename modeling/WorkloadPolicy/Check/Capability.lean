import WorkloadPolicy.Check.Basic

/-!
# Names of capabilities

A capability may be named with or without `CAP_` in front, in any case.  A
policy's name is reduced to what follows; the pattern for it allows both
spellings.  The name is cut after its fourth byte to look for `CAP_`, which
fails when that byte is not the last of its character.
-/

namespace WorkloadPolicy
namespace Capability

/-- The characters of the first bytes and the rest, unless a character
straddles the cut. -/
def cutBytes? : Nat → List Char → Option (List Char × List Char)
  | 0, characters => some ([], characters)
  | _ + 1, [] => none
  | bytes + 1, character :: rest =>
      if character.utf8Size ≤ bytes + 1 then
        (cutBytes? (bytes + 1 - character.utf8Size) rest).map fun parts =>
          (character :: parts.1, parts.2)
      else
        none

/-- The name of a capability without blanks around it and `CAP_` in front. -/
def reduced? (name : String) : Option String :=
  let trimmed := Text.trim name
  if trimmed.utf8ByteSize < 4 then
    some trimmed
  else
    (cutBytes? 4 trimmed.toList).map fun parts =>
      if Text.equalIgnoringAsciiCase parts.1 ['C', 'A', 'P', '_'] then
        String.ofList parts.2
      else
        trimmed

/-- The reduced names of a list without the empty ones. -/
def reducedNames : List String → Except CheckError (List String)
  | [] => .ok []
  | name :: names =>
      match reduced? name with
      | none => .error (.brokenCapability name)
      | some reduced => do
          let others ← reducedNames names
          .ok (if reduced.isEmpty then others else reduced :: others)

/-- The pattern text for any of some capabilities. -/
def patternText (names : List String) : String :=
  "(CAP_)?(" ++ String.intercalate "|" (names.map Regex.escape) ++ ")"

/-- The characters before and after a cut are all of them. -/
theorem append_of_cutBytes?
    {bytes : Nat}
    {characters : List Char}
    {parts : List Char × List Char}
    (cut : cutBytes? bytes characters = some parts) :
    parts.1 ++ parts.2 = characters := by
  fun_induction cutBytes? bytes characters generalizing parts with
  | case1 characters =>
      simp only [Option.some.injEq] at cut
      subst cut
      rfl
  | case2 => simp at cut
  | case3 bytes character rest fits hypothesis =>
      obtain ⟨inner, found, rfl⟩ := Option.map_eq_some_iff.1 cut
      simp [hypothesis found]
  | case4 => simp at cut

end Capability
end WorkloadPolicy
