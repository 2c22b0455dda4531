/-!
# Flags

Flags change how the rest of a group is read.  A list of flags names those to
set and, after a hyphen, those to clear.  No flag may be named twice, there is
at most one hyphen, and a hyphen needs a flag after it.
-/

namespace WorkloadPolicy
namespace Regex

/-- How a part of a pattern is read. -/
structure Flags where
  /-- Letters match their case variants. -/
  insensitive : Bool
  /-- Line anchors match at every line. -/
  multiLine : Bool := false
  /-- The dot matches line ends too. -/
  dotAll : Bool := false
  /-- Lines may end in a carriage return. -/
  anyLineEnd : Bool := false
  /-- Blanks and comments in the pattern are passed over. -/
  ignoreSpace : Bool := false
  /-- Classes and case variants are those of Unicode. -/
  unicode : Bool := true
  deriving DecidableEq, Repr

namespace Flags

/-- The letters of flags. -/
def letters : List Char := ['i', 'm', 's', 'U', 'u', 'R', 'x']

/-- Set or clear one flag.  The flag `U` swaps greedy and lazy repetition,
which does not change whether a text matches. -/
def change (flags : Flags) (letter : Char) (value : Bool) : Flags :=
  if letter = 'i' then { flags with insensitive := value }
  else if letter = 'm' then { flags with multiLine := value }
  else if letter = 's' then { flags with dotAll := value }
  else if letter = 'u' then { flags with unicode := value }
  else if letter = 'R' then { flags with anyLineEnd := value }
  else if letter = 'x' then { flags with ignoreSpace := value }
  else flags

/-- Whether a list of flags is well formed. -/
def isList (list : List Char) : Bool :=
  list.all (fun letter => letter == '-' || letters.contains letter) &&
    list.eraseDups == list && list.getLast? != some '-'

/-- Apply a well-formed list of flags. -/
def apply (flags : Flags) (list : List Char) : Flags :=
  let set := list.takeWhile (· != '-')
  let cleared := list.dropWhile (· != '-')
  cleared.foldl (fun flags letter => flags.change letter false)
    (set.foldl (fun flags letter => flags.change letter true) flags)

end Flags
end Regex
end WorkloadPolicy
