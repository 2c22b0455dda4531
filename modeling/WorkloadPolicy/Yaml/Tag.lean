import WorkloadPolicy.Yaml.Cursor

/-!
# Tags and directives

A tag is written in full between angle brackets, or as a handle and a suffix.
Octets that are not plain may be escaped with percent signs.  A tag whose
octets are no text reads as the empty tag, which names nothing.
-/

namespace WorkloadPolicy
namespace Yaml

/-- A tag before its handle is resolved. -/
structure TagMark where
  handle : String
  suffix : String
  deriving DecidableEq, Repr

/-- Whether a character may stand in a tag.  Some flow indicators may only
stand in a tag that is written in full. -/
def isTagCharacter (full : Bool) (character : Char) : Bool :=
  isNameCharacter character ||
    [';', '/', '?', ':', '@', '&', '=', '+', '$', '.', '%', '!', '~', '*', '\'', '(',
      ')'].contains character ||
    (full && [',', '[', ']'].contains character)

/-- The count of octets of a character whose first octet is given. -/
def octetCount? (octet : Nat) : Option Nat :=
  if octet < 0x80 then some 1
  else if octet / 0x20 = 6 then some 2
  else if octet / 0x10 = 14 then some 3
  else if octet / 0x08 = 30 then some 4
  else none

/-- Read an escaped octet. -/
def escapedOctet? : List Char → Option (Nat × List Char)
  | '%' :: high :: low :: rest => do
      some ((← hexDigit? high) * 16 + (← hexDigit? low), rest)
  | _ => none

/-- Read further octets of an escaped character. -/
def furtherOctets? : Nat → List Char → Option (List Nat)
  | 0, _ => some []
  | count + 1, characters => do
      let (octet, rest) ← escapedOctet? characters
      if octet / 0x40 = 2 then
        some (octet :: (← furtherOctets? count rest))
      else
        none

/-- Read the octets of an escaped character. -/
def escapedCharacter? (characters : List Char) : Option (List Nat) := do
  let (octet, rest) ← escapedOctet? characters
  let count ← octetCount? octet
  some (octet :: (← furtherOctets? (count - 1) rest))

/-- Read the octets of a tag up to a character that cannot stand in one. -/
def tagOctets? (full : Bool) : Nat → Cursor → Option (List Nat × Cursor)
  | 0, _ => none
  | fuel + 1, cursor =>
      if cursor.isIn (isTagCharacter full) then
        if cursor.isAt '%' then do
          let octets ← escapedCharacter? cursor.rest
          let (others, after) ← tagOctets? full fuel (cursor.skip (3 * octets.length))
          some (octets ++ others, after)
        else do
          let octets := (cursor.rest.take 1).map Char.toNat
          let (others, after) ← tagOctets? full fuel (cursor.skip 1)
          some (octets ++ others, after)
      else
        some ([], cursor)

/-- The text of octets, empty if they are none. -/
def textOfOctets (octets : List Nat) : String :=
  (String.fromUTF8? ⟨(octets.map UInt8.ofNat).toArray⟩).getD ""

/-- Read the rest of a tag after what has been taken for its handle.  Nothing
at all is refused. -/
def tagSuffix? (full : Bool) (taken : List Char) (cursor : Cursor) :
    Option (String × Cursor) := do
  let (octets, after) ← tagOctets? full (cursor.rest.length + 1) cursor
  if taken.isEmpty && octets.isEmpty then
    none
  else
    some (textOfOctets ((taken.drop 1).map Char.toNat ++ octets), after)

/-- Read a handle: an exclamation mark, a name, and a second mark if there is
one. -/
def tagHandle? (cursor : Cursor) : Option (List Char × Cursor) :=
  if cursor.isAt '!' then
    let (name, after) := (cursor.skip 1).takeWhile isNameCharacter
    if after.isAt '!' then
      some ('!' :: name ++ ['!'], after.skip 1)
    else
      some ('!' :: name, after)
  else
    none

/-- Read a tag written in full. -/
def fullTag? (cursor : Cursor) : Option (TagMark × Cursor) := do
  let (suffix, after) ← tagSuffix? true [] (cursor.skip 2)
  if after.isAt '>' then some (⟨"", suffix⟩, after.skip 1) else none

/-- Read a tag with a handle. -/
def shortTag? (cursor : Cursor) : Option (TagMark × Cursor) := do
  let (handle, afterHandle) ← tagHandle? cursor
  if 1 < handle.length && handle.getLast? == some '!' then
    let (suffix, after) ← tagSuffix? false [] afterHandle
    some (⟨String.ofList handle, suffix⟩, after)
  else
    let (suffix, after) ← tagSuffix? false handle afterHandle
    if handle.length = 1 && after.index = afterHandle.index then
      some (⟨"", "!"⟩, after)
    else
      some (⟨"!", suffix⟩, after)

/-- Read a tag.  A blank must follow it, or a comma inside brackets. -/
def readTag? (inFlow : Bool) (cursor : Cursor) : Option (TagMark × Cursor) := do
  let (tag, after) ←
    if (cursor.skip 1).isAt '<' then fullTag? cursor else shortTag? cursor
  if after.blankAfter 0 || (inFlow && after.isAt ',') then some (tag, after) else none

/-- A directive in front of a document. -/
inductive Directive where
  | version (major minor : Nat)
  | tag (handle leading : String)
  deriving DecidableEq, Repr

/-- Read a number of at most nine digits. -/
def versionNumber? (cursor : Cursor) : Option (Nat × Cursor) :=
  let (digits, after) := cursor.takeWhile Char.isDigit
  if digits.isEmpty || 9 < digits.length then
    none
  else
    some
      (digits.foldl (fun number digit => number * 10 + (digit.toNat - '0'.toNat)) 0, after)

/-- Read the contents of a version directive. -/
def versionDirective? (cursor : Cursor) : Option (Directive × Cursor) := do
  let (major, afterMajor) ← versionNumber? cursor
  if afterMajor.isAt '.' then
    let (minor, after) ← versionNumber? (afterMajor.skip 1)
    some (.version major minor, after)
  else
    none

/-- Read the contents of a tag directive. -/
def tagDirective? (cursor : Cursor) : Option (Directive × Cursor) := do
  let (handle, afterHandle) ← tagHandle? cursor
  if handle.length = 1 || handle.getLast? == some '!' then
    if afterHandle.isIn isBlank then
      let (leading, after) ← tagSuffix? true [] (afterHandle.skipWhile isBlank)
      if after.blankAfter 0 then
        some (.tag (String.ofList handle) leading, after)
      else
        none
    else
      none
  else
    none

/-- Read a directive with the rest of its line. -/
def readDirective? (cursor : Cursor) : Option (Directive × Cursor) := do
  let (name, afterName) := (cursor.skip 1).takeWhile isNameCharacter
  if name.isEmpty || !afterName.blankAfter 0 then
    none
  else
    let contents := afterName.skipWhile isBlank
    let (directive, after) ←
      match String.ofList name with
      | "YAML" => versionDirective? contents
      | "TAG" => tagDirective? contents
      | _ => none
    some (directive, ← after.skipLineEnd?)

end Yaml
end WorkloadPolicy
