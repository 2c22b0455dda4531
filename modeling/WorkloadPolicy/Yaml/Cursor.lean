/-!
# Positions in a YAML text

A cursor is what is left of a text together with the position reached.  Lines
end in a line feed, a carriage return, both together, a next-line mark, or a
line or paragraph separator.  The end of the text counts as a blank.
-/

namespace WorkloadPolicy
namespace Yaml

/-- Whether a character may stand in a document. -/
def isAllowed (character : Char) : Bool :=
  let code := character.toNat
  code == 0x09 || code == 0x0A || code == 0x0D || (0x20 ≤ code && code ≤ 0x7E) ||
    code == 0x85 || (0xA0 ≤ code && code ≤ 0xD7FF) || (0xE000 ≤ code && code ≤ 0xFFFD) ||
    0x10000 ≤ code

/-- Whether a character is a space or a tab. -/
def isBlank (character : Char) : Bool :=
  character == ' ' || character == '\t'

/-- Whether a character ends a line. -/
def isBreak (character : Char) : Bool :=
  character == '\n' || character == '\r' || character == '\x85' || character == '\u2028' ||
    character == '\u2029'

/-- Whether a character is a blank or ends a line. -/
def isBlankOrBreak (character : Char) : Bool :=
  isBlank character || isBreak character

/-- Whether a character may stand in the name of an anchor, a handle or a
directive. -/
def isNameCharacter (character : Char) : Bool :=
  character.isAlphanum || character == '-' || character == '_'

/-- The value of a hexadecimal digit. -/
def hexDigit? (character : Char) : Option Nat :=
  if character.isDigit then
    some (character.toNat - '0'.toNat)
  else if 'a' ≤ character ∧ character ≤ 'f' then
    some (character.toNat - 'a'.toNat + 10)
  else if 'A' ≤ character ∧ character ≤ 'F' then
    some (character.toNat - 'A'.toNat + 10)
  else
    none

/-- What is left of a text and the position in it. -/
structure Cursor where
  rest : List Char
  index : Nat := 0
  line : Nat := 0
  column : Nat := 0

namespace Cursor

/-- The next character. -/
def next? (cursor : Cursor) : Option Char :=
  cursor.rest.head?

/-- Whether the next character is the given one. -/
def isAt (cursor : Cursor) (character : Char) : Bool :=
  cursor.rest.head? == some character

/-- Whether the next character is of a class. -/
def isIn (cursor : Cursor) (members : Char → Bool) : Bool :=
  cursor.rest.head?.any members

/-- Whether a blank, the end of the line or the end of the text follows after
some characters. -/
def blankAfter (cursor : Cursor) (count : Nat) : Bool :=
  (cursor.rest[count]?).all isBlankOrBreak

/-- Whether the end of the line or of the text is reached. -/
def atLineEnd (cursor : Cursor) : Bool :=
  cursor.rest.head?.all isBreak

/-- Pass over characters that end no line. -/
def skip (cursor : Cursor) (count : Nat) : Cursor :=
  { cursor with
    rest := cursor.rest.drop count
    index := cursor.index + count
    column := cursor.column + count }

/-- The characters of a class that come next, and what follows them. -/
def takeWhile (cursor : Cursor) (members : Char → Bool) : List Char × Cursor :=
  let taken := cursor.rest.takeWhile members
  (taken, cursor.skip taken.length)

/-- Pass over the characters of a class. -/
def skipWhile (cursor : Cursor) (members : Char → Bool) : Cursor :=
  (cursor.takeWhile members).2

/-- Take the end of a line.  Every end of a line reads as a line feed but the
separators, which stand for themselves. -/
def takeBreak? (cursor : Cursor) : Option (Char × Cursor) :=
  let passed := fun (character : Char) (count : Nat) =>
    some
      (character,
        { rest := cursor.rest.drop count
          index := cursor.index + count
          line := cursor.line + 1
          column := 0 : Cursor })
  match cursor.rest with
  | '\r' :: '\n' :: _ => passed '\n' 2
  | character :: _ =>
      if character == '\u2028' || character == '\u2029' then passed character 1
      else if isBreak character then passed '\n' 1
      else none
  | [] => none

/-- Pass over the end of a line, if it is reached. -/
def skipBreak (cursor : Cursor) : Cursor :=
  match cursor.takeBreak? with
  | some (_, after) => after
  | none => cursor

/-- Pass over blanks and a comment. -/
def skipComment (cursor : Cursor) : Cursor :=
  if cursor.isAt '#' then cursor.skipWhile fun character => !isBreak character else cursor

/-- Pass over what may stand at the end of a line; anything else there is
refused. -/
def skipLineEnd? (cursor : Cursor) : Option Cursor :=
  let after := (cursor.skipWhile isBlank).skipComment
  if after.atLineEnd then some after.skipBreak else none

/-- Whether a mark of three characters stands alone at the start of a line. -/
def isAtMark (cursor : Cursor) (character : Char) : Bool :=
  cursor.column == 0 && cursor.rest.take 3 == [character, character, character] &&
    cursor.blankAfter 3

/-- Whether the start or the end of a document is marked here. -/
def isAtDocumentMark (cursor : Cursor) : Bool :=
  cursor.isAtMark '-' || cursor.isAtMark '.'

end Cursor
end Yaml
end WorkloadPolicy
