import WorkloadPolicy.Regex.Expr
import WorkloadPolicy.Regex.Flags
import WorkloadPolicy.Text

/-!
# Single characters, escapes and named classes

The smallest parts of a pattern are literal characters, escapes, and classes
that have a name.  An escape stands for a literal character, a set of
characters or a condition.  With the Unicode flag cleared only sets of ASCII
characters are allowed.
-/

namespace WorkloadPolicy
namespace Regex

open Unicode

/-- What a character or an escape stands for. -/
inductive Atom where
  /-- A literal character; `byte` if two hexadecimal digits gave it. -/
  | literal (character : Char) (byte : Bool)
  | set (members : CharSet)
  | look (condition : Look)
  deriving Repr

/-- Pass over blanks and comments. -/
def dropSpace : Nat → List Char → List Char
  | 0, characters => characters
  | fuel + 1, characters =>
      match characters.dropWhile Text.isBlank with
      | '#' :: rest => dropSpace fuel ((rest.dropWhile (· != '\n')).drop 1)
      | rest => rest

/-- Pass over blanks and comments if the flags say so. -/
def skipSpace (flags : Flags) (characters : List Char) : List Char :=
  if flags.ignoreSpace then dropSpace (characters.length + 1) characters else characters

/-- The characters with a meaning of their own in patterns. -/
def isMeta (character : Char) : Bool :=
  ['\\', '.', '+', '*', '?', '(', ')', '|', '[', ']', '\x7b', '\x7d', '^', '$', '#', '&',
    '-', '~'].contains character

/-- Whether a backslash before a character makes it literal. -/
def isEscapable (character : Char) : Bool :=
  character.toNat < 128 && !character.isAlphanum && character != '<' && character != '>'

/-- A backslash before every character with a meaning of its own. -/
def escapeChars : List Char → List Char
  | [] => []
  | character :: rest =>
      if isMeta character then
        '\\' :: character :: escapeChars rest
      else
        character :: escapeChars rest

/-- The pattern that matches a text literally. -/
def escape (text : String) : String :=
  String.ofList (escapeChars text.toList)

namespace Class

/-- The ASCII characters of words. -/
def asciiWord : CharSet := ⟨[(0x30, 0x39), (0x41, 0x5A), (0x5F, 0x5F), (0x61, 0x7A)]⟩

/-- The characters of words under the flags. -/
def word (flags : Flags) : CharSet :=
  if flags.unicode then Property.word else asciiWord

/-- Add case variants under the flags. -/
def fold (flags : Flags) (members : CharSet) : CharSet :=
  if flags.insensitive then
    if flags.unicode then members.closeCase else members.closeAsciiCase
  else
    members

/-- The complement if asked for.  Without Unicode it would contain characters
that are not allowed. -/
def negate? (flags : Flags) (negated : Bool) (members : CharSet) : Option CharSet :=
  if flags.unicode then
    some (if negated then members.complement else members)
  else if negated || !members.isAscii then
    none
  else
    some members

/-- The class of a letter after a backslash. -/
def perl? (flags : Flags) (letter : Char) : Option CharSet :=
  if letter = 'd' then
    some (if flags.unicode then Property.digit else .range 0x30 0x39)
  else if letter = 's' then
    some (if flags.unicode then Property.space else ⟨[(9, 13), (0x20, 0x20)]⟩)
  else if letter = 'w' then
    some (word flags)
  else
    none

/-- The ASCII classes that have a name between colons. -/
def ascii : List (String × CharSet) :=
  [("alnum", ⟨[(0x30, 0x39), (0x41, 0x5A), (0x61, 0x7A)]⟩),
    ("alpha", ⟨[(0x41, 0x5A), (0x61, 0x7A)]⟩),
    ("ascii", ⟨[(0, 0x7F)]⟩),
    ("blank", ⟨[(9, 9), (0x20, 0x20)]⟩),
    ("cntrl", ⟨[(0, 0x1F), (0x7F, 0x7F)]⟩),
    ("digit", ⟨[(0x30, 0x39)]⟩),
    ("graph", ⟨[(0x21, 0x7E)]⟩),
    ("lower", ⟨[(0x61, 0x7A)]⟩),
    ("print", ⟨[(0x20, 0x7E)]⟩),
    ("punct", ⟨[(0x21, 0x2F), (0x3A, 0x40), (0x5B, 0x60), (0x7B, 0x7E)]⟩),
    ("space", ⟨[(9, 13), (0x20, 0x20)]⟩),
    ("upper", ⟨[(0x41, 0x5A)]⟩),
    ("word", asciiWord),
    ("xdigit", ⟨[(0x30, 0x39), (0x41, 0x46), (0x61, 0x66)]⟩)]

/-- Take a class such as `:alpha:` with its closing bracket from the front of a
text.  The outer option says whether there is one. -/
def named?
    (flags : Flags)
    (characters : List Char) : Option (Option CharSet × List Char) := do
  match characters with
  | ':' :: rest =>
      let (negated, rest) : Bool × List Char :=
        match rest with
        | '^' :: rest => (true, rest)
        | rest => (false, rest)
      match rest.dropWhile (· != ':') with
      | ':' :: ']' :: after =>
          let members ← ascii.lookup (String.ofList (rest.takeWhile (· != ':')))
          some (negate? flags negated (fold flags members), after)
      | _ => none
  | _ => none

end Class

/-- The value of a hexadecimal digit. -/
def hexDigit? (character : Char) : Option Nat :=
  if character.isDigit then some (character.toNat - 48)
  else if 'a' ≤ character ∧ character ≤ 'f' then some (character.toNat - 87)
  else if 'A' ≤ character ∧ character ≤ 'F' then some (character.toNat - 55)
  else none

/-- The character with a given code point, if there is one. -/
def charOf? (code : Nat) : Option Char :=
  if code.isValidChar then some (Char.ofNat code) else none

/-- Read exactly `count` hexadecimal digits. -/
def hexFixed?
    (flags : Flags)
    (value : Nat) : Nat → List Char → Option (Nat × List Char)
  | 0, rest => some (value, rest)
  | count + 1, digit :: rest => do
      hexFixed? flags (16 * value + (← hexDigit? digit)) count (skipSpace flags rest)
  | _ + 1, [] => none

/-- Read hexadecimal digits up to a closing brace.  The value is kept below a
bound beyond all code points. -/
def hexBraced?
    (flags : Flags)
    (value count : Nat) : Nat → List Char → Option (Nat × List Char)
  | 0, _ => none
  | fuel + 1, characters =>
      match skipSpace flags characters with
      | [] => none
      | '\x7d' :: rest => if count = 0 then none else some (value, rest)
      | digit :: rest => do
          let digit ← hexDigit? digit
          hexBraced? flags (min (16 * value + digit) (1 <<< 32)) (count + 1) fuel rest

/-- Read the digits of a hexadecimal escape whose fixed form has `width` of
them. -/
def hex?
    (flags : Flags)
    (width : Nat)
    (characters : List Char) : Option (Atom × List Char) := do
  match skipSpace flags characters with
  | '\x7b' :: rest =>
      let (code, rest) ← hexBraced? flags 0 0 (rest.length + 1) rest
      some (.literal (← charOf? code) false, skipSpace flags rest)
  | rest =>
      let (code, rest) ← hexFixed? flags 0 width rest
      some (.literal (← charOf? code) (width == 2), rest)

/-- The text inside braces, with blanks passed over if the flags say so. -/
def braced?
    (flags : Flags)
    (reversed : List Char) : Nat → List Char → Option (List Char × List Char)
  | 0, _ => none
  | fuel + 1, characters =>
      match skipSpace flags characters with
      | [] => none
      | '\x7d' :: rest => some (reversed.reverse, rest)
      | character :: rest => braced? flags (character :: reversed) fuel rest

/-- Cut a text at the first occurrence of a separator. -/
def cutAt? (separator : List Char) : List Char → Option (List Char × List Char)
  | [] => none
  | character :: rest =>
      if separator.isPrefixOf (character :: rest) then
        some ([], (character :: rest).drop separator.length)
      else
        (cutAt? separator rest).map fun (before, after) => (character :: before, after)

/-- The set that the name of a property stands for, and whether the name
negates it. -/
def property? (name : List Char) : Option (Bool × CharSet) :=
  match cutAt? ['!', '='] name with
  | some (property, value) => (Property.valued? property value).map (true, ·)
  | none =>
      match (cutAt? [':'] name).or (cutAt? ['='] name) with
      | some (property, value) => (Property.valued? property value).map (false, ·)
      | none => (Property.named? name).map (false, ·)

/-- Read the name of a property after the letter of its escape. -/
def propertyEscape?
    (flags : Flags)
    (negated : Bool)
    (characters : List Char) : Option (Atom × List Char) := do
  let (name, rest) ←
    match skipSpace flags characters with
    | '\x7b' :: rest => braced? flags [] (rest.length + 1) rest
    | '\\' :: _ => none
    | letter :: rest => some ([letter], skipSpace flags rest)
    | [] => none
  if flags.unicode then
    let (unequal, members) ← property? name
    let members ← Class.negate? flags (negated != unequal) (Class.fold flags members)
    some (.set members, rest)
  else
    none

/-- Read letters and hyphens up to a closing brace, in reverse. -/
def boundaryName?
    (flags : Flags)
    (reversed : List Char) : Nat → List Char → Option (List Char × List Char)
  | 0, _ => none
  | fuel + 1, characters =>
      match characters with
      | '\x7d' :: rest => some (reversed.reverse, rest)
      | character :: rest =>
          if character.isAlpha || character == '-' then
            boundaryName? flags (character :: reversed) fuel (skipSpace flags rest)
          else
            none
      | [] => none

/-- What follows the escape of a word boundary: a name in braces for a special
boundary, or anything else. -/
def boundary?
    (flags : Flags)
    (characters : List Char) : Option (Atom × List Char) :=
  let word := Class.word flags
  match characters with
  | '\x7b' :: rest =>
      match skipSpace flags rest with
      | [] => none
      | first :: inner =>
          if first.isAlpha || first == '-' then do
            let (name, rest) ← boundaryName? flags [] (inner.length + 2) (first :: inner)
            let name := String.ofList name
            if name = "start" then some (.look (.wordStart word), rest)
            else if name = "end" then some (.look (.wordEnd word), rest)
            else if name = "start-half" then some (.look (.wordStartHalf word), rest)
            else if name = "end-half" then some (.look (.wordEndHalf word), rest)
            else none
          else
            some (.look (.wordBoundary word), characters)
  | _ => some (.look (.wordBoundary word), characters)

/-- The escapes that stand for one control character. -/
def control? (letter : Char) : Option Char :=
  if letter = 'a' then some (Char.ofNat 7)
  else if letter = 'f' then some (Char.ofNat 12)
  else if letter = 't' then some '\t'
  else if letter = 'n' then some '\n'
  else if letter = 'r' then some '\r'
  else if letter = 'v' then some (Char.ofNat 11)
  else none

/-- The escapes that stand for a condition, word boundaries apart. -/
def condition? (flags : Flags) (letter : Char) : Option Look :=
  if letter = 'A' then some .textStart
  else if letter = 'z' then some .textEnd
  else if letter = 'B' then some (.notWordBoundary (Class.word flags))
  else if letter = '<' then some (.wordStart (Class.word flags))
  else if letter = '>' then some (.wordEnd (Class.word flags))
  else none

/-- Read an escape after its backslash. -/
def escape? (flags : Flags) : List Char → Option (Atom × List Char)
  | [] => none
  | letter :: rest =>
      if letter = 'x' then hex? flags 2 rest
      else if letter = 'u' then hex? flags 4 rest
      else if letter = 'U' then hex? flags 8 rest
      else if letter = 'p' then propertyEscape? flags false rest
      else if letter = 'P' then propertyEscape? flags true rest
      else if letter = 'b' then boundary? flags rest
      else if isEscapable letter then some (.literal letter false, rest)
      else
        match Class.perl? flags letter.toLower with
        | some members =>
            (Class.negate? flags letter.isUpper members).map fun members =>
              (.set members, rest)
        | none =>
            match control? letter with
            | some character => some (.literal character false, rest)
            | none => (condition? flags letter).map fun condition => (.look condition, rest)

/-- The set that a literal character stands for under the flags. -/
def literalSet? (flags : Flags) (character : Char) (byte : Bool) : Option CharSet :=
  if flags.unicode then
    some
      (if flags.insensitive then .variantsOf character.toNat else .single character.toNat)
  else if 0x7F < character.toNat then
    if byte then none else some (.single character.toNat)
  else
    some (Class.fold flags (.single character.toNat))

/-- The expression that an atom stands for under the flags. -/
def Atom.expr? (flags : Flags) : Atom → Option Expr
  | literal character byte => (literalSet? flags character byte).map .set
  | set members => some (.set members)
  | look condition => some (.look condition)

end Regex
end WorkloadPolicy
