import WorkloadPolicy.Json.Numeral

/-!
# Reading JSON text

The reader accepts the JSON grammar, with lists and objects nested 127 deep at
most.  It works on the list of characters; every step consumes at least one
character, so the length of the text bounds the depth of the recursion.  Of two
members with one name in an object the last one counts.
-/

namespace WorkloadPolicy
namespace Json
namespace Reader

/-- The blanks of the grammar. -/
def isSpace (character : Char) : Bool :=
  character == ' ' || character == '\n' || character == '\t' || character == '\r'

/-- Pass over blanks. -/
def skip (characters : List Char) : List Char :=
  characters.dropWhile isSpace

/-- The value of a hexadecimal digit. -/
def hexDigit? (character : Char) : Option Nat :=
  if character.isDigit then some (character.toNat - 48)
  else if 'a' ≤ character ∧ character ≤ 'f' then some (character.toNat - 87)
  else if 'A' ≤ character ∧ character ≤ 'F' then some (character.toNat - 55)
  else none

/-- Four hexadecimal digits. -/
def unit? : List Char → Option (Nat × List Char)
  | first :: second :: third :: fourth :: rest => do
      let first ← hexDigit? first
      let second ← hexDigit? second
      let third ← hexDigit? third
      let fourth ← hexDigit? fourth
      some (((first * 16 + second) * 16 + third) * 16 + fourth, rest)
  | _ => none

/-- The character of a four-digit escape.  A high surrogate needs a low one
right after it. -/
def unicodeEscape? (characters : List Char) : Option (Char × List Char) := do
  let (high, rest) ← unit? characters
  if 0xD800 ≤ high ∧ high < 0xDC00 then
    match rest with
    | '\\' :: 'u' :: rest =>
        let (low, rest) ← unit? rest
        if 0xDC00 ≤ low ∧ low < 0xE000 then
          some (Char.ofNat (0x10000 + (high - 0xD800) * 0x400 + (low - 0xDC00)), rest)
        else
          none
    | _ => none
  else if 0xDC00 ≤ high ∧ high < 0xE000 then
    none
  else
    some (Char.ofNat high, rest)

/-- The character that an escape stands for, after the backslash. -/
def escape? : List Char → Option (Char × List Char)
  | '"' :: rest => some ('"', rest)
  | '\\' :: rest => some ('\\', rest)
  | '/' :: rest => some ('/', rest)
  | 'b' :: rest => some (Char.ofNat 8, rest)
  | 'f' :: rest => some (Char.ofNat 12, rest)
  | 'n' :: rest => some ('\n', rest)
  | 'r' :: rest => some ('\r', rest)
  | 't' :: rest => some ('\t', rest)
  | 'u' :: rest => unicodeEscape? rest
  | _ => none

/-- The characters of a text after its opening quote, in reverse. -/
def quoted? (reversed : List Char) : Nat → List Char → Option (List Char × List Char)
  | 0, _ => none
  | _ + 1, [] => none
  | fuel + 1, character :: rest =>
      if character = '"' then
        some (reversed, rest)
      else if character = '\\' then
        match escape? rest with
        | some (meant, rest) => quoted? (meant :: reversed) fuel rest
        | none => none
      else if character.toNat < 32 then
        none
      else
        quoted? (character :: reversed) fuel rest

/-- A text after its opening quote. -/
def text? (characters : List Char) : Option (String × List Char) :=
  (quoted? [] (characters.length + 1) characters).map fun (reversed, rest) =>
    (String.ofList reversed.reverse, rest)

/-- Pass over the given characters. -/
def word? : List Char → List Char → Option (List Char)
  | [], rest => some rest
  | expected :: word, character :: rest =>
      if expected = character then word? word rest else none
  | _ :: _, [] => none

/-- How deep lists and objects may be nested. -/
def greatestDepth : Nat := 127

mutual

/-- A value after optional blanks.  It may have `depth` lists and objects within
one another. -/
def value? (depth : Nat) : Nat → List Char → Option (Json × List Char)
  | 0, _ => none
  | fuel + 1, characters =>
      match skip characters with
      | 'n' :: rest => (word? ['u', 'l', 'l'] rest).map fun rest => (.null, rest)
      | 't' :: rest => (word? ['r', 'u', 'e'] rest).map fun rest => (.boolean true, rest)
      | 'f' :: rest => (word? ['a', 'l', 's', 'e'] rest).map fun rest => (.boolean false, rest)
      | '"' :: rest => (text? rest).map fun (value, rest) => (.text value, rest)
      | '[' :: rest =>
          if depth = 0 then
            none
          else
            match skip rest with
            | ']' :: rest => some (.list [], rest)
            | rest => items? (depth - 1) [] fuel rest
      | '\x7b' :: rest =>
          if depth = 0 then
            none
          else
            match skip rest with
            | '\x7d' :: rest => some (.object [], rest)
            | rest => members? (depth - 1) [] fuel rest
      | rest => Numeral.read? rest

/-- The items of a list, each followed by a comma or the closing bracket. -/
def items? (depth : Nat) (reversed : List Json) : Nat → List Char → Option (Json × List Char)
  | 0, _ => none
  | fuel + 1, characters =>
      match value? depth fuel characters with
      | none => none
      | some (item, rest) =>
          match skip rest with
          | ',' :: rest => items? depth (item :: reversed) fuel rest
          | ']' :: rest => some (.list (item :: reversed).reverse, rest)
          | _ => none

/-- The members of an object, each followed by a comma or the closing brace. -/
def members?
    (depth : Nat)
    (members : List (String × Json)) :
    Nat → List Char → Option (Json × List Char)
  | 0, _ => none
  | fuel + 1, characters =>
      match skip characters with
      | '"' :: rest =>
          match text? rest with
          | none => none
          | some (name, rest) =>
              match skip rest with
              | ':' :: rest =>
                  match value? depth fuel rest with
                  | none => none
                  | some (value, rest) =>
                      let members := putMember members name value
                      match skip rest with
                      | ',' :: rest => members? depth members fuel rest
                      | '\x7d' :: rest => some (.object members, rest)
                      | _ => none
              | _ => none
      | _ => none

end

end Reader

/-- Read a JSON text. -/
def read? (text : String) : Option Json :=
  let characters := text.toList
  match Reader.value? Reader.greatestDepth (characters.length + 1) characters with
  | some (value, rest) => if (Reader.skip rest).isEmpty then some value else none
  | none => none

end Json
end WorkloadPolicy
