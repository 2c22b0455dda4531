import WorkloadPolicy.Json.Basic
import WorkloadPolicy.Decimal.Written

/-!
# Writing JSON text

Values are written without blanks.  Control characters, quotes and backslashes
are escaped, by one letter where there is one for them, and all other
characters stand for themselves.  A real number is written with the fewest
digits that read back and always with a point or an exponent, `7.0` or `1e21`;
one that is not finite is written as null.
-/

namespace WorkloadPolicy
namespace Json
namespace Writer

/-- A hexadecimal digit. -/
def hexDigit (value : Nat) : Char :=
  if value < 10 then Char.ofNat (48 + value) else Char.ofNat (87 + value)

/-- The character that stands for another one after a backslash, if there is
one. -/
def letter? (character : Char) : Option Char :=
  match character.toNat with
  | 8 => some 'b'
  | 9 => some 't'
  | 10 => some 'n'
  | 12 => some 'f'
  | 13 => some 'r'
  | 34 => some '"'
  | 92 => some '\\'
  | _ => none

/-- A character inside quotes. -/
def escaped (character : Char) : String :=
  match letter? character with
  | some letter => String.ofList ['\\', letter]
  | none =>
      if character.toNat < 32 then
        String.ofList
          ['\\', 'u', '0', '0', hexDigit (character.toNat / 16), hexDigit (character.toNat % 16)]
      else
        character.toString

/-- A text inside quotes. -/
def quoted (text : String) : String :=
  text.foldl (fun written character => written ++ escaped character) "\"" ++ "\""

/-- Digits with an exponent, and a point after the first of several. -/
def scientific (digits : List Char) (exponent : Int) : List Char :=
  let whole := digits.take 1
  let places := digits.drop 1
  (if places.isEmpty then whole else whole ++ '.' :: places) ++ 'e' :: (toString exponent).toList

/-- The text of a number whose last digit is not zero.  It has an exponent where
there would be more than 16 digits before the point or more than four zeros right
after it. -/
def laidOut (number : Decimal.Scaled) : List Char :=
  let digits := Nat.toDigits 10 number.coefficient
  let leading : Int := digits.length + number.exponent
  if 0 ≤ number.exponent ∧ leading ≤ 16 then
    digits ++ List.replicate number.exponent.toNat '0' ++ ['.', '0']
  else if -5 < leading ∧ leading ≤ 16 then
    Decimal.pointed number.coefficient (-number.exponent).toNat
  else
    scientific digits (leading - 1)

/-- A real number. -/
def real (number : Float) : String :=
  match Decimal.readFloat number with
  | .finite negative significand exponent =>
      Decimal.signed negative <|
        if significand = 0 then
          ['0', '.', '0']
        else
          laidOut ((Decimal.shortest .binary64 significand exponent).withoutTrailingZeros 17)
  | _ => "null"

mutual

/-- Append a value to what has been written. -/
def append (written : String) : Json → String
  | .null => written ++ "null"
  | .boolean value => written ++ if value then "true" else "false"
  | .integer value => written ++ toString value
  | .real value => written ++ real value
  | .text value => written ++ quoted value
  | .list items => appendItems (written ++ "[") true items ++ "]"
  | .object members => appendMembers (written ++ "\x7b") true members ++ "\x7d"

/-- Append the items of a list, with commas between them. -/
def appendItems (written : String) (first : Bool) : List Json → String
  | [] => written
  | item :: items =>
      appendItems (append (if first then written else written ++ ",") item) false items

/-- Append the members of an object, with commas between them. -/
def appendMembers (written : String) (first : Bool) : List (String × Json) → String
  | [] => written
  | (name, value) :: members =>
      appendMembers
        (append ((if first then written else written ++ ",") ++ quoted name ++ ":") value)
        false members

end

end Writer

/-- The text of a value. -/
def write (value : Json) : String :=
  Writer.append "" value

end Json
end WorkloadPolicy
