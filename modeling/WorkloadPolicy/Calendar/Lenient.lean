import WorkloadPolicy.Calendar.Rfc3339
import WorkloadPolicy.Text

/-!
# Lenient timestamps

Records come with timestamps that need not keep strictly to RFC 3339.  Blanks
may stand around every part, numbers may have fewer digits than usual, a year
with a sign may have any number of digits, blanks may separate date and time,
and the offset may lack its colon or be the word `UTC`.
-/

namespace WorkloadPolicy
namespace Calendar
namespace Lenient

/-- A number of one to `width` digits after optional blanks. -/
def number? (width : Nat) (characters : List Char) : Option (Nat × List Char) :=
  let trimmed := Text.trimStartChars characters
  let digits := (trimmed.take width).takeWhile Char.isDigit
  if digits.isEmpty then
    none
  else
    some (digits.foldl (fun value digit => 10 * value + (digit.toNat - 48)) 0,
      trimmed.drop digits.length)

/-- All digits at the front, at least one of them. -/
def allDigits? (characters : List Char) : Option (Nat × List Char) :=
  let digits := characters.takeWhile Char.isDigit
  if digits.isEmpty then
    none
  else
    some (digits.foldl (fun value digit => 10 * value + (digit.toNat - 48)) 0,
      characters.dropWhile Char.isDigit)

/-- A year: up to four digits, or a sign and any number of digits. -/
def year? (characters : List Char) : Option (Int × List Char) :=
  match Text.trimStartChars characters with
  | '-' :: rest => (allDigits? rest).map fun (year, rest) => (-(year : Int), rest)
  | '+' :: rest => (allDigits? rest).map fun (year, rest) => ((year : Int), rest)
  | rest => (number? 4 rest).map fun (year, rest) => ((year : Int), rest)

/-- One given character after optional blanks. -/
def mark? (character : Char) (characters : List Char) : Option (List Char) :=
  expect? character (Text.trimStartChars characters)

/-- The word `UTC` in any case. -/
def isUtc (characters : List Char) : Bool :=
  Text.equalIgnoringAsciiCase (characters.take 3) ['U', 'T', 'C']

/-- Colons and blanks between the hours and the minutes of an offset. -/
def betweenOffset (characters : List Char) : Option (List Char) :=
  some (characters.dropWhile fun character => character == ':' || Text.isBlank character)

/-- An offset after optional blanks. -/
def offset? (characters : List Char) : Option (Int × List Char) :=
  let trimmed := Text.trimStartChars characters
  if isUtc trimmed then
    some (0, trimmed.drop 3)
  else
    Calendar.offset? betweenOffset trimmed

/-- Read a timestamp leniently. -/
def instant? (text : String) : Option Instant := do
  let (year, rest) ← year? text.toList
  let rest ← mark? '-' rest
  let (month, rest) ← number? 2 rest
  let rest ← mark? '-' rest
  let (day, rest) ← number? 2 rest
  match rest with
  | [] => none
  | separator :: rest =>
    if separatesTime separator || Text.isBlank separator then
      let (hour, rest) ← number? 2 rest
      let rest ← mark? ':' rest
      let (minute, rest) ← number? 2 rest
      let rest ← mark? ':' rest
      let (second, rest) ← number? 2 rest
      let (nano, rest) ← optionalFraction? rest
      let (lead, rest) ← offset? rest
      if rest.all Text.isBlank && lead.natAbs < secondsPerDay then
        let localTime ← LocalTime.ofParts? ⟨year, month, day⟩ hour minute second nano lead
        if localTime.date.inRange && localTime.instant.inRange then
          some localTime.instant
        else
          none
      else
        none
    else
      none

end Lenient
end Calendar
end WorkloadPolicy
