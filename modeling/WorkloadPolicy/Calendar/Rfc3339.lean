import WorkloadPolicy.Calendar.Instant

/-!
# The timestamp format of RFC 3339

Timestamps are written `2001-02-03T04:05:06.500+00:00`, with a fraction of
none, three, six or nine digits as needed.  Years outside 0 to 9999 carry a
sign.  The reader is strict: it accepts four-digit years only, a `T`, a `t` or
a space between date and time, and an offset with a colon or a `Z`.
-/

namespace WorkloadPolicy
namespace Calendar

/-- A number with zeros in front up to a width. -/
def zeroPadded (width number : Nat) : List Char :=
  let digits := Nat.toDigits 10 number
  List.replicate (width - digits.length) '0' ++ digits

/-- The text of a year: four digits, or a sign and at least four digits. -/
def yearText (year : Int) : List Char :=
  if 0 ≤ year ∧ year ≤ 9999 then
    zeroPadded 4 year.toNat
  else
    (if year < 0 then '-' else '+') :: zeroPadded 4 year.natAbs

/-- The text of a date. -/
def Date.text (date : Date) : List Char :=
  yearText date.year ++ '-' :: zeroPadded 2 date.month ++ '-' :: zeroPadded 2 date.day

/-- The second shown on a clock; 60 in a leap second. -/
def clockSecond (second nano : Nat) : Nat :=
  second % 60 + nano / nanosPerSecond

/-- The text of a time of day without its fraction. -/
def clockText (second nano : Nat) : List Char :=
  zeroPadded 2 (second / 3600) ++ ':' :: zeroPadded 2 (second / 60 % 60) ++
    ':' :: zeroPadded 2 (clockSecond second nano)

/-- The text of the fraction of a second. -/
def fractionText (nano : Nat) : List Char :=
  let fraction := nano % nanosPerSecond
  if fraction = 0 then []
  else if fraction % 1000000 = 0 then '.' :: zeroPadded 3 (fraction / 1000000)
  else if fraction % 1000 = 0 then '.' :: zeroPadded 6 (fraction / 1000)
  else '.' :: zeroPadded 9 fraction

/-- The text of an instant, ending in the given spelling of the offset. -/
def Instant.textWith (zone : List Char) (instant : Instant) : String :=
  String.ofList <|
    instant.date.text ++ 'T' :: clockText instant.second instant.nano ++
      fractionText instant.nano ++ zone

/-- The text of an instant with a numeric offset. -/
def Instant.text (instant : Instant) : String :=
  instant.textWith ['+', '0', '0', ':', '0', '0']

/-- The text of an instant that ends in `Z`. -/
def Instant.zuluText (instant : Instant) : String :=
  instant.textWith ['Z']

/-- Date and time to the second, separated by a space, in the local offset. -/
def LocalTime.readable (localTime : LocalTime) : String :=
  String.ofList <|
    localTime.date.text ++ ' ' :: clockText localTime.second localTime.nano

/-- Read exactly `count` digits. -/
def takeDigits? : Nat → List Char → Option (Nat × List Char)
  | 0, rest => some (0, rest)
  | count + 1, digit :: rest =>
      if digit.isDigit then
        (takeDigits? count rest).map fun (number, rest) =>
          ((digit.toNat - 48) * Nat.pow 10 count + number, rest)
      else
        none
  | _ + 1, [] => none

/-- Pass over one given character. -/
def expect? (character : Char) : List Char → Option (List Char)
  | first :: rest => if first = character then some rest else none
  | [] => none

/-- The nanoseconds of a fraction: at least one digit, and only the first nine
count. -/
def fraction? (characters : List Char) : Option (Nat × List Char) :=
  let digits := characters.takeWhile Char.isDigit
  if digits.isEmpty then
    none
  else
    let kept := digits.take 9
    let number := kept.foldl (fun value digit => 10 * value + (digit.toNat - 48)) 0
    some (number * Nat.pow 10 (9 - kept.length), characters.dropWhile Char.isDigit)

/-- An optional fraction after a point. -/
def optionalFraction? : List Char → Option (Nat × List Char)
  | '.' :: rest => fraction? rest
  | rest => some (0, rest)

/-- The sign of an offset; `true` west of Greenwich.  The minus sign proper
serves like the hyphen. -/
def offsetSign? : List Char → Option (Bool × List Char)
  | '+' :: rest => some (false, rest)
  | '-' :: rest => some (true, rest)
  | '−' :: rest => some (true, rest)
  | _ => none

/-- An offset in seconds: hours, whatever `between` passes over, and minutes
below 60. -/
def numericOffset?
    (between : List Char → Option (List Char))
    (characters : List Char) : Option (Int × List Char) := do
  let (west, rest) ← offsetSign? characters
  let (hours, rest) ← takeDigits? 2 rest
  let rest ← between rest
  let (minutes, rest) ← takeDigits? 2 rest
  if minutes < 60 then
    let seconds : Int := ((hours * 3600 + minutes * 60 : Nat) : Int)
    some (if west then -seconds else seconds, rest)
  else
    none

/-- An offset or the letter for Coordinated Universal Time. -/
def offset?
    (between : List Char → Option (List Char)) :
    List Char → Option (Int × List Char)
  | 'Z' :: rest => some (0, rest)
  | 'z' :: rest => some (0, rest)
  | rest => numericOffset? between rest

/-- Whether a character may stand between date and time. -/
def separatesTime (character : Char) : Bool :=
  character == 'T' || character == 't' || character == ' '

/-- Read a timestamp strictly. -/
def readStrict? (text : String) : Option LocalTime := do
  let (year, rest) ← takeDigits? 4 text.toList
  let rest ← expect? '-' rest
  let (month, rest) ← takeDigits? 2 rest
  let rest ← expect? '-' rest
  let (day, rest) ← takeDigits? 2 rest
  match rest with
  | [] => none
  | separator :: rest =>
    if separatesTime separator then
      let (hour, rest) ← takeDigits? 2 rest
      let rest ← expect? ':' rest
      let (minute, rest) ← takeDigits? 2 rest
      let rest ← expect? ':' rest
      let (second, rest) ← takeDigits? 2 rest
      let (nano, rest) ← optionalFraction? rest
      let (lead, rest) ← offset? (expect? ':') rest
      if rest.isEmpty && lead.natAbs < secondsPerDay then
        LocalTime.ofParts? ⟨year, month, day⟩ hour minute second nano lead
      else
        none
    else
      none

/-- A timestamp shown to the second in its own offset; other text is shown
unchanged. -/
def readableTime (text : String) : String :=
  match readStrict? text with
  | some localTime => localTime.readable
  | none => text

end Calendar
end WorkloadPolicy
