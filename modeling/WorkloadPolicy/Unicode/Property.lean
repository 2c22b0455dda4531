import WorkloadPolicy.Unicode.Age
import WorkloadPolicy.Unicode.BinaryProperty
import WorkloadPolicy.Unicode.CharSet
import WorkloadPolicy.Unicode.GeneralCategory
import WorkloadPolicy.Unicode.Script
import WorkloadPolicy.Unicode.ScriptExtensions
import WorkloadPolicy.Unicode.Segmentation

/-!
# Properties by name

A set of characters is named either by one name, which is that of a binary
property, a general category or a script, or by a property and a value.  Names
are compared without regard to case, blanks, hyphens, low lines and a leading
`is`.
-/

namespace WorkloadPolicy
namespace Unicode
namespace Property

/-- The value of a hexadecimal digit, read without checks. -/
def hexValue (digit : Char) : Nat :=
  if digit.isDigit then digit.toNat - 48 else digit.toNat - 55

/-- The numbers of a table text, between which stand spaces and line ends. -/
def numbers (text : String) : List Nat :=
  let step := fun (state : List Nat × Option Nat) (character : Char) =>
    if character = ' ' ∨ character = '\n' then
      (state.2.toList ++ state.1, none)
    else
      (state.1, some (16 * state.2.getD 0 + hexValue character))
  let (done, current) := text.foldl step ([], none)
  (current.toList ++ done).reverse

/-- The ranges that start at or after `position`, from pairs of a count to pass
over and a count to take. -/
def rangesFrom (position : Nat) : List Nat → List (Nat × Nat)
  | skipped :: taken :: rest =>
      (position + skipped, position + skipped + taken - 1) ::
        rangesFrom (position + skipped + taken) rest
  | _ => []

/-- The set that a table text lists. -/
def decode (text : String) : CharSet :=
  ⟨rangesFrom 0 (numbers text)⟩

/-- Look a name up in a table, directly or through an alias. -/
def find?
    (ranges aliases : List (String × String))
    (name : String) : Option CharSet :=
  let name := (aliases.lookup name).getD name
  (ranges.lookup name).map decode

/-- Whether a character does not count in a name. -/
def isIgnored (character : Char) : Bool :=
  character == ' ' || character == '_' || character == '-' || 0x7F < character.toNat

/-- The form in which names are compared. -/
def normalize (name : List Char) : String :=
  match name.map Char.toLower with
  | 'i' :: 's' :: rest =>
      let rest := rest.filter fun character => !isIgnored character
      if rest = ['c'] then "isc" else String.ofList rest
  | characters => String.ofList (characters.filter fun character => !isIgnored character)

/-- A binary property by its normalized name. -/
def binary? (name : String) : Option CharSet :=
  find? BinaryProperty.ranges BinaryProperty.aliases name

/-- The union of several categories. -/
def categories (names : List String) : CharSet :=
  names.foldl
    (fun set name => set.union ((find? GeneralCategory.ranges [] name).getD .empty)) .empty

/-- The categories that a group of categories comprises. -/
def categoryGroups : List (String × List String) :=
  [("c", ["cc", "cf", "cn", "co", "cs"]),
    ("l", ["ll", "lm", "lo", "lt", "lu"]),
    ("lc", ["ll", "lt", "lu"]),
    ("m", ["mc", "me", "mn"]),
    ("n", ["nd", "nl", "no"]),
    ("p", ["pc", "pd", "pe", "pf", "pi", "po", "ps"]),
    ("s", ["sc", "sk", "sm", "so"]),
    ("z", ["zl", "zp", "zs"])]

/-- A general category, or a group of them, by its normalized name. -/
def category? (name : String) : Option CharSet :=
  if name = "any" then
    some .full
  else if name = "ascii" then
    some (.range 0 0x7F)
  else if name = "assigned" then
    some (categories ["cn"]).complement
  else
    let name := (GeneralCategory.aliases.lookup name).getD name
    match categoryGroups.lookup name with
    | some names => some (categories names)
    | none => find? GeneralCategory.ranges [] name

/-- A script by its normalized name. -/
def script? (name : String) : Option CharSet :=
  find? Script.ranges Script.aliases name

/-- The characters used with a script, by its normalized name. -/
def scriptExtensions? (name : String) : Option CharSet :=
  find? ScriptExtensions.ranges Script.aliases name

/-- The characters of a version and all earlier ones. -/
def age? (name : String) : Option CharSet :=
  let name := (Age.aliases.lookup name).getD name
  if Age.ranges.any (·.1 == name) then
    let earlier := Age.ranges.takeWhile (·.1 != name)
    let own := (Age.ranges.filter (·.1 == name)).take 1
    some ((earlier ++ own).foldl (fun set entry => set.union (decode entry.2)) .empty)
  else
    none

/-- The set named by one name.  The names `cf`, `sc` and `lc` mean the
categories so called. -/
def named? (name : List Char) : Option CharSet :=
  let name := normalize name
  let byProperty := if name = "cf" ∨ name = "sc" ∨ name = "lc" then none else binary? name
  (byProperty.or (category? name)).or (script? name)

/-- The set named by a property and a value. -/
def valued? (property value : List Char) : Option CharSet :=
  let property := normalize property
  let value := normalize value
  if property = "gc" ∨ property = "generalcategory" then
    category? value
  else if property = "sc" ∨ property = "script" then
    script? value
  else if property = "scx" ∨ property = "scriptextensions" then
    scriptExtensions? value
  else if property = "age" then
    age? value
  else if property = "gcb" ∨ property = "graphemeclusterbreak" then
    find? Segmentation.graphemeClusterRanges Segmentation.graphemeClusterAliases value
  else if property = "wb" ∨ property = "wordbreak" then
    find? Segmentation.wordRanges Segmentation.wordAliases value
  else if property = "sb" ∨ property = "sentencebreak" then
    find? Segmentation.sentenceRanges Segmentation.sentenceAliases value
  else
    none

/-- Decimal digits. -/
def digit : CharSet := categories ["nd"]

/-- Blank characters. -/
def space : CharSet := (binary? "whitespace").getD .empty

/-- The characters of words. -/
def word : CharSet :=
  (((((binary? "alphabetic").getD .empty).union (categories ["mc", "me", "mn"])).union
      digit).union
    ((categories ["pc"]).union ((binary? "joincontrol").getD .empty))).merged

/-- Letters in the wide sense of the property `Alphabetic`. -/
def alphabetic : CharSet := (binary? "alphabetic").getD .empty

/-- Letters and numbers. -/
def alphanumeric : CharSet :=
  alphabetic.union (categories ["nd", "nl", "no"])

end Property
end Unicode
end WorkloadPolicy
