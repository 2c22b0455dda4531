import WorkloadPolicy.Decimal.Number
import WorkloadPolicy.Record
import WorkloadPolicy.Yaml.Anchor

/-!
# YAML as a format of records

Any scalar is a text, whatever its tag.  A plain scalar is null, a truth value
or a number by its spelling; a literal block is one if it is tagged so.  A
variant is a text, or a tag of a single exclamation mark on a node that is
null.  Where a list or a mapping is wanted, an empty plain scalar is an empty
one.
-/

namespace WorkloadPolicy
namespace Yaml

/-- The full name of a standard tag. -/
def standardTag (name : String) : String :=
  "tag:yaml.org,2002:" ++ name

/-- The spellings of null. -/
def nullTexts : List String := ["null", "Null", "NULL", "~"]

/-- The truth value of a spelling. -/
def booleanOf? (text : String) : Option Bool :=
  if ["true", "True", "TRUE"].contains text then some true
  else if ["false", "False", "FALSE"].contains text then some false
  else none

/-- The value of a digit in a base of at most sixteen. -/
def digit? (base : Nat) (character : Char) : Option Nat := do
  let value ← hexDigit? character
  if value < base then some value else none

/-- The number that some digits write. -/
def digits? (base : Nat) (characters : List Char) : Option Nat := do
  if characters.isEmpty then
    none
  else
    let values ← characters.mapM (digit? base)
    some (values.foldl (fun number value => number * base + value) 0)

/-- Whether digits after a zero make a spelling that is no decimal number. -/
def hasLeadingZero (characters : List Char) : Bool :=
  match characters with
  | '0' :: rest => !rest.isEmpty && rest.all Char.isDigit
  | _ => false

/-- The magnitude of a number without its sign: hexadecimal, octal, binary or
decimal. -/
def magnitude? (characters : List Char) : Option Nat :=
  match characters with
  | '0' :: 'x' :: rest => digits? 16 rest
  | '0' :: 'o' :: rest => digits? 8 rest
  | '0' :: 'b' :: rest => digits? 2 rest
  | _ => if hasLeadingZero characters then none else digits? 10 characters

/-- The number of a spelling with at most one sign. -/
def integerOf? (text : String) : Option Int :=
  match text.toList with
  | '-' :: rest => (magnitude? rest).map fun magnitude => -(magnitude : Int)
  | '+' :: rest => (magnitude? rest).map Int.ofNat
  | rest => (magnitude? rest).map Int.ofNat

/-- The natural number of a spelling without a minus sign. -/
def naturalOf? (text : String) : Option Nat :=
  match text.toList with
  | '+' :: rest => magnitude? rest
  | rest => magnitude? rest

/-- The real number of a spelling.  Infinities and what is no number have
spellings of their own, and a decimal number must be finite. -/
def realOf? (text : String) : Option Float :=
  let signed := ['+', '-'].contains
  let unsigned :=
    match text.toList with
    | '+' :: rest => if rest.head?.any signed then none else some (String.ofList rest)
    | _ => some text
  match unsigned with
  | none => none
  | some unsigned =>
      if [".inf", ".Inf", ".INF"].contains unsigned then some (1.0 / 0.0)
      else if ["-.inf", "-.Inf", "-.INF"].contains text then some (-1.0 / 0.0)
      else if [".nan", ".NaN", ".NAN"].contains text then some (0.0 / 0.0)
      else
        match Decimal.number? unsigned with
        | some number => if number.isFinite then some number else none
        | none => none

namespace Tree

/-- The text of a scalar. -/
def text? (tree : Tree) : Option String :=
  match tree.target? with
  | some (.scalar _ _ text) => some text
  | _ => none

/-- The spelling of a scalar that may be more than a text. -/
def spelling? (tree : Tree) (tag : String) : Option String :=
  match tree.target? with
  | some (.scalar _ .plain text) => some text
  | some (.scalar properties .literal text) =>
      if properties.tag == some (standardTag tag) then some text else none
  | _ => none

/-- Whether a node is null.  A scalar tagged as null must be spelled so. -/
def isNull? (tree : Tree) : Option Bool :=
  match tree.target? with
  | some (.scalar properties .plain text) =>
      match properties.tag with
      | none => some (text.isEmpty || nullTexts.contains text)
      | some tag =>
          if tag == standardTag "null" then
            if nullTexts.contains text then some true else none
          else
            some false
  | some _ => some false
  | none => none

/-- The name in a tag that starts with an exclamation mark. -/
def localTag? (properties : Properties Nat) : Option String := do
  match (← properties.tag).toList with
  | '!' :: rest => some (String.ofList rest)
  | _ => none

/-- The name of a variant: a text, or the local tag of a null scalar. -/
def variant? (tree : Tree) : Option String :=
  match tree.target? with
  | some (.scalar properties style text) =>
      match localTag? properties with
      | none => some text
      | some name =>
          if style == .plain && (text.isEmpty || nullTexts.contains text) then
            some name
          else
            none
  | _ => none

/-- The items of a sequence. -/
def items? (tree : Tree) : Option (List Tree) :=
  match tree.target? with
  | some (.sequence _ items) => some (items.map tree.withNode)
  | some (.scalar _ .plain "") => some []
  | _ => none

/-- The entries of a mapping. -/
def entries? (tree : Tree) : Option (List (Tree × Tree)) :=
  match tree.target? with
  | some (.mapping _ entries) =>
      some (entries.map fun entry => (tree.withNode entry.1, tree.withNode entry.2))
  | some (.scalar _ .plain "") => some []
  | _ => none

/-- An integer of 64 bits with a sign. -/
def integer? (tree : Tree) : Option Int := do
  let number ← integerOf? (← tree.spelling? "int")
  if -(1 <<< 63 : Nat) ≤ number ∧ number < (1 <<< 63 : Nat) then some number else none

/-- An integer of 64 bits without a sign. -/
def natural? (tree : Tree) : Option Nat := do
  let number ← naturalOf? (← tree.spelling? "int")
  if number < 1 <<< 64 then some number else none

instance : Readable Tree where
  isNull? := isNull?
  text? := text?
  variant? := variant?
  boolean? tree := (tree.spelling? "bool").bind booleanOf?
  integer? := integer?
  natural? := natural?
  real? tree := (tree.spelling? "float").bind realOf?
  items? := items?
  entries? := entries?

end Tree
end Yaml
end WorkloadPolicy
