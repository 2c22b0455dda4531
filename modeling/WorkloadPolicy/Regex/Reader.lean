import WorkloadPolicy.Regex.Bracket

/-!
# Reading patterns

A pattern is a choice of branches, a branch is a row of pieces, and a piece is
an atom, a class or a group with the repetitions after it.  Flags that stand
by themselves change the rest of their group.  Names of groups are unique, and
the nesting of rows, choices, groups, repetitions and classes goes at most 250
levels deep.
-/

namespace WorkloadPolicy
namespace Regex

/-- A part of a pattern with the depth of its nesting. -/
structure Piece where
  expr : Expr
  depth : Nat
  /-- Whether a repetition may follow; flags cannot be repeated. -/
  repeatable : Bool := true

namespace Piece

/-- The greatest depth of several pieces. -/
def greatestDepth (pieces : List Piece) : Nat :=
  pieces.foldl (fun depth piece => max depth piece.depth) 0

/-- Join expressions in order; the last one comes first in the list. -/
def joinReversed (join : Expr → Expr → Expr) (joined : Expr) : List Piece → Expr
  | [] => joined
  | piece :: pieces => joinReversed join (join piece.expr joined) pieces

/-- Pieces in a row, given in reverse. -/
def row : List Piece → Piece
  | [] => ⟨.empty, 0, true⟩
  | [piece] => piece
  | last :: pieces =>
      ⟨joinReversed .concat last.expr pieces, greatestDepth (last :: pieces) + 1, true⟩

/-- A choice of branches, given in reverse. -/
def choice : List Piece → Piece
  | [] => ⟨.empty, 0, true⟩
  | [piece] => piece
  | last :: pieces =>
      ⟨joinReversed .alternate last.expr pieces, greatestDepth (last :: pieces) + 1, true⟩

/-- A repetition of a piece. -/
def repeated (piece : Piece) (least : Nat) (most : Option Nat) : Piece :=
  ⟨.repeat piece.expr least most, piece.depth + 1, true⟩

end Piece

/-- How a group begins. -/
inductive Opening where
  /-- Flags for the rest of the group around. -/
  | flags (flags : Flags)
  | group (captures : Bool) (name : Option (List Char)) (flags : Flags)

/-- Whether a character may stand in the name of a group. -/
def isNameChar (first : Bool) (character : Char) : Bool :=
  character == '_' ||
    if first then
      Unicode.Property.alphabetic.contains character
    else
      character == '.' || character == '[' || character == ']' ||
        Unicode.Property.alphanumeric.contains character

/-- The name of a group up to the closing angle. -/
def groupName? (characters : List Char) : Option (List Char × List Char) :=
  let name := characters.takeWhile (· != '>')
  match name, characters.dropWhile (· != '>') with
  | first :: others, _ :: rest =>
      if isNameChar true first && others.all (isNameChar false) then
        some (name, rest)
      else
        none
  | _, _ => none

/-- What follows the opening parenthesis of a group.  Conditions on the text
around a group are not supported. -/
def opening? (flags : Flags) (characters : List Char) : Option (Opening × List Char) :=
  match skipSpace flags characters with
  | '?' :: '=' :: _ => none
  | '?' :: '!' :: _ => none
  | '?' :: '<' :: '=' :: _ => none
  | '?' :: '<' :: '!' :: _ => none
  | '?' :: 'P' :: '<' :: rest =>
      (groupName? rest).map fun (name, rest) => (.group true (some name) flags, rest)
  | '?' :: '<' :: rest =>
      (groupName? rest).map fun (name, rest) => (.group true (some name) flags, rest)
  | '?' :: rest =>
      let list := rest.takeWhile fun character => character != ':' && character != ')'
      if Flags.isList list then
        match rest.drop list.length with
        | ':' :: rest => some (.group false none (flags.apply list), rest)
        | ')' :: rest => if list.isEmpty then none else some (.flags (flags.apply list), rest)
        | _ => none
      else
        none
  | rest => some (.group true none flags, rest)

/-- The digits of a count; blanks may stand around them. -/
def countDigits (flags : Flags) : Nat → List Char → List Char × List Char
  | 0, rest => ([], rest)
  | fuel + 1, digit :: rest =>
      if digit.isDigit then
        let (digits, rest) := countDigits flags fuel (skipSpace flags rest)
        (digit :: digits, rest)
      else
        ([], digit :: rest)
  | _ + 1, [] => ([], [])

/-- A count of at most 32 bits.  The outer option fails if it is too great, the
inner one says whether there are digits at all. -/
def count? (flags : Flags) (characters : List Char) : Option (Option Nat × List Char) :=
  let (digits, rest) := countDigits flags (characters.length + 1)
    (characters.dropWhile Text.isBlank)
  let rest := rest.dropWhile Text.isBlank
  let value := digits.foldl (fun value digit => 10 * value + (digit.toNat - 48)) 0
  if digits.isEmpty then some (none, rest)
  else if value < 1 <<< 32 then some (some value, rest)
  else none

/-- The counts of a repetition after its opening brace, with the closing one. -/
def counts? (flags : Flags) (characters : List Char) :
    Option (Nat × Option Nat × List Char) := do
  let (least, rest) ← count? flags (skipSpace flags characters)
  match skipSpace flags rest with
  | ',' :: rest =>
      let least ← least
      match skipSpace flags rest with
      | '\x7d' :: rest => some (least, none, rest)
      | [] => none
      | rest =>
          let (most, rest) ← count? flags rest
          let most ← most
          match skipSpace flags rest with
          | '\x7d' :: rest => if least ≤ most then some (least, some most, rest) else none
          | _ => none
  | '\x7d' :: rest =>
      let least ← least
      some (least, some least, rest)
  | _ => none

/-- The mark after a repetition that makes it lazy. -/
def dropLazy : List Char → List Char
  | '?' :: rest => rest
  | rest => rest

/-- The dot. -/
def dot? (flags : Flags) : Option Expr :=
  if flags.unicode then
    some <| .set <|
      if flags.dotAll then .full
      else if flags.anyLineEnd then (Unicode.CharSet.mk [(10, 10), (13, 13)]).complement
      else (Unicode.CharSet.single 10).complement
  else
    none

/-- The caret. -/
def lineStart (flags : Flags) : Look :=
  if flags.multiLine then
    if flags.anyLineEnd then .anyLineStart else .lineStart
  else
    .textStart

/-- The dollar sign. -/
def lineEnd (flags : Flags) : Look :=
  if flags.multiLine then
    if flags.anyLineEnd then .anyLineEnd else .lineEnd
  else
    .textEnd

/-- A character, an escape, an anchor or a dot. -/
def primitive? (flags : Flags) : List Char → Option (Expr × List Char)
  | '\\' :: rest => do
      let (atom, rest) ← escape? flags rest
      some (← atom.expr? flags, rest)
  | '.' :: rest => (dot? flags).map fun expr => (expr, rest)
  | '^' :: rest => some (.look (lineStart flags), rest)
  | '$' :: rest => some (.look (lineEnd flags), rest)
  | character :: rest =>
      ((Atom.literal character false).expr? flags).map fun expr => (expr, rest)
  | [] => none

/-- Apply a repetition to the last piece of a row given in reverse. -/
def repeatLast?
    (least : Nat)
    (most : Option Nat) : List Piece → Option (List Piece)
  | piece :: pieces =>
      if piece.repeatable then some (piece.repeated least most :: pieces) else none
  | [] => none

/-- Branches up to the end of the group or of the pattern.  The branches read
so far, the pieces of the current branch and the names of groups come in
reverse.  Every step consumes a character, so the length of the text is fuel
enough. -/
def branches?
    (flags : Flags)
    (names : List (List Char))
    (branches pieces : List Piece) :
    Nat → List Char → Option (Piece × List (List Char) × List Char)
  | 0, _ => none
  | fuel + 1, characters =>
      match skipSpace flags characters with
      | [] => some (.choice (.row pieces :: branches), names, [])
      | ')' :: rest => some (.choice (.row pieces :: branches), names, ')' :: rest)
      | '|' :: rest => branches? flags names (.row pieces :: branches) [] fuel rest
      | '(' :: rest =>
          match opening? flags rest with
          | none => none
          | some (.flags flags, rest) =>
              branches? flags names branches (⟨.empty, 0, false⟩ :: pieces) fuel rest
          | some (.group captures name inner, rest) =>
              if name.any names.contains then
                none
              else
                match branches? inner (name.toList ++ names) [] [] fuel rest with
                | some (piece, names, ')' :: rest) =>
                    let expr := if captures then .capture piece.expr else piece.expr
                    branches? flags names branches
                      (⟨expr, piece.depth + 1, true⟩ :: pieces) fuel rest
                | _ => none
      | '[' :: rest =>
          match Bracket.read? flags rest with
          | some (operand, rest) =>
              branches? flags names branches
                (⟨.set operand.members, operand.depth, true⟩ :: pieces) fuel rest
          | none => none
      | '?' :: rest =>
          match repeatLast? 0 (some 1) pieces with
          | some pieces => branches? flags names branches pieces fuel (dropLazy rest)
          | none => none
      | '*' :: rest =>
          match repeatLast? 0 none pieces with
          | some pieces => branches? flags names branches pieces fuel (dropLazy rest)
          | none => none
      | '+' :: rest =>
          match repeatLast? 1 none pieces with
          | some pieces => branches? flags names branches pieces fuel (dropLazy rest)
          | none => none
      | '\x7b' :: rest =>
          match counts? flags rest with
          | some (least, most, rest) =>
              match repeatLast? least most pieces with
              | some pieces =>
                  branches? flags names branches pieces fuel
                    (dropLazy (skipSpace flags rest))
              | none => none
          | none => none
      | rest =>
          match primitive? flags rest with
          | some (expr, rest) =>
              branches? flags names branches (⟨expr, 0, true⟩ :: pieces) fuel rest
          | none => none

/-- The greatest depth of nesting. -/
def greatestDepth : Nat := 250

/-- Read a pattern. -/
def read? (flags : Flags) (pattern : List Char) : Option Expr :=
  match branches? flags [] [] [] (pattern.length + 1) pattern with
  | some (piece, _, []) => if piece.depth ≤ greatestDepth then some piece.expr else none
  | _ => none

end Regex
end WorkloadPolicy
