import WorkloadPolicy.Yaml.Cursor

/-!
# Scalars of a YAML text

Scalars are written plain, in quotes, or as blocks.  In plain and quoted
scalars the blanks around a line end are dropped, one line end reads as a
space, and of several the first is dropped.  Literal blocks keep their lines;
folded blocks join lines that start without a blank.
-/

namespace WorkloadPolicy
namespace Yaml

/-- How a scalar is written. -/
inductive ScalarStyle where
  | plain
  | quoted
  | literal
  | folded
  deriving DecidableEq, Repr

/-- Blanks and line ends between parts of a scalar. -/
structure Gap where
  /-- Blanks in front of the first line end; they count only without one. -/
  blanks : List Char := []
  /-- The ends of lines. -/
  breaks : List Char := []

namespace Gap

/-- Line ends of which the first one folds. -/
def folded : List Char → List Char
  | [] => []
  | '\n' :: [] => [' ']
  | '\n' :: others => others
  | breaks => breaks

/-- What a gap reads as. -/
def text (gap : Gap) : List Char :=
  if gap.breaks.isEmpty then gap.blanks else folded gap.breaks

/-- Read a gap.  `inside` says that a line end has been passed; then blanks are
dropped, and tabs left of column `least` are refused. -/
def read? (least : Nat) (inside : Bool) (gap : Gap) :
    Nat → Cursor → Option (Gap × Cursor)
  | 0, _ => none
  | fuel + 1, cursor =>
      if cursor.isIn isBlank then
        if inside then
          if cursor.column < least && cursor.isAt '\t' then
            none
          else
            read? least inside gap fuel (cursor.skip 1)
        else
          let blanks := gap.blanks ++ cursor.rest.take 1
          read? least inside { gap with blanks := blanks } fuel (cursor.skip 1)
      else
        match cursor.takeBreak? with
        | some (lineEnd, after) =>
            read? least true { gap with breaks := gap.breaks ++ [lineEnd] } fuel after
        | none => some (gap, cursor)

end Gap

/-- The character of a code that an escape gives. -/
def escapedCode? (code : Nat) : Option Char :=
  if code.isValidChar then some (Char.ofNat code) else none

/-- The number written by some hexadecimal digits. -/
def hexNumber? (count : Nat) (characters : List Char) : Option Nat := do
  let digits ← (characters.take count).mapM hexDigit?
  if digits.length = count then
    some (digits.foldl (fun number digit => number * 16 + digit) 0)
  else
    none

/-- The character that an escape stands for, and the length of the escape after
its backslash. -/
def escape? : List Char → Option (Char × Nat)
  | [] => none
  | letter :: rest =>
      let coded := fun count => do
        let code ← hexNumber? count rest
        let character ← escapedCode? code
        some (character, count + 1)
      match letter with
      | '0' => some ('\x00', 1)
      | 'a' => some ('\x07', 1)
      | 'b' => some ('\x08', 1)
      | 't' => some ('\t', 1)
      | '\t' => some ('\t', 1)
      | 'n' => some ('\n', 1)
      | 'v' => some ('\x0b', 1)
      | 'f' => some ('\x0c', 1)
      | 'r' => some ('\r', 1)
      | 'e' => some ('\x1b', 1)
      | ' ' => some (' ', 1)
      | '"' => some ('"', 1)
      | '/' => some ('/', 1)
      | '\\' => some ('\\', 1)
      | 'N' => some ('\u0085', 1)
      | '_' => some ('\u00a0', 1)
      | 'L' => some ('\u2028', 1)
      | 'P' => some ('\u2029', 1)
      | 'x' => coded 2
      | 'u' => coded 4
      | 'U' => coded 8
      | _ => none

/-- Read what follows the opening quote up to the closing one.  `read` holds
the characters so far, the last one first. -/
def readQuoted? (quote : Char) (read : List Char) :
    Nat → Cursor → Option (List Char × Cursor)
  | 0, _ => none
  | fuel + 1, cursor =>
      if cursor.isAtDocumentMark then
        none
      else
        match cursor.rest with
        | [] => none
        | character :: rest =>
            if isBlankOrBreak character then do
              let (gap, after) ← Gap.read? 0 false {} (fuel + 1) cursor
              readQuoted? quote (gap.text.reverse ++ read) fuel after
            else if character == quote then
              if quote == '\'' && rest.head? == some '\'' then
                readQuoted? quote ('\'' :: read) fuel (cursor.skip 2)
              else
                some (read.reverse, cursor.skip 1)
            else if quote == '"' && character == '\\' then
              if rest.head?.any isBreak then do
                let (gap, after) ← Gap.read? 0 true {} (fuel + 1) (cursor.skip 1).skipBreak
                readQuoted? quote (gap.breaks.reverse ++ read) fuel after
              else do
                let (meant, length) ← escape? rest
                readQuoted? quote (meant :: read) fuel (cursor.skip (length + 1))
            else
              readQuoted? quote (character :: read) fuel (cursor.skip 1)

/-- Whether a character ends a plain scalar inside brackets. -/
def isFlowIndicator (character : Char) : Bool :=
  [',', '[', ']', '\x7b', '\x7d'].contains character

/-- Where a plain scalar stands. -/
structure PlainContext where
  /-- Whether it stands inside brackets. -/
  inFlow : Bool
  /-- The least column of its further lines. -/
  least : Nat

/-- Read a plain scalar.  `gap` is what was read since the last character, and
`fresh` says that the scalar goes on after a gap.  The result says whether the
scalar was followed by a line end. -/
def readPlain? (context : PlainContext) (read : List Char) (gap : Gap) (fresh : Bool) :
    Nat → Cursor → Option (List Char × Bool × Cursor)
  | 0, _ => none
  | fuel + 1, cursor =>
      let ended := some (read.reverse, !gap.breaks.isEmpty, cursor)
      match cursor.rest with
      | [] => ended
      | character :: rest =>
          if isBlankOrBreak character then do
            let (gap, after) ← Gap.read? context.least false {} (fuel + 1) cursor
            if !context.inFlow && after.column < context.least then
              some (read.reverse, !gap.breaks.isEmpty, after)
            else
              readPlain? context read gap true fuel after
          else if fresh && (cursor.isAtDocumentMark || character == '#') then
            ended
          else if context.inFlow && character == ':' &&
              rest.head?.any fun following => isFlowIndicator following || following == '?' then
            none
          else if (character == ':' && cursor.blankAfter 1) ||
              (context.inFlow && isFlowIndicator character) then
            ended
          else
            readPlain? context (character :: (gap.text.reverse ++ read)) {} false fuel
              (cursor.skip 1)

/-- What becomes of the line ends at the end of a block. -/
inductive Chomping where
  | strip
  | clip
  | keep
  deriving DecidableEq, Repr

/-- The header of a block. -/
structure BlockHeader where
  chomping : Chomping := .clip
  /-- The indentation that is given, relative to the parent. -/
  increment : Option Nat := none

/-- Read a mark for the chomping. -/
def chompingMark? (cursor : Cursor) : Option (Chomping × Cursor) :=
  if cursor.isAt '+' then some (.keep, cursor.skip 1)
  else if cursor.isAt '-' then some (.strip, cursor.skip 1)
  else none

/-- Read a digit for the indentation, if there is one; it must not be zero. -/
def incrementMark? (cursor : Cursor) : Option (Option Nat × Cursor) :=
  match cursor.next? with
  | some digit =>
      if digit.isDigit then
        if digit == '0' then none
        else some (some (digit.toNat - '0'.toNat), cursor.skip 1)
      else
        some (none, cursor)
  | none => some (none, cursor)

/-- Read the header of a block after its first mark. -/
def blockHeader? (cursor : Cursor) : Option (BlockHeader × Cursor) :=
  match chompingMark? cursor with
  | some (chomping, after) => do
      let (increment, last) ← incrementMark? after
      some (⟨chomping, increment⟩, last)
  | none => do
      let (increment, after) ← incrementMark? cursor
      match increment, chompingMark? after with
      | some _, some (chomping, last) => some (⟨chomping, increment⟩, last)
      | _, _ => some (⟨.clip, increment⟩, after)

/-- Pass over the indentation and the empty lines in front of a line of a
block.  `indent` is the indentation if it is known.  The result holds the
greatest column reached and the line ends. -/
def blockBreaks? (indent : Option Nat) (greatest : Nat) (breaks : List Char) :
    Nat → Cursor → Option (Nat × List Char × Cursor)
  | 0, _ => none
  | fuel + 1, cursor =>
      let short := fun (cursor : Cursor) => indent.all fun indent => cursor.column < indent
      if short cursor && cursor.isAt ' ' then
        blockBreaks? indent greatest breaks fuel (cursor.skip 1)
      else
        let greatest := max greatest cursor.column
        if short cursor && cursor.isAt '\t' then
          none
        else
          match cursor.takeBreak? with
          | some (lineEnd, after) =>
              blockBreaks? indent greatest (breaks ++ [lineEnd]) fuel after
          | none => some (greatest, breaks, cursor)

/-- What has been read of a block. -/
structure BlockText where
  /-- The characters so far, the last one first. -/
  read : List Char := []
  /-- The end of the last line. -/
  lineEnd : List Char := []
  /-- The ends of the empty lines after it. -/
  breaks : List Char := []
  /-- Whether the last line started with a blank. -/
  blankStart : Bool := false

namespace BlockText

/-- The text with the line ends in front of a further line.  A single line feed
between lines that start without a blank folds into a space. -/
def joined (text : BlockText) (folds blankStart : Bool) : List Char :=
  let lead :=
    if folds && text.lineEnd == ['\n'] && !text.blankStart && !blankStart then
      if text.breaks.isEmpty then [' '] else []
    else
      text.lineEnd
  text.breaks.reverse ++ lead.reverse ++ text.read

/-- The whole text after its end has been treated. -/
def chomped (text : BlockText) (chomping : Chomping) : List Char :=
  text.read.reverse ++
    match chomping with
    | .strip => []
    | .clip => text.lineEnd
    | .keep => text.lineEnd ++ text.breaks

end BlockText

/-- Read the lines of a block. -/
def readLines? (folds : Bool) (indent : Nat) (text : BlockText) :
    Nat → Cursor → Option (BlockText × Cursor)
  | 0, _ => none
  | fuel + 1, cursor =>
      if cursor.column != indent || cursor.rest.isEmpty then
        some (text, cursor)
      else do
        let blankStart := cursor.isIn isBlank
        let (line, afterLine) := cursor.takeWhile fun character => !isBreak character
        let (lineEnd, afterEnd) :=
          match afterLine.takeBreak? with
          | some (lineEnd, after) => ([lineEnd], after)
          | none => ([], afterLine)
        let (_, breaks, after) ← blockBreaks? (some indent) 0 [] (fuel + 1) afterEnd
        let read := line.reverse ++ text.joined folds blankStart
        readLines? folds indent ⟨read, lineEnd, breaks, blankStart⟩ fuel after

/-- Read a block after its first mark.  `parent` is the indentation around
it, which is negative outside of everything. -/
def readBlock? (folds : Bool) (parent : Int) (cursor : Cursor) :
    Option (List Char × Cursor) := do
  let fuel := cursor.rest.length + 2
  let (header, afterHeader) ← blockHeader? cursor
  let start ← afterHeader.skipLineEnd?
  let given := header.increment.map fun increment => (max parent 0).toNat + increment
  let (greatest, breaks, first) ← blockBreaks? given 0 [] fuel start
  let indent := given.getD (max greatest (max (parent + 1) 1).toNat)
  let (text, after) ← readLines? folds indent { breaks := breaks } fuel first
  some (text.chomped header.chomping, after)

end Yaml
end WorkloadPolicy
