import WorkloadPolicy.Yaml.Scalar
import WorkloadPolicy.Yaml.Tag

/-!
# Tokens of a YAML text

A text is cut into tokens.  Indentation opens and closes block collections.
Whether something is a key shows only when a colon follows it, so the place of
each possible key is kept; a key must stand on one line and be at most 1024
characters long.
-/

namespace WorkloadPolicy
namespace Yaml

/-- A token of a YAML text. -/
inductive Token where
  | streamEnd
  | directive (directive : Directive)
  | documentStart
  | documentEnd
  | blockSequenceStart
  | blockMappingStart
  | blockEnd
  | flowSequenceStart
  | flowSequenceEnd
  | flowMappingStart
  | flowMappingEnd
  | blockEntry
  | flowEntry
  | key
  | value
  | reference (name : String)
  | anchor (name : String)
  | tag (tag : TagMark)
  | scalar (style : ScalarStyle) (text : String)
  deriving DecidableEq, Repr

/-- A place where a key may have started. -/
structure KeyPlace where
  /-- Whether a key must stand there. -/
  required : Bool
  /-- The count of tokens before it. -/
  tokenCount : Nat
  cursor : Cursor

/-- What has been read of a text. -/
structure Scan where
  cursor : Cursor
  /-- The tokens so far, the last one first. -/
  tokens : List Token := []
  tokenCount : Nat := 0
  /-- The column of the innermost block collection, negative outside of all. -/
  indent : Int := -1
  /-- The columns of the block collections around it. -/
  outerIndents : List Int := []
  /-- The possible key outside of all brackets. -/
  blockKey : Option KeyPlace := none
  /-- The possible key inside each open bracket, the innermost first. -/
  flowKeys : List (Option KeyPlace) := []
  /-- Whether a key may start here. -/
  keyAllowed : Bool := true

namespace Scan

/-- Whether the position is inside brackets. -/
def inFlow (scan : Scan) : Bool :=
  !scan.flowKeys.isEmpty

/-- The possible key of the innermost level. -/
def possibleKey (scan : Scan) : Option KeyPlace :=
  match scan.flowKeys with
  | [] => scan.blockKey
  | key :: _ => key

/-- Set the possible key of the innermost level. -/
def withKey (scan : Scan) (key : Option KeyPlace) : Scan :=
  match scan.flowKeys with
  | [] => { scan with blockKey := key }
  | _ :: others => { scan with flowKeys := key :: others }

/-- Add a token. -/
def push (scan : Scan) (token : Token) : Scan :=
  { scan with tokens := token :: scan.tokens, tokenCount := scan.tokenCount + 1 }

/-- Put a token after the first `count` ones. -/
def insert (scan : Scan) (count : Nat) (token : Token) : Scan :=
  let later := scan.tokenCount - count
  { scan with
    tokens := scan.tokens.take later ++ token :: scan.tokens.drop later
    tokenCount := scan.tokenCount + 1 }

/-- Add a token for some characters that are passed over. -/
def pushSkipping (scan : Scan) (token : Token) (count : Nat) : Scan :=
  { scan.push token with cursor := scan.cursor.skip count }

/-- Pass over blanks, comments and line ends up to the next token. -/
def toNextToken : Nat → Scan → Scan
  | 0, scan => scan
  | fuel + 1, scan =>
      let start :=
        if scan.cursor.column == 0 && scan.cursor.isAt '\uFEFF' then
          scan.cursor.skip 1
        else
          scan.cursor
      let tabs := scan.inFlow || !scan.keyAllowed
      let afterBlanks := start.skipWhile fun character =>
        character == ' ' || (tabs && character == '\t')
      let cursor := afterBlanks.skipComment
      match cursor.takeBreak? with
      | some (_, after) =>
          toNextToken fuel
            { scan with cursor := after, keyAllowed := scan.keyAllowed || !scan.inFlow }
      | none => { scan with cursor := cursor }

/-- Drop a possible key that is too far behind.  A required one must not be
dropped. -/
def freshKey? (cursor : Cursor) : Option KeyPlace → Option (Option KeyPlace)
  | none => some none
  | some key =>
      if key.cursor.line < cursor.line || key.cursor.index + 1024 < cursor.index then
        if key.required then none else some none
      else
        some (some key)

/-- Drop the possible keys that are too far behind. -/
def dropStaleKeys? (scan : Scan) : Option Scan := do
  let blockKey ← freshKey? scan.cursor scan.blockKey
  let flowKeys ← scan.flowKeys.mapM (freshKey? scan.cursor)
  some { scan with blockKey := blockKey, flowKeys := flowKeys }

/-- Drop the possible key of the innermost level, which must not be
required. -/
def dropKey? (scan : Scan) : Option Scan :=
  if scan.possibleKey.any (·.required) then none else some (scan.withKey none)

/-- Note that a key may start here. -/
def noteKey? (scan : Scan) : Option Scan :=
  if scan.keyAllowed then
    let required := !scan.inFlow && scan.indent == scan.cursor.column
    scan.dropKey?.map fun scan =>
      scan.withKey (some ⟨required, scan.tokenCount, scan.cursor⟩)
  else
    some scan

/-- Open a block collection at a column, if it lies deeper than the innermost
one.  Its token goes after the first `count` ones. -/
def openBlock (scan : Scan) (column count : Nat) (token : Token) : Scan :=
  if scan.inFlow || (column : Int) ≤ scan.indent then
    scan
  else
    { scan.insert count token with
      indent := column
      outerIndents := scan.indent :: scan.outerIndents }

/-- Close the block collections deeper than a column. -/
def closeDeeper (column : Int) : List Int → Scan → Scan
  | [], scan => scan
  | outer :: others, scan =>
      if column < scan.indent then
        closeDeeper column others
          { scan.push .blockEnd with indent := outer, outerIndents := others }
      else
        scan

/-- Close the block collections that end at a column. -/
def closeBlocks (scan : Scan) (column : Int) : Scan :=
  if scan.inFlow then scan else closeDeeper column scan.outerIndents scan

/-- Close everything before what stands outside of documents. -/
def leaveDocument? (scan : Scan) : Option Scan :=
  (scan.closeBlocks (-1)).dropKey?.map fun scan => { scan with keyAllowed := false }

/-- Read the end of the text. -/
def finish? (scan : Scan) : Option Scan :=
  scan.leaveDocument?.map (·.push .streamEnd)

/-- Read a directive. -/
def directive? (scan : Scan) : Option Scan := do
  let scan ← scan.leaveDocument?
  let (directive, after) ← readDirective? scan.cursor
  some { scan.push (.directive directive) with cursor := after }

/-- Read a mark between documents. -/
def documentMark? (scan : Scan) (token : Token) : Option Scan :=
  scan.leaveDocument?.map (·.pushSkipping token 3)

/-- Read an opening bracket. -/
def openFlow? (scan : Scan) (token : Token) : Option Scan :=
  scan.noteKey?.map fun scan =>
    { scan.pushSkipping token 1 with flowKeys := none :: scan.flowKeys, keyAllowed := true }

/-- Read a closing bracket. -/
def closeFlow? (scan : Scan) (token : Token) : Option Scan :=
  scan.dropKey?.map fun scan =>
    { scan.pushSkipping token 1 with
      flowKeys := scan.flowKeys.drop 1
      keyAllowed := false }

/-- Read a comma. -/
def flowEntry? (scan : Scan) : Option Scan :=
  scan.dropKey?.map fun scan => { scan.pushSkipping .flowEntry 1 with keyAllowed := true }

/-- Open a block collection here for an indicator, which needs a place where a
key may start. -/
def openHere? (scan : Scan) (token : Token) : Option Scan :=
  if scan.inFlow then
    some scan
  else if scan.keyAllowed then
    some (scan.openBlock scan.cursor.column scan.tokenCount token)
  else
    none

/-- Read the indicator of an item. -/
def blockEntry? (scan : Scan) : Option Scan := do
  let scan ← (← scan.openHere? .blockSequenceStart).dropKey?
  some { scan.pushSkipping .blockEntry 1 with keyAllowed := true }

/-- Read the indicator of a key. -/
def key? (scan : Scan) : Option Scan := do
  let scan ← (← scan.openHere? .blockMappingStart).dropKey?
  some { scan.pushSkipping .key 1 with keyAllowed := !scan.inFlow }

/-- Read the indicator of a value, which turns a possible key into a key. -/
def value? (scan : Scan) : Option Scan :=
  match scan.possibleKey with
  | some key =>
      let marked := (scan.insert key.tokenCount .key).openBlock
        key.cursor.column key.tokenCount .blockMappingStart
      some { (marked.withKey none).pushSkipping .value 1 with keyAllowed := false }
  | none => do
      let scan ← scan.openHere? .blockMappingStart
      some { scan.pushSkipping .value 1 with keyAllowed := !scan.inFlow }

/-- Read the name of an anchor or an alias after its indicator. -/
def anchorName? (cursor : Cursor) : Option (String × Cursor) :=
  let (name, after) := (cursor.skip 1).takeWhile isNameCharacter
  let ended := after.blankAfter 0 ||
    after.isIn ['?', ':', ',', ']', '\x7d', '%', '@', '`'].contains
  if name.isEmpty || !ended then none else some (String.ofList name, after)

/-- Read an anchor or an alias. -/
def anchor? (scan : Scan) (token : String → Token) : Option Scan := do
  let scan ← scan.noteKey?
  let (name, after) ← anchorName? scan.cursor
  some { scan.push (token name) with cursor := after, keyAllowed := false }

/-- Read a tag. -/
def tag? (scan : Scan) : Option Scan := do
  let scan ← scan.noteKey?
  let (tag, after) ← readTag? scan.inFlow scan.cursor
  some { scan.push (.tag tag) with cursor := after, keyAllowed := false }

/-- Read a block scalar. -/
def block? (scan : Scan) (style : ScalarStyle) : Option Scan := do
  let scan ← scan.dropKey?
  let (text, after) ← readBlock? (style == .folded) scan.indent (scan.cursor.skip 1)
  some
    { scan.push (.scalar style (String.ofList text)) with cursor := after, keyAllowed := true }

/-- Read a quoted scalar. -/
def quoted? (scan : Scan) (quote : Char) : Option Scan := do
  let scan ← scan.noteKey?
  let (text, after) ←
    readQuoted? quote [] (scan.cursor.rest.length + 1) (scan.cursor.skip 1)
  some
    { scan.push (.scalar .quoted (String.ofList text)) with
      cursor := after
      keyAllowed := false }

/-- Read a plain scalar.  After a line end a key may start. -/
def plain? (scan : Scan) : Option Scan := do
  let scan ← scan.noteKey?
  let context : PlainContext := ⟨scan.inFlow, (scan.indent + 1).toNat⟩
  let (text, lineEnded, after) ←
    readPlain? context [] {} false (scan.cursor.rest.length + 1) scan.cursor
  some
    { scan.push (.scalar .plain (String.ofList text)) with
      cursor := after
      keyAllowed := lineEnded }

/-- Whether a plain scalar may start with a character. -/
def startsPlain (scan : Scan) (character : Char) : Bool :=
  let indicator :=
    ['-', '?', ':', ',', '[', ']', '\x7b', '\x7d', '#', '&', '*', '!', '|', '>', '\'', '"',
      '%', '@', '`'].contains character
  (!indicator && !isBlankOrBreak character) ||
    (character == '-' && !(scan.cursor.rest[1]?).any isBlank) ||
    (!scan.inFlow && (character == '?' || character == ':') && !scan.cursor.blankAfter 1)

/-- Read one token that starts with the given character. -/
def token? (scan : Scan) (character : Char) : Option Scan :=
  let cursor := scan.cursor
  let separated := cursor.blankAfter 1
  if cursor.column == 0 && character == '%' then scan.directive?
  else if cursor.isAtMark '-' then scan.documentMark? .documentStart
  else if cursor.isAtMark '.' then scan.documentMark? .documentEnd
  else if character == '[' then scan.openFlow? .flowSequenceStart
  else if character == '\x7b' then scan.openFlow? .flowMappingStart
  else if character == ']' then scan.closeFlow? .flowSequenceEnd
  else if character == '\x7d' then scan.closeFlow? .flowMappingEnd
  else if character == ',' then scan.flowEntry?
  else if character == '-' && separated then scan.blockEntry?
  else if character == '?' && (scan.inFlow || separated) then scan.key?
  else if character == ':' && (scan.inFlow || separated) then scan.value?
  else if character == '*' then scan.anchor? .reference
  else if character == '&' then scan.anchor? .anchor
  else if character == '!' then scan.tag?
  else if character == '|' && !scan.inFlow then scan.block? .literal
  else if character == '>' && !scan.inFlow then scan.block? .folded
  else if character == '\'' || character == '"' then scan.quoted? character
  else if scan.startsPlain character then scan.plain?
  else none

/-- Read tokens up to the end of the text. -/
def run? : Nat → Scan → Option Scan
  | 0, _ => none
  | fuel + 1, scan => do
      let scan ← (scan.toNextToken (scan.cursor.rest.length + 1)).dropStaleKeys?
      let scan := scan.closeBlocks scan.cursor.column
      match scan.cursor.next? with
      | none => scan.finish?
      | some character => run? fuel (← scan.token? character)

end Scan

/-- The tokens of a text. -/
def tokens? (characters : List Char) : Option (List Token) :=
  if characters.all isAllowed then
    (Scan.run? (characters.length + 1) { cursor := { rest := characters } }).map fun scan =>
      scan.tokens.reverse
  else
    none

end Yaml
end WorkloadPolicy
