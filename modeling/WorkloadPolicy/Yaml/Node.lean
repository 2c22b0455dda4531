import WorkloadPolicy.Yaml.Token

/-!
# Nodes of a YAML document

The tokens of a text form documents, each with one node: a scalar, a sequence,
a mapping or an alias of an anchored node.  A node that is missing where one
may be left out is an empty plain scalar.  Every reader takes tokens from the
front and returns what is left.
-/

namespace WorkloadPolicy
namespace Yaml

/-- What may be attached to a node. -/
structure Properties (Anchor : Type) where
  anchor : Option Anchor := none
  tag : Option String := none

/-- A node of a document.  Anchors are names at first and numbers later. -/
inductive Node (Anchor : Type) where
  | reference (anchor : Anchor)
  | scalar (properties : Properties Anchor) (style : ScalarStyle) (text : String)
  | sequence (properties : Properties Anchor) (items : List (Node Anchor))
  | mapping (properties : Properties Anchor) (entries : List (Node Anchor × Node Anchor))

/-- The prefixes that tag handles stand for. -/
abbrev TagPrefixes := List (String × String)

namespace Node

/-- The node that stands where one is left out. -/
def empty : Node Anchor := scalar {} .plain ""

end Node

/-- The handles that every document knows. -/
def standardPrefixes : TagPrefixes :=
  [("!", "!"), ("!!", "tag:yaml.org,2002:")]

/-- The tag that a mark stands for. -/
def resolveTag? (prefixes : TagPrefixes) (tag : TagMark) : Option String :=
  if tag.handle.isEmpty then
    some tag.suffix
  else
    (prefixes.lookup tag.handle).map (· ++ tag.suffix)

/-- Read the anchor and the tag in front of a node, in either order. -/
def properties? (prefixes : TagPrefixes) :
    List Token → Option (Properties String × List Token)
  | .anchor name :: .tag tag :: rest => do
      some ({ anchor := some name, tag := some (← resolveTag? prefixes tag) }, rest)
  | .tag tag :: .anchor name :: rest => do
      some ({ anchor := some name, tag := some (← resolveTag? prefixes tag) }, rest)
  | .anchor name :: rest => some ({ anchor := some name }, rest)
  | .tag tag :: rest => do
      some ({ tag := some (← resolveTag? prefixes tag) }, rest)
  | rest => some ({}, rest)

/-- Whether one of some tokens comes next. -/
def comesNext (tokens : List Token) (members : List Token) : Bool :=
  tokens.head?.any members.contains

/-- What a node may be where it stands. -/
structure NodeContext where
  prefixes : TagPrefixes
  /-- Whether block collections may stand here. -/
  block : Bool
  /-- Whether a sequence may stand here without being indented. -/
  indentless : Bool

namespace NodeContext

/-- The context of nodes inside brackets. -/
def flow (context : NodeContext) : NodeContext :=
  { context with block := false, indentless := false }

/-- The context of items of block sequences. -/
def item (context : NodeContext) : NodeContext :=
  { context with block := true, indentless := false }

/-- The context of keys and values of block mappings. -/
def entry (context : NodeContext) : NodeContext :=
  { context with block := true, indentless := true }

end NodeContext

/-- A scalar whose tag says nothing has none. -/
def scalarProperties (properties : Properties String) : Properties String :=
  if properties.tag == some "!" then { properties with tag := none } else properties

/-- Pass over the comma in front of every item but the first. -/
def separated? (first : Bool) (tokens : List Token) : Option (List Token) :=
  if first then
    some tokens
  else
    match tokens with
    | .flowEntry :: rest => some rest
    | _ => none

mutual

/-- Read a node. -/
def node? (context : NodeContext) : Nat → List Token → Option (Node String × List Token)
  | 0, _ => none
  | fuel + 1, tokens =>
      match tokens with
      | .reference name :: rest => some (.reference name, rest)
      | _ => do
          let (properties, tokens) ← properties? context.prefixes tokens
          match tokens with
          | .scalar style text :: rest =>
              some (.scalar (scalarProperties properties) style text, rest)
          | .flowSequenceStart :: rest => do
              let (items, rest) ← flowItems? context.flow true fuel rest
              some (.sequence properties items, rest)
          | .flowMappingStart :: rest => do
              let (entries, rest) ← flowEntries? context.flow true fuel rest
              some (.mapping properties entries, rest)
          | _ =>
              if context.indentless && comesNext tokens [.blockEntry] then do
                let (items, rest) ← indentlessItems? context fuel tokens
                some (.sequence properties items, rest)
              else if context.block && comesNext tokens [.blockSequenceStart] then do
                let (items, rest) ← blockItems? context fuel (tokens.drop 1)
                some (.sequence properties items, rest)
              else if context.block && comesNext tokens [.blockMappingStart] then do
                let (entries, rest) ← blockEntries? context fuel (tokens.drop 1)
                some (.mapping properties entries, rest)
              else if properties.anchor.isSome || properties.tag.isSome then
                some (.scalar properties .plain "", tokens)
              else
                none

/-- Read a node unless one of some tokens comes next. -/
def nodeUnless? (context : NodeContext) (members : List Token) :
    Nat → List Token → Option (Node String × List Token)
  | 0, _ => none
  | fuel + 1, tokens =>
      if comesNext tokens members then some (.empty, tokens) else node? context fuel tokens

/-- Read a value with its indicator unless one of some tokens follows. -/
def valueUnless? (context : NodeContext) (members : List Token) :
    Nat → List Token → Option (Node String × List Token)
  | 0, _ => none
  | fuel + 1, tokens =>
      match tokens with
      | .value :: rest => nodeUnless? context members fuel rest
      | _ => some (.empty, tokens)

/-- Read the items of a block sequence. -/
def blockItems? (context : NodeContext) :
    Nat → List Token → Option (List (Node String) × List Token)
  | 0, _ => none
  | fuel + 1, tokens =>
      match tokens with
      | .blockEntry :: rest => do
          let (item, rest) ← nodeUnless? context.item [.blockEntry, .blockEnd] fuel rest
          let (items, rest) ← blockItems? context fuel rest
          some (item :: items, rest)
      | .blockEnd :: rest => some ([], rest)
      | _ => none

/-- Read the items of a sequence that is not indented. -/
def indentlessItems? (context : NodeContext) :
    Nat → List Token → Option (List (Node String) × List Token)
  | 0, _ => none
  | fuel + 1, tokens =>
      match tokens with
      | .blockEntry :: rest => do
          let (item, rest) ←
            nodeUnless? context.item [.blockEntry, .key, .value, .blockEnd] fuel rest
          let (items, rest) ← indentlessItems? context fuel rest
          some (item :: items, rest)
      | _ => some ([], tokens)

/-- Read the entries of a block mapping. -/
def blockEntries? (context : NodeContext) :
    Nat → List Token → Option (List (Node String × Node String) × List Token)
  | 0, _ => none
  | fuel + 1, tokens =>
      match tokens with
      | .key :: rest => do
          let (key, rest) ← nodeUnless? context.entry [.key, .value, .blockEnd] fuel rest
          let (value, rest) ← valueUnless? context.entry [.key, .value, .blockEnd] fuel rest
          let (entries, rest) ← blockEntries? context fuel rest
          some ((key, value) :: entries, rest)
      | .blockEnd :: rest => some ([], rest)
      | _ => none

/-- Read the items of a sequence in brackets. -/
def flowItems? (context : NodeContext) (first : Bool) :
    Nat → List Token → Option (List (Node String) × List Token)
  | 0, _ => none
  | fuel + 1, tokens =>
      match tokens with
      | .flowSequenceEnd :: rest => some ([], rest)
      | _ => do
          let tokens ← separated? first tokens
          match tokens with
          | .flowSequenceEnd :: rest => some ([], rest)
          | .key :: rest => do
              let (item, rest) ← pair? context fuel rest
              let (items, rest) ← flowItems? context false fuel rest
              some (item :: items, rest)
          | _ => do
              let (item, rest) ← node? context fuel tokens
              let (items, rest) ← flowItems? context false fuel rest
              some (item :: items, rest)

/-- Read a mapping of one entry after the indicator of its key.  A key that is
left out takes the token after it along. -/
def pair? (context : NodeContext) : Nat → List Token → Option (Node String × List Token)
  | 0, _ => none
  | fuel + 1, tokens => do
      let (key, rest) ←
        if comesNext tokens [.value, .flowEntry, .flowSequenceEnd] then
          some (Node.empty, tokens.drop 1)
        else
          node? context fuel tokens
      let (value, rest) ← valueUnless? context [.flowEntry, .flowSequenceEnd] fuel rest
      some (.mapping {} [(key, value)], rest)

/-- Read the entries of a mapping in braces. -/
def flowEntries? (context : NodeContext) (first : Bool) :
    Nat → List Token → Option (List (Node String × Node String) × List Token)
  | 0, _ => none
  | fuel + 1, tokens =>
      match tokens with
      | .flowMappingEnd :: rest => some ([], rest)
      | _ => do
          let tokens ← separated? first tokens
          match tokens with
          | .flowMappingEnd :: rest => some ([], rest)
          | .key :: rest => do
              let (key, rest) ←
                nodeUnless? context [.value, .flowEntry, .flowMappingEnd] fuel rest
              let (value, rest) ←
                valueUnless? context [.flowEntry, .flowMappingEnd] fuel rest
              let (entries, rest) ← flowEntries? context false fuel rest
              some ((key, value) :: entries, rest)
          | _ => do
              let (key, rest) ← node? context fuel tokens
              let (entries, rest) ← flowEntries? context false fuel rest
              some ((key, .empty) :: entries, rest)

end

/-- What the directives of a document have set. -/
structure DocumentSettings where
  hasVersion : Bool := false
  prefixes : TagPrefixes := []

/-- Take in a directive.  A document has one version at most, of the first
major one, and defines each handle once at most. -/
def DocumentSettings.add? (settings : DocumentSettings) :
    Directive → Option DocumentSettings
  | .version major minor =>
      if settings.hasVersion || major != 1 || (minor != 1 && minor != 2) then
        none
      else
        some { settings with hasVersion := true }
  | .tag handle leading =>
      if (settings.prefixes.lookup handle).isSome then
        none
      else
        some { settings with prefixes := settings.prefixes ++ [(handle, leading)] }

/-- Read the directives in front of a document. -/
def directives? (settings : DocumentSettings) :
    List Token → Option (DocumentSettings × List Token)
  | .directive directive :: rest => do directives? (← settings.add? directive) rest
  | rest => some (settings, rest)

/-- The context of the node of a document. -/
def DocumentSettings.context (settings : DocumentSettings) : NodeContext :=
  ⟨settings.prefixes ++ standardPrefixes, true, false⟩

/-- Whether a document ends before its node. -/
def endsDocument : List Token → Bool
  | .directive _ :: _ => true
  | tokens => comesNext tokens [.documentStart, .documentEnd, .streamEnd]

/-- Read a document that starts with a mark. -/
def markedDocument? (tokens : List Token) : Option (Node String × List Token) := do
  let (settings, rest) ← directives? {} tokens
  match rest with
  | .documentStart :: rest =>
      if endsDocument rest then
        some (.empty, rest)
      else
        node? settings.context (4 * rest.length + 4) rest
  | _ => none

/-- Pass over marks that end documents. -/
def afterDocument (tokens : List Token) : List Token :=
  tokens.dropWhile (· == .documentEnd)

/-- Read the one document of a text; without any document its node is empty. -/
def document? (tokens : List Token) : Option (Node String) := do
  let first :=
    if comesNext tokens [.streamEnd] then
      some (.empty, tokens)
    else if endsDocument tokens && !comesNext tokens [.documentEnd] then
      markedDocument? tokens
    else
      node? ({} : DocumentSettings).context (4 * tokens.length + 4) tokens
  let (node, rest) ← first
  if comesNext (afterDocument rest) [.streamEnd] then some node else none

end Yaml
end WorkloadPolicy
