import WorkloadPolicy.Field.Registry
import WorkloadPolicy.Policy.Comparator
import WorkloadPolicy.Regex.Pattern

/-!
# Predicates

A predicate is a tree over leaves that each test the values under one
attribute path.  Linked leaves are tested together, row by row.  Every leaf
records what it matched under a highlight key, which is its path until a
check puts its own name in front.
-/

namespace WorkloadPolicy

/-- What a leaf checks. -/
inductive Operation where
  /-- The pattern matches a value that is not empty. -/
  | regex (pattern : Pattern)
  /-- The value equals the text. -/
  | exact (expected : String)
  /-- The value reads as a number that compares as asked with the threshold. -/
  | numeric (comparator : Comparator) (threshold : Float)
  /-- The value is a timestamp more than so many days old. -/
  | olderThanDays (days : Int)
  /-- There are no values. -/
  | missing
  /-- Some value is a list none of whose items the pattern matches. -/
  | lacks (pattern : Pattern) (display : String)
  /-- The value is an entry whose key matches and whose value, if a pattern for
  it is given, matches or, if negated, does not match. -/
  | mapEntry (key : Pattern) (value : Option Pattern) (negateValue : Bool)
  /-- No value is an entry whose key matches. -/
  | mapKeyAbsent (key : Pattern)
  /-- Every value. -/
  | any
  /-- No value. -/
  | never

/-- A test of the values under one attribute path. -/
structure FieldQuery where
  label : FieldLabel
  /-- The path that the values are read from. -/
  path : String
  /-- The key that matched values are recorded under. -/
  key : String
  kind : EntityKind
  operation : Operation

/-- A predicate over entities. -/
inductive Query where
  | leaf (field : FieldQuery)
  | linked (fields : List FieldQuery)
  | conjunction (children : List Query)
  | disjunction (children : List Query)

/-- The highlight key of a path for a check. -/
def highlightKey (check path : String) : String :=
  check ++ "/" ++ path

namespace FieldQuery

/-- A leaf for a registered field, keyed by its path. -/
def ofField
    (label : FieldLabel)
    (metadata : FieldMetadata)
    (operation : Operation) : FieldQuery :=
  ⟨label, metadata.path, metadata.path, metadata.kind, operation⟩

/-- The leaf keyed for a check. -/
def keyed (check : String) (field : FieldQuery) : FieldQuery :=
  { field with key := highlightKey check field.path }

end FieldQuery

namespace Query

/-- The conjunction of some predicates.  A single one stands for itself, and
none make no predicate. -/
def all? : List Query → Option Query
  | [] => none
  | [query] => some query
  | queries => some (conjunction queries)

/-- The disjunction of some predicates, collapsed in the same way. -/
def any? : List Query → Option Query
  | [] => none
  | [query] => some query
  | queries => some (disjunction queries)

mutual

/-- The kinds of entities that the leaves read, in order and with
repetitions. -/
def kinds : Query → List EntityKind
  | leaf field => [field.kind]
  | linked fields => fields.map (·.kind)
  | conjunction children => kindsOfAll children
  | disjunction children => kindsOfAll children

/-- The kinds of entities that several predicates read. -/
def kindsOfAll : List Query → List EntityKind
  | [] => []
  | child :: children => kinds child ++ kindsOfAll children

end

/-- The kinds of entities that a predicate reads, each once and in order. -/
def kindSet (query : Query) : List EntityKind :=
  EntityKind.all.filter query.kinds.contains

mutual

/-- The predicate with all leaves keyed for a check. -/
def keyed (check : String) : Query → Query
  | leaf field => leaf (field.keyed check)
  | linked fields => linked (fields.map (·.keyed check))
  | conjunction children => conjunction (keyedAll check children)
  | disjunction children => disjunction (keyedAll check children)

/-- Several predicates keyed for a check. -/
def keyedAll (check : String) : List Query → List Query
  | [] => []
  | child :: children => keyed check child :: keyedAll check children

end

/-- To prove something of all predicates, prove it of every node whose children
have it. -/
@[elab_as_elim, induction_eliminator]
theorem induction
    {motive : Query → Prop}
    (leaf : ∀ field, motive (leaf field))
    (linked : ∀ fields, motive (linked fields))
    (conjunction : ∀ children, (∀ child ∈ children, motive child) →
      motive (conjunction children))
    (disjunction : ∀ children, (∀ child ∈ children, motive child) →
      motive (disjunction children)) :
    ∀ query, motive query
  | .leaf field => leaf field
  | .linked fields => linked fields
  | .conjunction children =>
      conjunction children fun child _ =>
        induction leaf linked conjunction disjunction child
  | .disjunction children =>
      disjunction children fun child _ =>
        induction leaf linked conjunction disjunction child

theorem kindsOfAll_eq_flatMap (children : List Query) :
    kindsOfAll children = children.flatMap kinds := by
  induction children with
  | nil => rfl
  | cons child children hypothesis => simp [kindsOfAll, hypothesis]

theorem keyedAll_eq_map (check : String) (children : List Query) :
    keyedAll check children = children.map (keyed check) := by
  induction children with
  | nil => rfl
  | cons child children hypothesis => simp [keyedAll, hypothesis]

end Query
end WorkloadPolicy
