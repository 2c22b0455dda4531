import WorkloadPolicy.Calendar.Rfc3339
import WorkloadPolicy.Decimal.Number
import WorkloadPolicy.Field.Values
import WorkloadPolicy.Predicate.Highlights
import WorkloadPolicy.Predicate.Query

/-!
# Evaluation

A predicate is evaluated on flattened values at a given moment.  The verdict is
a match with its highlights, no match, or a fault: an age of more days than a
duration can hold cannot be compared with a timestamp.

A conjunction stops at the first child that does not match; a disjunction
evaluates all children and keeps the highlights of those that match.  Both
ways of combining verdicts are associative.
-/

namespace WorkloadPolicy

/-- The outcome of an evaluation. -/
inductive Verdict where
  | matched (highlights : Highlights)
  | unmatched
  /-- An age in days was too great to be compared. -/
  | fault
  deriving DecidableEq, Repr

namespace Verdict

/-- Both must match; the first verdict that is no match decides. -/
def both : Verdict → Verdict → Verdict
  | matched first, matched second => matched (first ++ second)
  | matched _, other => other
  | other, _ => other

/-- One must match; a fault anywhere decides. -/
def either : Verdict → Verdict → Verdict
  | matched first, matched second => matched (first ++ second)
  | matched first, unmatched => matched first
  | matched _, fault => fault
  | unmatched, other => other
  | fault, _ => fault

@[simp] theorem both_assoc (first second third : Verdict) :
    (first.both second).both third = first.both (second.both third) := by
  cases first <;> cases second <;> cases third <;>
    simp [both, Highlights.append_assoc]

@[simp] theorem either_assoc (first second third : Verdict) :
    (first.either second).either third = first.either (second.either third) := by
  cases first <;> cases second <;> cases third <;>
    simp [either, Highlights.append_assoc]

@[simp] theorem both_matched_empty (verdict : Verdict) :
    verdict.both (matched {}) = verdict := by
  cases verdict <;> simp [both]

@[simp] theorem matched_empty_both (verdict : Verdict) :
    (matched {}).both verdict = verdict := by
  cases verdict <;> simp [both]

@[simp] theorem either_unmatched (verdict : Verdict) :
    verdict.either unmatched = verdict := by
  cases verdict <;> rfl

@[simp] theorem unmatched_either (verdict : Verdict) :
    unmatched.either verdict = verdict := rfl

end Verdict

/-- Split an entry of a map into key and value. -/
def splitEntry (entry : String) : String × String :=
  Text.cut '=' entry

/-- Whether a pattern matches no item of a list joined by commas. -/
def lacksItem (pattern : Pattern) (row : String) : Bool :=
  !(Text.split ',' row).any fun item => pattern.isMatch (Text.trim item)

namespace Operation

/-- Whether a value satisfies an operation at the moment `now`. -/
def holds (now : Calendar.Instant) (value : String) : Operation → Bool
  | regex pattern => !value.isEmpty && pattern.isMatch value
  | exact expected => value == expected
  | numeric comparator threshold =>
      match Decimal.number? value with
      | some number => comparator.compare number threshold
      | none => false
  | olderThanDays days =>
      match Calendar.readStrict? value with
      | some localTime => localTime.instant.isOlderThan now days
      | none => false
  | missing => value.isEmpty
  | lacks pattern _ => lacksItem pattern value
  | mapEntry key valuePattern negateValue =>
      let (entryKey, entryValue) := splitEntry value
      key.isMatch entryKey &&
        match valuePattern with
        | some pattern => pattern.isMatch entryValue != negateValue
        | none => true
  | mapKeyAbsent key => !key.isMatch (splitEntry value).1
  | any => true
  | never => false

/-- Whether a value cannot be tested: the days of an age do not fit a duration
and the value is a timestamp. -/
def faults (value : String) : Operation → Bool
  | olderThanDays days =>
      !Calendar.Instant.dayCountFits days && (Calendar.readStrict? value).isSome
  | _ => false

end Operation

namespace FieldQuery

/-- The verdict of a leaf on the values under its path. -/
def evaluate
    (now : Calendar.Instant)
    (field : FieldQuery)
    (values : List String) : Verdict :=
  match field.operation with
  | .missing => if values.isEmpty then .matched {} else .unmatched
  | .lacks pattern display =>
      if values.any (lacksItem pattern) then
        .matched (.ofKey field.key [display])
      else
        .unmatched
  | .mapKeyAbsent key =>
      if values.any fun value => key.isMatch (splitEntry value).1 then
        .unmatched
      else
        .matched {}
  | operation =>
      if values.any fun value => operation.faults value then
        .fault
      else
        match values.filter fun value => operation.holds now value with
        | [] => .unmatched
        | hits => .matched (.ofKey field.key hits)

end FieldQuery

/-- Values of linked leaves that stand at one position. -/
abbrev LinkedRow := List (FieldQuery × String)

namespace LinkedRow

/-- The rows of linked leaves.  A path with fewer values than the longest one
has empty texts past its end. -/
def ofFields (fields : List FieldQuery) (values : FieldValues) : List LinkedRow :=
  let columns := fields.map fun field => (field, values.get field.path)
  let count := columns.foldl (fun count column => max count column.2.length) 0
  (List.range count).map fun index =>
    columns.map fun column => (column.1, (column.2[index]?).getD "")

/-- Whether all leaves hold on their values; `none` for a fault.  The first
leaf that does not hold decides. -/
def test (now : Calendar.Instant) : LinkedRow → Option Bool
  | [] => some true
  | (field, value) :: rest =>
      if field.operation.faults value then none
      else if field.operation.holds now value then test now rest
      else some false

/-- The highlights of a row. -/
def highlights (row : LinkedRow) : Highlights :=
  ⟨row.map fun cell => (cell.1.key, [cell.2])⟩

end LinkedRow

/-- The verdict of linked leaves on rows. -/
def evaluateRows (now : Calendar.Instant) (rows : List LinkedRow) : Verdict :=
  if rows.any fun row => (row.test now).isNone then
    .fault
  else
    match rows.filter fun row => row.test now == some true with
    | [] => .unmatched
    | hits => .matched (hits.foldl (fun found row => found ++ row.highlights) {})

namespace Query

mutual

/-- The verdict of a predicate on flattened values. -/
def evaluate (now : Calendar.Instant) (values : FieldValues) : Query → Verdict
  | leaf field => field.evaluate now (values.get field.path)
  | linked fields => evaluateRows now (LinkedRow.ofFields fields values)
  | conjunction children => evaluateAll now values children
  | disjunction children => evaluateAny now values children

/-- The verdict of predicates that must all match. -/
def evaluateAll (now : Calendar.Instant) (values : FieldValues) : List Query → Verdict
  | [] => .matched {}
  | child :: children => (evaluate now values child).both (evaluateAll now values children)

/-- The verdict of predicates one of which must match. -/
def evaluateAny (now : Calendar.Instant) (values : FieldValues) : List Query → Verdict
  | [] => .unmatched
  | child :: children => (evaluate now values child).either (evaluateAny now values children)

end

theorem evaluateAll_append
    (now : Calendar.Instant)
    (values : FieldValues)
    (first second : List Query) :
    evaluateAll now values (first ++ second) =
      (evaluateAll now values first).both (evaluateAll now values second) := by
  induction first with
  | nil => simp [evaluateAll]
  | cons child children hypothesis => simp [evaluateAll, hypothesis]

theorem evaluateAny_append
    (now : Calendar.Instant)
    (values : FieldValues)
    (first second : List Query) :
    evaluateAny now values (first ++ second) =
      (evaluateAny now values first).either (evaluateAny now values second) := by
  induction first with
  | nil => simp [evaluateAny]
  | cons child children hypothesis => simp [evaluateAny, hypothesis]

end Query
end WorkloadPolicy
