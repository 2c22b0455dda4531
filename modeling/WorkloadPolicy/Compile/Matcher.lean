import WorkloadPolicy.Predicate.Evaluation
import WorkloadPolicy.Report.Printer

/-!
# Matchers

A matcher is a compiled policy.  It holds at most one predicate for each kind
of entity.  Every predicate must be satisfied: that on processes by the process
event, that on deployments by the deployment, and that on images by at least
one image.  The highlights of all that satisfied them go to the printer.

How a predicate is evaluated is left open, so that the outcome can be studied
for any evaluation.
-/

namespace WorkloadPolicy

/-- A compiled policy. -/
structure Matcher where
  policyName : String
  deployment : Option Query
  image : Option Query
  process : Option Query
  printer : Printer

/-- What a policy is run on. -/
structure Subjects where
  deployment : Option Deployment := none
  images : List Image := []
  process : Option ProcessIndicator := none

/-- Why a run of a policy failed. -/
inductive MatchError where
  /-- The policy matched, and nothing can be told about it. -/
  | silent (policyName : String)
  /-- The policy asks for an age that no timestamp can be compared with. -/
  | incomparableAge (policyName : String)
  deriving DecidableEq, Repr

namespace MatchError

/-- The text of the error. -/
def message : MatchError → String
  | silent policyName =>
      "policy '" ++ policyName ++ "' matched but produced no violation messages"
  | incomparableAge policyName =>
      "policy '" ++ policyName ++ "' asks for an age that cannot be compared"

end MatchError

/-- A way to evaluate predicates on flattened entities. -/
abbrev Evaluator := FieldValues → Query → Verdict

namespace Matcher

/-- The verdict of a predicate that an entity must satisfy. -/
def entityVerdict
    (evaluate : Evaluator)
    (query : Option Query)
    (values : Option FieldValues) : Verdict :=
  match query, values with
  | none, _ => .matched {}
  | some _, none => .unmatched
  | some query, some values => evaluate values query

/-- The verdict of a predicate that one of some entities must satisfy. -/
def imagesVerdict
    (evaluate : Evaluator)
    (query : Option Query)
    (images : List FieldValues) : Verdict :=
  match query with
  | none => .matched {}
  | some query =>
      images.foldr (fun values verdict => (evaluate values query).either verdict) .unmatched

/-- The verdict of all predicates. -/
def verdict
    (evaluate : Evaluator)
    (matcher : Matcher)
    (subjects : Subjects) : Verdict :=
  (entityVerdict evaluate matcher.process
      (subjects.process.map ProcessIndicator.fieldValues)).both
    ((entityVerdict evaluate matcher.deployment
        (subjects.deployment.map Deployment.fieldValues)).both
      (imagesVerdict evaluate matcher.image (subjects.images.map Image.fieldValues)))

/-- What is reported when all predicates are satisfied. -/
def report
    (matcher : Matcher)
    (subjects : Subjects)
    (highlights : Highlights) : Violations :=
  { alerts := matcher.printer.alerts highlights
    process := subjects.process.map ProcessViolation.ofProcess }

/-- Run a policy with a way to evaluate predicates.  The empty report says that
it did not match. -/
def runWith
    (evaluate : Evaluator)
    (matcher : Matcher)
    (subjects : Subjects) : Except MatchError Violations :=
  if matcher.deployment.isNone && matcher.image.isNone && matcher.process.isNone then
    .ok {}
  else
    match matcher.verdict evaluate subjects with
    | .unmatched => .ok {}
    | .fault => .error (.incomparableAge matcher.policyName)
    | .matched highlights =>
        let violations := matcher.report subjects highlights
        if violations.isEmpty then
          .error (.silent matcher.policyName)
        else
          .ok violations

/-- Run a policy at a moment. -/
def run
    (now : Calendar.Instant)
    (matcher : Matcher)
    (subjects : Subjects) : Except MatchError Violations :=
  matcher.runWith (Query.evaluate now) subjects

end Matcher

/-- The evaluation by which everything matches and nothing is highlighted. -/
def silentEvaluator : Evaluator := fun _ _ => .matched {}

end WorkloadPolicy
