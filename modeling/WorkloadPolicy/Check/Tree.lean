import WorkloadPolicy.Check.Field
import WorkloadPolicy.Check.Linked
import WorkloadPolicy.Check.Permission

/-!
# Trees of checks

Checks are combined into trees.  The contributions of the children of a node
are conjoined or disjoined, and their printers speak in order.  Children that
contribute nothing are left out, and the first child that fails decides.  Each
leaf records its highlights under keys of its own.
-/

namespace WorkloadPolicy

/-- A check that is not combined from others. -/
inductive LeafCheck where
  | field (check : FieldCheck)
  | linked (check : LinkedCheck)
  | permission (store : Access.Store)

/-- A tree of checks. -/
inductive Check where
  | leaf (check : LeafCheck)
  | all (checks : List Check)
  | any (checks : List Check)

namespace LeafCheck

/-- The name of a check in error messages and highlight keys. -/
def name : LeafCheck → String
  | field check => check.name
  | linked check => check.name
  | permission _ => permissionCheckName

/-- What a check contributes under its own paths. -/
def plainContribution?
    (check : LeafCheck)
    (fields : PolicyFields)
    (registry : FieldRegistry) : Except CheckError (Option Contribution) :=
  match check with
  | field check => check.contribution? fields registry
  | linked check => check.contribution? fields registry
  | permission store => permissionContribution? store fields registry

/-- What a check contributes under its own keys. -/
def contribution?
    (check : LeafCheck)
    (fields : PolicyFields)
    (registry : FieldRegistry) : Except CheckError (Option Contribution) :=
  (check.plainContribution? fields registry).map (Option.map (·.keyed check.name))

end LeafCheck

namespace Contribution

/-- Some contributions, one for all of them and none for none. -/
def combined?
    (combine? : List Query → Option Query)
    (contributions : List Contribution) : Option Contribution := do
  let query ← combine? (contributions.map (·.query))
  let printer ← Printer.concat? (contributions.map (·.printer))
  some ⟨query, printer⟩

end Contribution

namespace Check

/-- To prove something of all trees, prove it of every node whose children have
it. -/
@[elab_as_elim, induction_eliminator]
theorem induction
    {motive : Check → Prop}
    (leaf : ∀ check, motive (leaf check))
    (all : ∀ checks, (∀ check ∈ checks, motive check) → motive (all checks))
    (any : ∀ checks, (∀ check ∈ checks, motive check) → motive (any checks)) :
    ∀ check, motive check
  | .leaf check => leaf check
  | .all checks => all checks fun check _ => induction leaf all any check
  | .any checks => any checks fun check _ => induction leaf all any check

/-- The name of a check. -/
def name : Check → String
  | leaf check => check.name
  | all _ => "conjunction"
  | any _ => "disjunction"

mutual

/-- What a tree of checks contributes to a policy with the given
constraints. -/
def contribution?
    (fields : PolicyFields)
    (registry : FieldRegistry) : Check → Except CheckError (Option Contribution)
  | leaf check => check.contribution? fields registry
  | all checks => do
      .ok (Contribution.combined? Query.all? (← contributions fields registry checks))
  | any checks => do
      .ok (Contribution.combined? Query.any? (← contributions fields registry checks))

/-- What several trees of checks contribute, in order. -/
def contributions
    (fields : PolicyFields)
    (registry : FieldRegistry) : List Check → Except CheckError (List Contribution)
  | [] => .ok []
  | check :: checks => do
      let first ← contribution? fields registry check
      let others ← contributions fields registry checks
      .ok (first.toList ++ others)

end

mutual

/-- The leaves of a tree in order. -/
def leaves : Check → List LeafCheck
  | leaf check => [check]
  | all checks => leavesOfAll checks
  | any checks => leavesOfAll checks

/-- The leaves of several trees. -/
def leavesOfAll : List Check → List LeafCheck
  | [] => []
  | check :: checks => leaves check ++ leavesOfAll checks

end

end Check
end WorkloadPolicy
