import WorkloadPolicy.Check.Scope
import WorkloadPolicy.Check.Standard
import WorkloadPolicy.Compile.Matcher
import WorkloadPolicy.Compile.Split

/-!
# Compiling policies

A policy needs a name and at least one constraint.  Its constraints go through
all checks, and a threshold for permissions through the permission check as
well, if that is enabled.  The scope is conjoined in front, and the whole is
split by kind of entity.  Any error aborts the compilation.
-/

namespace WorkloadPolicy

/-- Why a policy cannot be compiled. -/
inductive CompileError where
  | missingName
  | emptyFields (policyName : String)
  /-- There is a threshold for permissions and no store to work levels out
  from. -/
  | storesMissing (policyName : String)
  | check (error : CheckError)
  /-- No check contributed anything. -/
  | noPredicate (policyName : String)
  | mixedEntityKinds (policyName : String)
  deriving DecidableEq, Repr

namespace CompileError

/-- The text of the error. -/
def message : CompileError → String
  | missingName => "policy has no name"
  | emptyFields policyName => "policy '" ++ policyName ++ "' has no fields to check"
  | storesMissing policyName =>
      "policy '" ++ policyName ++
        "' sets a permission threshold but no RBAC stores are attached"
  | check error => error.message
  | noPredicate policyName =>
      "policy '" ++ policyName ++ "' compiled to an empty predicate"
  | mixedEntityKinds policyName =>
      "policy '" ++ policyName ++
        "': a predicate mixes deployment, image and process fields"

end CompileError

/-- Options of the compiler. -/
structure CompilerOptions where
  /-- Whether a threshold for permissions is checked. -/
  rbacEnabled : Bool := true
  deriving DecidableEq, Repr, Inhabited

/-- A compiler of policies. -/
structure Compiler where
  registry : FieldRegistry
  checks : List Check := Check.standard
  options : CompilerOptions := {}
  /-- Where access control is looked up. -/
  store : Option Access.Store := none

open Readable

namespace CompilerOptions

/-- Read options. -/
def read? [Readable Node] (node : Node) : Option CompilerOptions := do
  let record ← Record.ofNode? node
  some { rbacEnabled := ← record.withDefault "rbac_enabled" true boolean? }

/-- The JSON form of options. -/
def toJson (options : CompilerOptions) : Json :=
  .object [("rbac_enabled", .boolean options.rbacEnabled)]

end CompilerOptions

/-- The constraints of a policy that may be compiled. -/
def Policy.constraints (policy : Policy) : Except CompileError PolicyFields :=
  if (Text.trim policy.name).isEmpty then
    .error .missingName
  else
    match policy.fields with
    | none => .error (.emptyFields policy.name)
    | some fields => if fields.isEmpty then .error (.emptyFields policy.name) else .ok fields

namespace Compiler

/-- The check that a threshold for permissions asks for, if any. -/
def permissionChecks
    (compiler : Compiler)
    (policyName : String)
    (fields : PolicyFields) : Except CompileError (List Check) :=
  if fields.permission.isNone || !compiler.options.rbacEnabled then
    .ok []
  else
    match compiler.store with
    | some store => .ok [.leaf (.permission store)]
    | none => .error (.storesMissing policyName)

/-- What all checks together contribute to a policy. -/
def contribution
    (compiler : Compiler)
    (policyName : String)
    (fields : PolicyFields) : Except CompileError Contribution := do
  let added ← compiler.permissionChecks policyName fields
  let checks := Check.all (compiler.checks ++ added)
  match ← (checks.contribution? fields compiler.registry).mapError .check with
  | some contribution => .ok contribution
  | none => .error (.noPredicate policyName)

/-- The predicate of a policy: its scope first, then its constraints. -/
def gated (scope : Option Query) (query : Query) : Query :=
  match scope with
  | some scope => .conjunction [scope, query]
  | none => query

/-- What a policy demands as a whole: its constraints behind its scope. -/
def gatedContribution
    (compiler : Compiler)
    (policy : Policy) : Except CompileError Contribution := do
  let fields ← policy.constraints
  let contribution ← compiler.contribution policy.name fields
  let scope ← (Scope.listQuery? compiler.registry policy.scope).mapError .check
  .ok { contribution with query := gated scope contribution.query }

/-- The matcher of predicates by kind, with the printer of all of them. -/
def matcher (policyName : String) (queries : KindQueries) (printer : Printer) : Matcher :=
  { policyName := policyName
    deployment := Query.all? queries.deployment
    image := Query.all? queries.image
    process := Query.all? queries.process
    printer := printer }

/-- Compile a policy. -/
def compile (compiler : Compiler) (policy : Policy) : Except CompileError Matcher := do
  let contribution ← compiler.gatedContribution policy
  match contribution.query.split? with
  | none => .error (.mixedEntityKinds policy.name)
  | some queries => .ok (matcher policy.name queries contribution.printer)

end Compiler
end WorkloadPolicy
