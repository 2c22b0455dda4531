import WorkloadPolicy.Check.Capability
import WorkloadPolicy.Policy.Document

/-!
# Checks of one field

A field check reads a demand out of a policy's constraints.  If there is one,
the field must be registered and stored, and the demand then becomes leaves on
that field together with a printer.
-/

namespace WorkloadPolicy

/-- What a policy demands of the values of one field. -/
inductive FieldDemand where
  /-- A value must match a pattern, as a whole or anywhere in it. -/
  | pattern (subject pattern : String) (anywhere : Bool)
  /-- A value must equal a text. -/
  | exact (subject expected : String)
  /-- A value must compare with a threshold. -/
  | threshold (description : String) (policy : NumericalPolicy)
  /-- A timestamp must be more than so many days old. -/
  | age (subject : String) (days : Int)
  /-- A truth value must be the given one. -/
  | flag (value : Bool) (message : String)
  /-- There must be no values. -/
  | missing (message : String)
  /-- A property of a process must match a pattern somewhere. -/
  | process (aspect pattern : String)
  /-- A container must add one of some capabilities. -/
  | addedCapabilities (names : List String)
  /-- A container must not drop one of some capabilities. -/
  | keptCapabilities (names : List String)
  /-- No entry of a map may satisfy a key and a value. -/
  | requiredEntry (subject key : String) (value : Option String)
  /-- An entry of a map must satisfy a key and a value. -/
  | disallowedEntry (subject policy key : String) (value : Option String)

/-- A check of one field. -/
structure FieldCheck where
  name : String
  label : FieldLabel
  /-- The demand that a policy's constraints make, if any. -/
  demand? : PolicyFields → Except CheckError (Option FieldDemand)

namespace FieldDemand

/-- The value of an entry as it is shown in messages. -/
def shownValue (value : Option String) : String :=
  value.getD ".*"

/-- The message that no entry of a map was as required. -/
def requiredMessage (subject key : String) (value : Option String) : String :=
  "Required " ++ subject ++ " not found (key = '" ++ key ++ "', value = '" ++
    shownValue value ++ "')"

/-- The leaves for capabilities that are not dropped. -/
def keptLeaves
    (check : String)
    (leaf : Operation → Query) : List String → Except CheckError (List Query)
  | [] => .ok []
  | name :: names => do
      let pattern ← compileWhole check (Capability.patternText [name])
      let others ← keptLeaves check leaf names
      .ok (leaf (.lacks pattern name) :: others)

/-- The pattern of a value, if there is one. -/
def compileValue (check : String) : Option String → Except CheckError (Option Pattern)
  | none => .ok none
  | some value => (compileWhole check value).map some

/-- What a demand contributes for a usable field. -/
def contribution?
    (check : String)
    (label : FieldLabel)
    (metadata : FieldMetadata)
    (demand : FieldDemand) : Except CheckError (Option Contribution) := do
  let leaf := fun operation => Query.leaf (.ofField label metadata operation)
  let told := fun template => Printer.field metadata.path template
  match demand with
  | pattern subject text anywhere =>
      let compiled ← if anywhere then compileAnywhere check text else compileWhole check text
      .ok (some ⟨leaf (.regex compiled), told (.matched subject text)⟩)
  | exact subject expected =>
      .ok (some ⟨leaf (.exact expected), told (.matched subject expected)⟩)
  | threshold description policy =>
      .ok
        (some
          ⟨leaf (.numeric policy.comparator policy.value),
            told (.threshold description policy.comparator policy.value)⟩)
  | age subject days => .ok (some ⟨leaf (.olderThanDays days), told (.age subject days)⟩)
  | flag value message =>
      .ok (some ⟨leaf (.exact (booleanText value)), told (.flag message)⟩)
  | missing message => .ok (some ⟨leaf .missing, .fixed message⟩)
  | process aspect text =>
      let compiled ← compileAnywhere check text
      .ok (some ⟨leaf (.regex compiled), told (.process aspect text)⟩)
  | addedCapabilities names =>
      let compiled ← compileWhole check (Capability.patternText names)
      .ok (some ⟨leaf (.regex compiled), told (.capability "ADD CAPABILITIES" true)⟩)
  | keptCapabilities names =>
      let leaves ← keptLeaves check leaf names
      .ok
        ((Query.any? leaves).map fun query =>
          ⟨query, told (.capability "DROP CAPABILITIES" false)⟩)
  | requiredEntry subject key value =>
      let keyPattern ← compileWhole check key
      let valuePattern ← compileValue check value
      let wrongValue :=
        valuePattern.toList.map fun pattern => leaf (.mapEntry keyPattern (some pattern) true)
      .ok
        ((Query.any? (wrongValue ++ [leaf (.mapKeyAbsent keyPattern)])).map fun query =>
          ⟨query, .fixed (requiredMessage subject key value)⟩)
  | disallowedEntry subject policy key value =>
      let keyPattern ← compileWhole check key
      let valuePattern ← compileValue check value
      .ok
        (some
          ⟨leaf (.mapEntry keyPattern valuePattern false),
            told (.mapEntry subject policy key (shownValue value))⟩)

end FieldDemand

namespace FieldCheck

/-- What a check contributes to a policy with the given constraints. -/
def contribution?
    (check : FieldCheck)
    (fields : PolicyFields)
    (registry : FieldRegistry) : Except CheckError (Option Contribution) := do
  match ← check.demand? fields with
  | none => .ok none
  | some demand =>
      let metadata ← requireField check.name registry check.label
      demand.contribution? check.name check.label metadata

/-- A check that demands that a value match a pattern. -/
def pattern
    (name : String)
    (label : FieldLabel)
    (subject : String)
    (anywhere : Bool)
    (source : PolicyFields → Option String) : FieldCheck :=
  ⟨name, label, fun fields =>
    .ok ((nonEmpty? (source fields)).map fun text => .pattern subject text anywhere)⟩

/-- A check that demands that a value equal a text. -/
def exact
    (name : String)
    (label : FieldLabel)
    (subject : String)
    (source : PolicyFields → Option String) : FieldCheck :=
  ⟨name, label, fun fields =>
    .ok ((nonEmpty? (source fields)).map fun text => .exact subject text)⟩

/-- A check that compares values with a threshold. -/
def threshold
    (name : String)
    (label : FieldLabel)
    (description : String)
    (source : PolicyFields → Option NumericalPolicy) : FieldCheck :=
  ⟨name, label, fun fields => .ok ((source fields).map (.threshold description))⟩

/-- A check of the age of a timestamp. -/
def age
    (name : String)
    (label : FieldLabel)
    (subject : String)
    (source : PolicyFields → Option Int) : FieldCheck :=
  ⟨name, label, fun fields => .ok ((source fields).map (.age subject))⟩

/-- A check of a truth value. -/
def flag
    (name : String)
    (label : FieldLabel)
    (whenTrue whenFalse : String)
    (source : PolicyFields → Option Bool) : FieldCheck :=
  ⟨name, label, fun fields =>
    .ok ((source fields).map fun value => .flag value (if value then whenTrue else whenFalse))⟩

/-- A check that there are no values; only a constraint that is true asks for
it. -/
def missing
    (name : String)
    (label : FieldLabel)
    (message : String)
    (source : PolicyFields → Option Bool) : FieldCheck :=
  ⟨name, label, fun fields =>
    .ok (if source fields == some true then some (.missing message) else none)⟩

/-- A check of a property of a process. -/
def process
    (name : String)
    (label : FieldLabel)
    (aspect : String)
    (source : PolicyFields → Option String) : FieldCheck :=
  ⟨name, label, fun fields => .ok ((nonEmpty? (source fields)).map (.process aspect))⟩

/-- A check of a list of capabilities. -/
def capabilities
    (name : String)
    (label : FieldLabel)
    (demand : List String → FieldDemand)
    (source : PolicyFields → List String) : FieldCheck :=
  ⟨name, label, fun fields => do
    let names ← Capability.reducedNames (source fields)
    .ok (if names.isEmpty then none else some (demand names))⟩

/-- A check of the entries of a map. -/
def entry
    (name : String)
    (label : FieldLabel)
    (demand : String → Option String → FieldDemand)
    (source : PolicyFields → Option KeyValuePolicy) : FieldCheck :=
  ⟨name, label, fun fields =>
    match source fields with
    | none => .ok none
    | some policy =>
        match nonEmpty? policy.key, nonEmpty? policy.value with
        | none, none => .ok none
        | none, some _ => .error (.valueWithoutKey name)
        | some key, value => .ok (some (demand key value))⟩

end FieldCheck
end WorkloadPolicy
