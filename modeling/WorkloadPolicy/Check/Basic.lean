import WorkloadPolicy.Access.Store
import WorkloadPolicy.Report.Printer

/-!
# What checks contribute

A check looks at one family of a policy's constraints.  When the policy sets
something there, the check contributes a predicate and the printer that tells
of the predicate's highlights; otherwise it contributes nothing.  A check
fails when a field it needs cannot be used or a pattern cannot be compiled.
-/

namespace WorkloadPolicy

/-- Why a check failed. -/
inductive CheckError where
  /-- A field is not registered. -/
  | unknownField (check : String) (label : FieldLabel)
  /-- A field is registered but not stored. -/
  | unstoredField (check : String) (label : FieldLabel)
  /-- A text is no pattern. -/
  | invalidPattern (check pattern : String)
  /-- An entry of a map is constrained by its value alone. -/
  | valueWithoutKey (check : String)
  /-- The fourth byte of a capability's name ends inside a character. -/
  | brokenCapability (name : String)
  /-- A listing of a store failed. -/
  | store (error : Access.StoreError)
  deriving DecidableEq, Repr

namespace CheckError

/-- The text of the error.  What is wrong with a pattern is left open. -/
def message : CheckError → String
  | unknownField check label =>
      "builder '" ++ check ++ "': field '" ++ label.text ++ "' is not in the field registry"
  | unstoredField check label =>
      "builder '" ++ check ++ "': field '" ++ label.text ++
        "' is not stored and cannot be highlighted"
  | invalidPattern check pattern =>
      "builder '" ++ check ++ "': invalid regex '" ++ pattern ++ "': "
  | valueWithoutKey check => "builder '" ++ check ++ "': a value was given without a key"
  | brokenCapability name => "the capability '" ++ name ++ "' breaks off inside a character"
  | store error => error.message

end CheckError

/-- What a check contributes to a compiled policy. -/
structure Contribution where
  query : Query
  printer : Printer

namespace Contribution

/-- The contribution with its highlights under the keys of a check, so that no
other check reads them. -/
def keyed (check : String) (contribution : Contribution) : Contribution :=
  ⟨contribution.query.keyed check, contribution.printer.keyed check⟩

end Contribution

/-- The metadata of a field that a check needs. -/
def requireField
    (check : String)
    (registry : FieldRegistry)
    (label : FieldLabel) : Except CheckError FieldMetadata :=
  match registry.require label with
  | .ok metadata => .ok metadata
  | .error .unknown => .error (.unknownField check label)
  | .error .unstored => .error (.unstoredField check label)

/-- Compile a pattern that matches anywhere in a value, whatever the case of
the letters. -/
def compileAnywhere (check pattern : String) : Except CheckError Pattern :=
  match Pattern.compile? true pattern with
  | some compiled => .ok compiled
  | none => .error (.invalidPattern check pattern)

/-- Compile a pattern that matches whole values, whatever the case of the
letters. -/
def compileWhole (check pattern : String) : Except CheckError Pattern :=
  match Pattern.compile? true (Pattern.anchored pattern) with
  | some compiled => .ok compiled
  | none => .error (.invalidPattern check pattern)

/-- A text that is set and not empty. -/
def nonEmpty? : Option String → Option String
  | some text => if text.isEmpty then none else some text
  | none => none

/-- A usable field is registered and stored. -/
theorem requireField_eq_ok_iff
    {check : String}
    {registry : FieldRegistry}
    {label : FieldLabel}
    {metadata : FieldMetadata} :
    requireField check registry label = .ok metadata ↔
      registry.lookup label = some metadata ∧ metadata.stored = true := by
  unfold requireField FieldRegistry.require
  cases registry.lookup label with
  | none => simp
  | some found =>
      by_cases stored : found.stored
      · simp only [stored, ↓reduceIte, Except.ok.injEq, Option.some.injEq]
        constructor
        · rintro rfl
          exact ⟨rfl, stored⟩
        · exact fun both => both.1
      · simp only [stored, Bool.false_eq_true, ↓reduceIte, reduceCtorEq, Option.some.injEq,
          false_iff, not_and]
        rintro rfl
        exact stored

theorem compileWhole_eq_ok_iff {check text : String} {pattern : Pattern} :
    compileWhole check text = .ok pattern ↔
      Pattern.compile? true (Pattern.anchored text) = some pattern := by
  unfold compileWhole
  cases Pattern.compile? true (Pattern.anchored text) <;> simp

theorem compileAnywhere_eq_ok_iff {check text : String} {pattern : Pattern} :
    compileAnywhere check text = .ok pattern ↔ Pattern.compile? true text = some pattern := by
  unfold compileAnywhere
  cases Pattern.compile? true text <;> simp

@[simp] theorem nonEmpty?_eq_some_iff {text : Option String} {value : String} :
    nonEmpty? text = some value ↔ text = some value ∧ value.isEmpty = false := by
  cases text with
  | none => simp [nonEmpty?]
  | some given =>
      cases empty : given.isEmpty
      · simp only [nonEmpty?, empty, Bool.false_eq_true, ↓reduceIte, Option.some.injEq]
        constructor
        · rintro rfl
          exact ⟨rfl, empty⟩
        · exact fun both => both.1
      · simp only [nonEmpty?, empty, ↓reduceIte, reduceCtorEq, Option.some.injEq, false_iff,
          not_and]
        rintro rfl
        simp [empty]

end WorkloadPolicy
