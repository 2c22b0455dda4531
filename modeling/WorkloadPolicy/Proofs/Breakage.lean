import Mathlib.Algebra.GroupWithZero.Nat
import WorkloadPolicy.Proofs.Capabilities
import WorkloadPolicy.Proofs.Failure

/-!
# Names that break off

The name of a capability is cut after its fourth byte without a look at where its characters
end.  A name with a longer character there cannot be cut.  Nothing else that a policy holds
is cut at a byte, whatever checks it is compiled with: compiling a policy breaks off exactly
if, before any other failure, a check comes to such a name.
-/

namespace WorkloadPolicy

open Outcome CheckError

/-! ## Bytes of characters -/

namespace Text

/-- The number of bytes that characters take. -/
def byteCount (characters : List Char) : Nat :=
  (characters.map Char.utf8Size).sum

@[simp] theorem byteCount_nil : byteCount [] = 0 := rfl

@[simp] theorem byteCount_cons (character : Char) (rest : List Char) :
    byteCount (character :: rest) = character.utf8Size + byteCount rest :=
  List.sum_cons

@[simp] theorem byteCount_append (front rest : List Char) :
    byteCount (front ++ rest) = byteCount front + byteCount rest := by
  simp [byteCount]

theorem byteCount_toList (text : String) : byteCount text.toList = text.utf8ByteSize := by
  have ofList (characters : List Char) :
      (String.ofList characters).utf8ByteSize = byteCount characters := by
    induction characters with
    | nil => rfl
    | cons character rest hypothesis =>
        rw [String.ofList_cons, String.utf8ByteSize_append, String.utf8ByteSize_singleton,
          hypothesis, byteCount_cons]
  rw [← ofList, String.ofList_toList]

/-- A character has begun before a number of bytes and ends after it. -/
def Straddles (characters : List Char) (bytes : Nat) : Prop :=
  ∃ front character rest, characters = front ++ character :: rest ∧
    byteCount front < bytes ∧ bytes < byteCount front + character.utf8Size

theorem not_straddles_zero (characters : List Char) : ¬ Straddles characters 0 := by
  rintro ⟨front, character, rest, -, begun, -⟩
  exact Nat.not_lt_zero _ begun

theorem Straddles.lt_byteCount
    {characters : List Char}
    {bytes : Nat}
    (straddles : Straddles characters bytes) :
    bytes < byteCount characters := by
  obtain ⟨front, character, rest, rfl, -, unfinished⟩ := straddles
  rw [byteCount_append, byteCount_cons]
  omega

/-- The first character straddles a cut, or one of the others does. -/
theorem straddles_cons_iff {character : Char} {rest : List Char} {bytes : Nat} :
    Straddles (character :: rest) bytes ↔
      0 < bytes ∧ bytes < character.utf8Size ∨ Straddles rest (bytes - character.utf8Size) := by
  constructor
  · rintro ⟨front, cut, later, equal, begun, unfinished⟩
    cases front with
    | nil =>
        cases equal
        simp only [byteCount_nil, Nat.zero_add] at begun unfinished
        exact .inl ⟨begun, unfinished⟩
    | cons first front =>
        cases equal
        rw [byteCount_cons] at begun unfinished
        exact .inr ⟨front, cut, later, rfl, by omega, by omega⟩
  · rintro (⟨begun, unfinished⟩ | ⟨front, cut, later, rfl, begun, unfinished⟩)
    · exact ⟨[], character, rest, rfl, begun, by simpa using unfinished⟩
    · refine ⟨character :: front, cut, later, rfl, ?_, ?_⟩
      · rw [byteCount_cons]
        omega
      · rw [byteCount_cons]
        omega

end Text

open Text

/-! ## Names -/

namespace Capability

/-- Characters cannot be cut if they are too few or one of them straddles the cut. -/
theorem cutBytes?_eq_none_iff {bytes : Nat} {characters : List Char} :
    cutBytes? bytes characters = none ↔
      byteCount characters < bytes ∨ Straddles characters bytes := by
  fun_induction cutBytes? bytes characters with
  | case1 characters => simp [not_straddles_zero]
  | case2 bytes => simp
  | case3 bytes character rest fits hypothesis =>
      rw [Option.map_eq_none_iff, hypothesis, straddles_cons_iff, byteCount_cons]
      have whole : ¬ (0 < bytes + 1 ∧ bytes + 1 < character.utf8Size) := by omega
      simp only [whole, false_or]
      exact or_congr_left (by omega)
  | case4 bytes character rest long =>
      simp only [true_iff]
      exact .inr (straddles_cons_iff.2 (.inl ⟨by omega, by omega⟩))

/-- The fourth byte of a name without the blanks around it is inside a character. -/
def BreaksOff (name : String) : Prop :=
  Straddles (Text.trim name).toList 4

theorem reduced?_eq_none_iff {name : String} : reduced? name = none ↔ BreaksOff name := by
  simp only [reduced?, BreaksOff, ← byteCount_toList]
  split
  · rename_i short
    simp only [reduceCtorEq, false_iff]
    intro straddles
    have long := straddles.lt_byteCount
    omega
  · rename_i long
    rw [Option.map_eq_none_iff, cutBytes?_eq_none_iff, or_iff_right long]

/-- A name breaks off, or it is reduced to its bare form. -/
theorem reduced?_cases (name : String) :
    match reduced? name with
    | some reduced => ¬ BreaksOff name ∧ reduced = bare name
    | none => BreaksOff name := by
  cases found : reduced? name with
  | none => exact reduced?_eq_none_iff.1 found
  | some reduced =>
      refine ⟨fun breaksOff => ?_, eq_bare_of_reduced? found⟩
      rw [reduced?_eq_none_iff.2 breaksOff] at found
      cases found

/-- A name is the first of a list that breaks off. -/
def FirstBroken (names : List String) (name : String) : Prop :=
  ∃ earlier later, names = earlier ++ name :: later ∧
    (∀ other ∈ earlier, ¬ BreaksOff other) ∧ BreaksOff name

theorem not_firstBroken_nil (name : String) : ¬ FirstBroken [] name := by
  rintro ⟨earlier, later, equal, -⟩
  simp at equal

theorem firstBroken_cons_iff {first name : String} {names : List String} :
    FirstBroken (first :: names) name ↔
      BreaksOff first ∧ first = name ∨ ¬ BreaksOff first ∧ FirstBroken names name := by
  constructor
  · rintro ⟨earlier, later, equal, sound, breaksOff⟩
    cases earlier with
    | nil =>
        cases equal
        exact .inl ⟨breaksOff, rfl⟩
    | cons other earlier =>
        cases equal
        obtain ⟨firstSound, othersSound⟩ := List.forall_mem_cons.1 sound
        exact .inr ⟨firstSound, earlier, later, rfl, othersSound, breaksOff⟩
  · rintro (⟨breaksOff, rfl⟩ | ⟨firstSound, earlier, later, rfl, sound, breaksOff⟩)
    · exact ⟨[], names, rfl, by simp, breaksOff⟩
    · exact ⟨first :: earlier, later, rfl, List.forall_mem_cons.2 ⟨firstSound, sound⟩, breaksOff⟩

/-- A list of names fails to be reduced over the first of them that breaks off. -/
theorem reducedNames_eq_error_iff {names : List String} {error : CheckError} :
    reducedNames names = .error error ↔
      ∃ name, FirstBroken names name ∧ error = .brokenCapability name := by
  induction names with
  | nil => simp [reducedNames, not_firstBroken_nil]
  | cons first names hypothesis =>
      simp only [firstBroken_cons_iff]
      unfold reducedNames
      cases found : reduced? first with
      | none =>
          have breaksOff := reduced?_eq_none_iff.1 found
          simp only [breaksOff, true_and, not_true_eq_false, false_and, or_false, exists_eq_left',
            Except.error.injEq, eq_comm]
      | some reduced =>
          have sound : ¬ BreaksOff first := by
            rw [← reduced?_eq_none_iff, found]
            simp
          simp only [sound, false_and, not_false_eq_true, true_and, false_or, ← hypothesis,
            bind_eq_error_iff, reduceCtorEq, and_false, exists_false, or_false]

end Capability

open Capability

/-! ## Checks -/

theorem CheckError.IsOrdinary.ne_brokenCapability
    {error : CheckError}
    (ordinary : error.IsOrdinary)
    (name : String) :
    error ≠ .brokenCapability name := by
  rintro rfl
  cases ordinary

/-- The families from which a list of checks of one field is taken, each with the names of
capabilities that it reduces. -/
inductive FieldCheck.Reduces : FieldCheck → (PolicyFields → List String) → Prop
  | pattern name label subject anywhere source :
      Reduces (.pattern name label subject anywhere source) fun _ => []
  | exact name label subject source : Reduces (.exact name label subject source) fun _ => []
  | threshold name label description source :
      Reduces (.threshold name label description source) fun _ => []
  | age name label subject source : Reduces (.age name label subject source) fun _ => []
  | flag name label whenTrue whenFalse source :
      Reduces (.flag name label whenTrue whenFalse source) fun _ => []
  | missing name label message source :
      Reduces (.missing name label message source) fun _ => []
  | process name label aspect source :
      Reduces (.process name label aspect source) fun _ => []
  | requiredEntry name label subject source :
      Reduces (.entry name label (.requiredEntry subject) source) fun _ => []
  | disallowedEntry name label subject policy source :
      Reduces (.entry name label (.disallowedEntry subject policy) source) fun _ => []
  | dropped :
      Reduces (.capabilities "drop capabilities" .dropCapabilities .keptCapabilities
        fun fields => fields.dropCapabilities) fun fields => fields.dropCapabilities
  | added :
      Reduces (.capabilities "add capabilities" .addCapabilities .addedCapabilities
        fun fields => fields.addCapabilities) fun fields => fields.addCapabilities

/-- The families from which a list of checks is taken, each with the names of capabilities that
it reduces. -/
inductive LeafCheck.Reduces : LeafCheck → (PolicyFields → List String) → Prop
  | field {check : FieldCheck} {source : PolicyFields → List String}
      (reduces : check.Reduces source) : Reduces (.field check) source
  | linked check : Reduces (.linked check) fun _ => []
  | permission store : Reduces (.permission store) fun _ => []

/-- Every standard check is of some family. -/
theorem LeafCheck.exists_reduces_of_standard :
    ∀ leaf ∈ Check.leavesOfAll Check.standard, ∃ source, leaf.Reduces source := by
  simp only [Check.standard, Check.imageName, Check.component, Check.port, Check.process,
    Check.resources, Check.ofField, Check.ofLinked, Check.leavesOfAll, Check.leaves,
    List.cons_append, List.nil_append, List.append_nil, List.forall_mem_cons]
  and_intros
  all_goals first
    | exact ⟨_, .field (by constructor)⟩
    | exact ⟨_, .linked _⟩
    | simp

section Leaves

variable {fields : PolicyFields} {registry : FieldRegistry} {name : String}

/-- What fails in an ordinary way only does not break off. -/
theorem eq_brokenCapability_iff_of_ordinary
    {run : Except CheckError (Option Contribution)}
    (ordinary : FailsWith IsOrdinary run) :
    run = .error (.brokenCapability name) ↔ FirstBroken [] name :=
  iff_of_false
    (fun failed => (ordinary.of_eq_error _ failed).ne_brokenCapability name rfl)
    (not_firstBroken_nil name)

/-- A check of capabilities breaks off over the first name of its list that does. -/
theorem FieldCheck.capabilities_eq_brokenCapability_iff
    {check : String}
    {label : FieldLabel}
    {demand : List String → FieldDemand}
    {source : PolicyFields → List String} :
    (capabilities check label demand source).contribution? fields registry =
        .error (.brokenCapability name) ↔
      FirstBroken (source fields) name := by
  constructor
  · intro failed
    rcases bind_eq_error_iff.1 failed with demanded | ⟨demand, -, required⟩
    · rcases bind_eq_error_iff.1 demanded with reduced | ⟨names, -, chosen⟩
      · obtain ⟨broken, first, equal⟩ := reducedNames_eq_error_iff.1 reduced
        cases equal
        exact first
      · cases chosen
    · cases demand with
      | none => cases required
      | some demand =>
          have ordinary : FailsWith IsOrdinary
              (requireField check registry label >>= demand.contribution? check label) :=
            .bind (failsWith_requireField ..) fun metadata =>
              FieldDemand.failsWith_contribution? ..
          exact absurd rfl ((ordinary.of_eq_error _ required).ne_brokenCapability name)
  · intro first
    have reduced := reducedNames_eq_error_iff.2 ⟨name, first, rfl⟩
    exact bind_eq_error_iff.2 (.inl (bind_eq_error_iff.2 (.inl reduced)))

/-- A check of one field breaks off over the first name that it reduces and that does. -/
theorem FieldCheck.eq_brokenCapability_iff
    {check : FieldCheck}
    {source : PolicyFields → List String}
    (reduces : check.Reduces source) :
    check.contribution? fields registry = .error (.brokenCapability name) ↔
      FirstBroken (source fields) name := by
  have plain
      {check : FieldCheck}
      (demanded : FailsWith IsOrdinary (check.demand? fields)) :
      check.contribution? fields registry = .error (.brokenCapability name) ↔
        FirstBroken [] name :=
    eq_brokenCapability_iff_of_ordinary
      (failsWith_contribution? (fun _ => id) demanded registry)
  cases reduces with
  | pattern | exact | threshold | age | flag | missing | process => exact plain (.ok _)
  | requiredEntry | disallowedEntry => exact plain (failsWith_entry ..)
  | dropped | added => exact capabilities_eq_brokenCapability_iff

/-- A check breaks off over the first name that it reduces and that does. -/
theorem LeafCheck.eq_brokenCapability_iff
    {leaf : LeafCheck}
    {source : PolicyFields → List String}
    (reduces : leaf.Reduces source) :
    leaf.contribution? fields registry = .error (.brokenCapability name) ↔
      FirstBroken (source fields) name := by
  rw [contribution?, ← failure?_eq_some_iff, failure?_map, failure?_eq_some_iff]
  cases reduces with
  | field reduces => exact FieldCheck.eq_brokenCapability_iff reduces
  | linked check =>
      refine eq_brokenCapability_iff_of_ordinary ?_
      exact check.failsWith_contribution? fields registry
  | permission store =>
      refine iff_of_false (fun failed => ?_) (not_firstBroken_nil name)
      have fails := failsWith_permissionContribution? store fields registry
      rcases fails.of_eq_error _ failed with ordinary | ⟨cause, equal⟩
      · exact ordinary.ne_brokenCapability name rfl
      · cases equal

end Leaves

/-! ## Policies -/

namespace CompileError

/-- An error that is reported: over a name that breaks off there is no report. -/
def IsReported : CompileError → Prop
  | .check (.brokenCapability _) => False
  | _ => True

theorem not_isReported_iff {error : CompileError} :
    ¬ error.IsReported ↔ ∃ name, error = .check (.brokenCapability name) := by
  constructor
  · intro unreported
    unfold IsReported at unreported
    split at unreported
    · exact ⟨_, rfl⟩
    · simp at unreported
  · rintro ⟨name, rfl⟩
    exact id

end CompileError

namespace Compiler

variable {compiler : Compiler}

/-- While a policy is compiled, one of the checks comes to a name that breaks off, and no
check before it fails. -/
def BreaksOffOver (compiler : Compiler) (policy : Policy) (name : String) : Prop :=
  ∃ fields added before leaf after source,
    policy.constraints = .ok fields ∧
    compiler.permissionChecks policy.name fields = .ok added ∧
    Check.leavesOfAll compiler.checks = before ++ leaf :: after ∧
    (∀ earlier ∈ before, ∃ outcome,
      earlier.contribution? fields compiler.registry = .ok outcome) ∧
    leaf.Reduces source ∧ FirstBroken (source fields) name

/-- A policy breaks off over a name that some check reduces, and never over its scope. -/
theorem compile_eq_brokenCapability_iff
    (families : ∀ leaf ∈ Check.leavesOfAll compiler.checks, ∃ source, leaf.Reduces source)
    {policy : Policy}
    {name : String} :
    compiler.compile policy = .error (.check (.brokenCapability name)) ↔
      compiler.BreaksOffOver policy name := by
  rw [compile_eq_error_check_iff]
  constructor
  · rintro ⟨fields, constrained, inChecks | ⟨-, -, inScope⟩⟩
    · obtain ⟨added, permitted, first⟩ := contribution_eq_error_check_iff.1 inChecks
      rw [leaves_tree, Check.firstFailure?_append, Option.or_eq_some_iff] at first
      rcases first with inOwn | ⟨-, inAdded⟩
      · obtain ⟨before, leaf, after, split, broken, sound⟩ := List.findSome?_eq_some_iff.1 inOwn
        obtain ⟨source, reduces⟩ := families leaf (by simp [split])
        refine ⟨fields, added, before, leaf, after, source, constrained, permitted, split,
          fun earlier member => failure?_eq_none_iff.1 (sound earlier member), reduces, ?_⟩
        exact (LeafCheck.eq_brokenCapability_iff reduces).1 (failure?_eq_some_iff.1 broken)
      · obtain ⟨leaf, member, broken⟩ := List.exists_of_findSome?_eq_some inAdded
        obtain ⟨store, rfl⟩ := exists_store_of_mem_permissionChecks permitted member
        have first := (LeafCheck.eq_brokenCapability_iff (.permission store)).1
          (failure?_eq_some_iff.1 broken)
        exact absurd first (not_firstBroken_nil name)
    · have ordinary := (Scope.failsWith_listQuery? _).of_eq_error _ inScope
      exact absurd rfl (ordinary.ne_brokenCapability name)
  · rintro ⟨fields, added, before, leaf, after, source, constrained, permitted, split, sound,
      reduces, first⟩
    refine ⟨fields, constrained, .inl (contribution_eq_error_check_iff.2 ⟨added, permitted, ?_⟩)⟩
    rw [leaves_tree, Check.firstFailure?_append, Option.or_eq_some_iff]
    refine .inl (List.findSome?_eq_some_iff.2 ⟨before, leaf, after, split, ?_, ?_⟩)
    · exact failure?_eq_some_iff.2 ((LeafCheck.eq_brokenCapability_iff reduces).2 first)
    · exact fun earlier member => failure?_eq_none_iff.2 (sound earlier member)

/-- A name is reduced to its bare form unless its fourth byte is inside a character, and
compiling fails without a report exactly if a check comes to such a name before any check
fails, whatever the policy, the registry, the checks, the options and the store. -/
theorem compile_reports_unless_name_breaksOff
    (families : ∀ leaf ∈ Check.leavesOfAll compiler.checks, ∃ source, leaf.Reduces source) :
    (∀ name,
      match Capability.reduced? name with
      | some reduced => ¬ BreaksOff name ∧ reduced = bare name
      | none => BreaksOff name) ∧
    ∀ policy error,
      compiler.compile policy = .error error ∧ ¬ error.IsReported ↔
        ∃ name, error = .check (.brokenCapability name) ∧ compiler.BreaksOffOver policy name := by
  refine ⟨reduced?_cases, fun policy error => ?_⟩
  rw [CompileError.not_isReported_iff]
  constructor
  · rintro ⟨failed, name, rfl⟩
    exact ⟨name, rfl, (compile_eq_brokenCapability_iff families).1 failed⟩
  · rintro ⟨name, rfl, breaksOff⟩
    exact ⟨(compile_eq_brokenCapability_iff families).2 breaksOff, name, rfl⟩

end Compiler

/-! ### A policy that breaks off -/

/-- A policy whose one capability has its fourth byte inside a character. -/
def Policy.accented : Policy where
  name := "p"
  fields := some { addCapabilities := ["abcé"] }

namespace Compiler

theorem compile_accented :
    ({ registry := .standard } : Compiler).compile .accented =
      .error (.check (.brokenCapability "abcé")) :=
  failure?_eq_some_iff.1 (by decide +kernel)

/-- Nothing is reported of a name whose fourth byte is inside a character. -/
theorem compile_reports_unless_name_breaksOff_accented :
    (({ registry := .standard } : Compiler).compile .accented =
      .error (.check (.brokenCapability "abcé"))) ∧
    ({ registry := .standard } : Compiler).BreaksOffOver .accented "abcé" := by
  obtain ⟨-, unreported_iff⟩ :=
    @compile_reports_unless_name_breaksOff { registry := .standard }
      LeafCheck.exists_reduces_of_standard
  obtain ⟨name, equal, breaksOff⟩ := (unreported_iff _ _).1 ⟨compile_accented, id⟩
  cases equal
  exact ⟨compile_accented, breaksOff⟩

/-- Not every policy is compiled or its error reported, nor is every name reduced. -/
theorem not_compile_reports :
    (∃ error, ({ registry := .standard } : Compiler).compile .accented = .error error ∧
      ¬ error.IsReported) ∧
    Capability.reduced? "abcé" = none :=
  ⟨⟨_, compile_accented, id⟩, by decide +kernel⟩

end Compiler
end WorkloadPolicy
