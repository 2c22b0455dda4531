import WorkloadPolicy.Proofs.Compilation

/-!
# How policies fail

A check may fail over a field that it cannot use, a text that is no pattern or an
entry of a map that has a value and no key.  Two failures are told apart from
these: that of a capability whose name cannot be cut, and that of a listing of a
store.  No scope and no standard check fails in the second way, and in the first
only over the names that the policy lists.
-/

namespace WorkloadPolicy

open Outcome

namespace CheckError

/-- An error about a field, a pattern or an entry of a map. -/
inductive IsOrdinary : CheckError → Prop
  | unknownField (check : String) (label : FieldLabel) : IsOrdinary (.unknownField check label)
  | unstoredField (check : String) (label : FieldLabel) : IsOrdinary (.unstoredField check label)
  | invalidPattern (check pattern : String) : IsOrdinary (.invalidPattern check pattern)
  | valueWithoutKey (check : String) : IsOrdinary (.valueWithoutKey check)

/-- An error of a check of a policy's constraints: an ordinary one, or one about a
capability among them. -/
def IsOver (fields : PolicyFields) (error : CheckError) : Prop :=
  error.IsOrdinary ∨
    ∃ name ∈ fields.dropCapabilities ++ fields.addCapabilities,
      Capability.reduced? name = none ∧ error = .brokenCapability name

theorem IsOver.ne_store
    {fields : PolicyFields}
    {error : CheckError}
    (isOver : error.IsOver fields)
    (cause : Access.StoreError) :
    error ≠ .store cause := by
  rintro rfl
  rcases isOver with ordinary | ⟨name, -, -, equal⟩
  · cases ordinary
  · cases equal

end CheckError

open CheckError

/-! ## Fields and patterns -/

theorem failsWith_requireField
    (check : String)
    (registry : FieldRegistry)
    (label : FieldLabel) :
    FailsWith IsOrdinary (requireField check registry label) := by
  unfold requireField
  split
  · exact .ok _
  · exact .error (.unknownField check label)
  · exact .error (.unstoredField check label)

theorem failsWith_compileAnywhere (check pattern : String) :
    FailsWith IsOrdinary (compileAnywhere check pattern) := by
  unfold compileAnywhere
  split
  · exact .ok _
  · exact .error (.invalidPattern check pattern)

theorem failsWith_compileWhole (check pattern : String) :
    FailsWith IsOrdinary (compileWhole check pattern) := by
  unfold compileWhole
  split
  · exact .ok _
  · exact .error (.invalidPattern check pattern)

/-! ## Checks -/

namespace FieldDemand

theorem failsWith_keptLeaves
    (check : String)
    (leaf : Operation → Query)
    (names : List String) :
    FailsWith IsOrdinary (keptLeaves check leaf names) := by
  induction names with
  | nil => exact .ok _
  | cons name names hypothesis =>
      refine .bind (failsWith_compileWhole ..) fun pattern => ?_
      exact .bind hypothesis fun others => .ok _

theorem failsWith_compileValue (check : String) (value : Option String) :
    FailsWith IsOrdinary (compileValue check value) := by
  cases value with
  | none => exact .ok _
  | some text => exact (failsWith_compileWhole check text).map some

/-- A demand on a usable field fails over its patterns only. -/
theorem failsWith_contribution?
    (check : String)
    (label : FieldLabel)
    (metadata : FieldMetadata)
    (demand : FieldDemand) :
    FailsWith IsOrdinary (demand.contribution? check label metadata) := by
  cases demand with
  | pattern subject text anywhere =>
      cases anywhere with
      | true => exact .bind (failsWith_compileAnywhere ..) fun compiled => .ok _
      | false => exact .bind (failsWith_compileWhole ..) fun compiled => .ok _
  | exact subject expected => exact .ok _
  | threshold description policy => exact .ok _
  | age subject days => exact .ok _
  | flag value message => exact .ok _
  | missing message => exact .ok _
  | process aspect text => exact .bind (failsWith_compileAnywhere ..) fun compiled => .ok _
  | addedCapabilities names => exact .bind (failsWith_compileWhole ..) fun compiled => .ok _
  | keptCapabilities names => exact .bind (failsWith_keptLeaves ..) fun leaves => .ok _
  | requiredEntry subject key value =>
      refine .bind (failsWith_compileWhole ..) fun keyPattern => ?_
      exact .bind (failsWith_compileValue ..) fun valuePattern => .ok _
  | disallowedEntry subject policy key value =>
      refine .bind (failsWith_compileWhole ..) fun keyPattern => ?_
      exact .bind (failsWith_compileValue ..) fun valuePattern => .ok _

end FieldDemand

/-- A check of one field fails over its demand or in an ordinary way. -/
theorem FieldCheck.failsWith_contribution?
    {property : CheckError → Prop}
    (ordinary : ∀ error, IsOrdinary error → property error)
    {check : FieldCheck}
    {fields : PolicyFields}
    (demanded : FailsWith property (check.demand? fields))
    (registry : FieldRegistry) :
    FailsWith property (check.contribution? fields registry) := by
  refine .bind demanded fun demand => ?_
  cases demand with
  | none => exact .ok _
  | some demand =>
      refine .mono ?_ ordinary
      refine .bind (failsWith_requireField ..) fun metadata => ?_
      exact FieldDemand.failsWith_contribution? ..

theorem ColumnDemand.failsWith_operation (check : String) (demand : ColumnDemand) :
    FailsWith IsOrdinary (demand.operation check) := by
  cases demand with
  | any => exact .ok _
  | exact expected => exact .ok _
  | numeric policy => exact .ok _
  | pattern text anywhere =>
      cases anywhere with
      | true => exact (failsWith_compileAnywhere check text).map Operation.regex
      | false => exact (failsWith_compileWhole check text).map Operation.regex

theorem LinkedDemand.failsWith_contribution
    (check : String)
    (registry : FieldRegistry)
    (demand : LinkedDemand) :
    FailsWith IsOrdinary (demand.contribution check registry) := by
  refine .bind (.mapM fun column _ => ?_) fun columns => ?_
  · exact .bind (column.2.failsWith_operation check) fun operation => .ok _
  · refine .bind (.mapM fun column _ => ?_) fun fields => .ok _
    exact .bind (failsWith_requireField ..) fun metadata => .ok _

theorem LinkedCheck.failsWith_contribution?
    (check : LinkedCheck)
    (fields : PolicyFields)
    (registry : FieldRegistry) :
    FailsWith IsOrdinary (check.contribution? fields registry) := by
  unfold contribution?
  split
  · exact .ok _
  · exact (LinkedDemand.failsWith_contribution ..).map some

/-- Names of capabilities fail to be reduced over one that cannot be cut. -/
theorem Capability.failsWith_reducedNames (names : List String) :
    FailsWith (fun error => ∃ name ∈ names, reduced? name = none ∧ error = .brokenCapability name)
      (reducedNames names) := by
  induction names with
  | nil => exact .ok _
  | cons name names hypothesis =>
      unfold reducedNames
      split
      · rename_i broken
        exact .error ⟨name, List.mem_cons_self, broken, rfl⟩
      · refine .bind (hypothesis.mono ?_) fun others => .ok _
        rintro error ⟨other, member, broken, rfl⟩
        exact ⟨other, List.mem_cons_of_mem name member, broken, rfl⟩

namespace FieldCheck

variable {fields : PolicyFields}

theorem failsWith_capabilities
    {name : String}
    {label : FieldLabel}
    {demand : List String → FieldDemand}
    {source : PolicyFields → List String}
    (listed : source fields ⊆ fields.dropCapabilities ++ fields.addCapabilities) :
    FailsWith (IsOver fields) ((capabilities name label demand source).demand? fields) := by
  refine .bind ((Capability.failsWith_reducedNames _).mono ?_) fun names => .ok _
  rintro error ⟨name, member, broken, rfl⟩
  exact .inr ⟨name, listed member, broken, rfl⟩

theorem failsWith_entry
    (name : String)
    (label : FieldLabel)
    (demand : String → Option String → FieldDemand)
    (source : PolicyFields → Option KeyValuePolicy) :
    FailsWith IsOrdinary ((entry name label demand source).demand? fields) := by
  simp only [entry]
  split
  · exact .ok _
  · split
    · exact .ok _
    · exact .error (.valueWithoutKey name)
    · exact .ok _

end FieldCheck

namespace LeafCheck

/-- A check whose demand fails over the constraints of a policy only. -/
def DemandFailsOver (fields : PolicyFields) : LeafCheck → Prop
  | field check => FailsWith (IsOver fields) (check.demand? fields)
  | linked _ => True
  | permission _ => False

/-- The demands of the standard checks fail over the constraints of a policy only. -/
theorem demandFailsOver_standard (fields : PolicyFields) :
    ∀ leaf ∈ Check.leavesOfAll Check.standard, leaf.DemandFailsOver fields := by
  have entries name label demand source :
      FailsWith (IsOver fields) ((FieldCheck.entry name label demand source).demand? fields) :=
    (FieldCheck.failsWith_entry ..).mono fun _ => .inl
  simp only [Check.standard, Check.imageName, Check.component, Check.port, Check.process,
    Check.resources, Check.ofField, Check.ofLinked, Check.leavesOfAll, Check.leaves,
    List.cons_append, List.nil_append, List.append_nil, List.forall_mem_cons, DemandFailsOver,
    FieldCheck.pattern, FieldCheck.exact, FieldCheck.threshold, FieldCheck.age, FieldCheck.flag,
    FieldCheck.missing, FieldCheck.process, FailsWith.ok, true_and]
  exact
    ⟨entries .., entries .., entries .., entries .., entries .., entries ..,
      FieldCheck.failsWith_capabilities (List.subset_append_left ..),
      FieldCheck.failsWith_capabilities (List.subset_append_right ..), by simp⟩

/-- A standard check fails over the constraints of a policy, never over a store. -/
theorem failsWith_standard
    {leaf : LeafCheck}
    (member : leaf ∈ Check.leavesOfAll Check.standard)
    (fields : PolicyFields)
    (registry : FieldRegistry) :
    FailsWith (IsOver fields) (leaf.contribution? fields registry) := by
  have demanded := demandFailsOver_standard fields leaf member
  cases leaf with
  | field check => exact (FieldCheck.failsWith_contribution? (fun _ => .inl) demanded registry).map _
  | linked check => exact ((check.failsWith_contribution? fields registry).mono fun _ => .inl).map _
  | permission store => exact demanded.elim

end LeafCheck

theorem failsWith_ofRegistry (registry : FieldRegistry) :
    FailsWith IsOrdinary (AccountFields.ofRegistry registry) := by
  refine .bind (failsWith_requireField ..) fun cluster => ?_
  refine .bind (failsWith_requireField ..) fun namespaceName => ?_
  exact .bind (failsWith_requireField ..) fun account => .ok _

/-- The permission check fails over its fields or over a listing of its store. -/
theorem failsWith_permissionContribution?
    (store : Access.Store)
    (fields : PolicyFields)
    (registry : FieldRegistry) :
    FailsWith (fun error => error.IsOrdinary ∨ ∃ cause, error = .store cause)
      (permissionContribution? store fields registry) := by
  unfold permissionContribution?
  split
  · exact .ok _
  · refine .bind ((failsWith_ofRegistry registry).mono fun error => .inl) fun accountFields => ?_
    refine .bind ⟨fun error failed => .inr ?_⟩ fun snapshot => .ok _
    rw [← failure?_eq_some_iff, failure?_mapError] at failed
    obtain ⟨cause, -, rfl⟩ := Option.map_eq_some_iff.1 failed
    exact ⟨cause, rfl⟩

/-! ## Scopes -/

namespace Scope

variable {registry : FieldRegistry}

theorem failsWith_exactQuery? (label : FieldLabel) (text : Option String) :
    FailsWith IsOrdinary (exactQuery? registry label text) := by
  unfold exactQuery?
  split
  · exact .ok _
  · exact .bind (failsWith_requireField ..) fun metadata => .ok _

theorem failsWith_literalPattern? (text : Option String) :
    FailsWith IsOrdinary (literalPattern? text) := by
  cases text with
  | none => exact .ok _
  | some text => exact (failsWith_compileWhole ..).map some

theorem failsWith_labelQuery? (label : Option KeyValuePolicy) :
    FailsWith IsOrdinary (labelQuery? registry label) := by
  unfold labelQuery?
  split
  · exact .ok _
  · split
    · exact .ok _
    · exact .error (.valueWithoutKey scopeName)
    · refine .bind (failsWith_requireField ..) fun metadata => ?_
      refine .bind (failsWith_compileWhole ..) fun keyPattern => ?_
      exact .bind (failsWith_literalPattern? _) fun valuePattern => .ok _

/-- A scope fails over its fields and labels only. -/
theorem failsWith_listQuery? (scopes : List Scope) :
    FailsWith IsOrdinary (listQuery? registry scopes) := by
  refine .bind (.mapM fun scope _ => ?_) fun queries => .ok _
  refine .bind (failsWith_exactQuery? ..) fun cluster => ?_
  refine .bind (failsWith_exactQuery? ..) fun namespaceName => ?_
  exact .bind (failsWith_labelQuery? _) fun label => .ok _

end Scope

/-! ## Compiling -/

namespace Compiler

variable {compiler : Compiler} {policy : Policy} {fields : PolicyFields}

theorem contribution_eq_error_check_iff {policyName : String} {error : CheckError} :
    compiler.contribution policyName fields = .error (.check error) ↔
      ∃ added, compiler.permissionChecks policyName fields = .ok added ∧
        Check.firstFailure? fields compiler.registry (compiler.tree added).leaves =
          some error := by
  rw [contribution, bind_eq_error_iff]
  constructor
  · rintro (refused | ⟨added, permitted, rest⟩)
    · unfold permissionChecks at refused
      split at refused
      · simp at refused
      · split at refused <;> simp at refused
    · refine ⟨added, permitted, ?_⟩
      rw [← Check.failure?_contribution?, failure?_eq_some_iff]
      rcases bind_eq_error_iff.1 rest with failed | ⟨outcome, -, decided⟩
      · rw [← failure?_eq_some_iff, failure?_mapError] at failed
        obtain ⟨cause, found, equal⟩ := Option.map_eq_some_iff.1 failed
        cases equal
        exact failure?_eq_some_iff.1 found
      · cases outcome <;> simp at decided
  · rintro ⟨added, permitted, failed⟩
    refine .inr ⟨added, permitted, bind_eq_error_iff.2 (.inl ?_)⟩
    rw [← Check.failure?_contribution?] at failed
    rw [← failure?_eq_some_iff, failure?_mapError]
    exact Option.map_eq_some_iff.2 ⟨error, failed, rfl⟩

theorem constraints_ne_error_check (policy : Policy) (error : CheckError) :
    policy.constraints ≠ .error (.check error) := by
  unfold Policy.constraints
  split
  · simp
  · split
    · simp
    · split <;> simp

/-- A policy fails over a check if some check fails, or over its scope if none does. -/
theorem compile_eq_error_check_iff {error : CheckError} :
    compiler.compile policy = .error (.check error) ↔
      ∃ fields, policy.constraints = .ok fields ∧
        (compiler.contribution policy.name fields = .error (.check error) ∨
          ∃ contribution, compiler.contribution policy.name fields = .ok contribution ∧
            Scope.listQuery? compiler.registry policy.scope = .error error) := by
  constructor
  · intro failed
    rcases bind_eq_error_iff.1 failed with ungated | ⟨contribution, -, unsplit⟩
    · rcases bind_eq_error_iff.1 ungated with unnamed | ⟨fields, constrained, rest⟩
      · exact absurd unnamed (constraints_ne_error_check policy error)
      · refine ⟨fields, constrained, ?_⟩
        rcases bind_eq_error_iff.1 rest with inChecks | ⟨contribution, contributed, rest⟩
        · exact .inl inChecks
        · refine .inr ⟨contribution, contributed, ?_⟩
          rcases bind_eq_error_iff.1 rest with inScope | ⟨scope, -, gathered⟩
          · rw [← failure?_eq_some_iff, failure?_mapError] at inScope
            obtain ⟨cause, found, equal⟩ := Option.map_eq_some_iff.1 inScope
            cases equal
            exact failure?_eq_some_iff.1 found
          · simp at gathered
    · split at unsplit <;> simp at unsplit
  · rintro ⟨fields, constrained, inChecks | ⟨contribution, contributed, inScope⟩⟩
    · apply compile_of_contribution_error
      rw [constrained]
      exact inChecks
    · have run :
          (policy.constraints >>= fun fields => compiler.contribution policy.name fields) =
            .ok contribution := by
        rw [constrained]
        exact contributed
      exact compile_of_listQuery?_error run inScope

/-- With the standard checks a policy fails over its constraints, its scope or a
store. -/
theorem isOver_or_store_of_compile
    (standard : compiler.checks = Check.standard)
    {error : CheckError}
    (failed : compiler.compile policy = .error (.check error)) :
    ∃ fields, policy.constraints = .ok fields ∧
      (error.IsOver fields ∨ ∃ cause, error = .store cause) := by
  obtain ⟨fields, constrained, inChecks | ⟨-, -, inScope⟩⟩ := compile_eq_error_check_iff.1 failed
  · refine ⟨fields, constrained, ?_⟩
    obtain ⟨added, permitted, first⟩ := contribution_eq_error_check_iff.1 inChecks
    obtain ⟨leaf, member, inLeaf⟩ := List.exists_of_findSome?_eq_some first
    have leafFailed := failure?_eq_some_iff.1 inLeaf
    rw [leaves_tree, List.mem_append, standard] at member
    rcases member with inStandard | inAdded
    · exact .inl ((LeafCheck.failsWith_standard inStandard fields _).of_eq_error error leafFailed)
    · obtain ⟨store, rfl⟩ := exists_store_of_mem_permissionChecks permitted inAdded
      have fails := (failsWith_permissionContribution? store fields compiler.registry).map
        (Option.map (·.keyed permissionCheckName))
      exact (fails.of_eq_error error leafFailed).imp_left .inl
  · exact ⟨fields, constrained,
      .inl (.inl ((Scope.failsWith_listQuery? _).of_eq_error error inScope))⟩

end Compiler
end WorkloadPolicy
