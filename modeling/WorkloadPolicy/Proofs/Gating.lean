import WorkloadPolicy.Proofs.Admission
import WorkloadPolicy.Proofs.Flat
import WorkloadPolicy.Proofs.Unsplit

/-!
# Scopes as gates

The predicate of a scope goes to the predicate on deployments, in front.  It
never faults, and what it highlights no printer reads.  A policy with a scope
therefore runs as it does without one on the deployments that the scope admits,
and reports nothing on others.
-/

namespace WorkloadPolicy

/-! ## Verdicts that printers cannot tell apart -/

namespace Verdict

/-- Two verdicts say the same, with the same highlights under some keys. -/
inductive SameUnder (keys : List String) : Verdict → Verdict → Prop
  | matched
      {left right : Highlights}
      (agree : ∀ key ∈ keys, left.get key = right.get key) :
      SameUnder keys (matched left) (matched right)
  | unmatched : SameUnder keys unmatched unmatched
  | fault : SameUnder keys fault fault

namespace SameUnder

variable {keys : List String}

theorem refl (verdict : Verdict) : SameUnder keys verdict verdict := by
  cases verdict with
  | matched highlights => exact .matched fun _ _ => rfl
  | unmatched => exact .unmatched
  | fault => exact .fault

theorem both
    {first second left right : Verdict}
    (same : SameUnder keys first second)
    (others : SameUnder keys left right) :
    SameUnder keys (first.both left) (second.both right) := by
  cases same with
  | matched agree =>
      cases others with
      | matched othersAgree =>
          refine .matched fun key member => ?_
          rw [Highlights.get_append, Highlights.get_append, agree key member,
            othersAgree key member]
      | unmatched => exact .unmatched
      | fault => exact .fault
  | unmatched => exact .unmatched
  | fault => exact .fault

/-- A match whose highlights stand under other keys changes nothing. -/
theorem matched_both
    {highlights : Highlights}
    (foreign : ∀ key ∈ keys, highlights.get key = [])
    (verdict : Verdict) :
    SameUnder keys ((Verdict.matched highlights).both verdict) verdict := by
  have same : SameUnder keys (Verdict.matched highlights) (Verdict.matched {}) :=
    .matched fun key member => by rw [foreign key member, Highlights.get_empty]
  simpa using same.both (refl verdict)

end SameUnder
end Verdict

/-- Runs that printers cannot tell apart report the same. -/
theorem Matcher.run_eq_of_sameUnder
    {now : Calendar.Instant}
    {subjects : Subjects}
    {left right : Matcher}
    {leftKind rightKind : EntityKind}
    {leftQuery rightQuery : Query}
    (leftPresent : left.predicate leftKind = some leftQuery)
    (rightPresent : right.predicate rightKind = some rightQuery)
    (sameName : left.policyName = right.policyName)
    (samePrinter : left.printer = right.printer)
    (same : Verdict.SameUnder right.printer.keys
      (left.verdict (Query.evaluate now) subjects)
      (right.verdict (Query.evaluate now) subjects)) :
    left.run now subjects = right.run now subjects := by
  rw [run_eq leftPresent, run_eq rightPresent]
  generalize left.verdict (Query.evaluate now) subjects = leftVerdict at same
  generalize right.verdict (Query.evaluate now) subjects = rightVerdict at same
  cases same with
  | unmatched => rfl
  | fault => simp only [sameName]
  | matched agree =>
      have sameReport (leftFound rightFound : Highlights)
          (agree : ∀ key ∈ right.printer.keys, leftFound.get key = rightFound.get key) :
          left.report subjects leftFound = right.report subjects rightFound := by
        rw [report, report, samePrinter, Printer.alerts_congr agree]
      simp only [sameReport _ _ agree, sameName]

/-! ## Gated predicates -/

namespace Compiler

variable
  {compiler : Compiler}
  {policy : Policy}
  {fields : PolicyFields}
  {added : List Check}
  {contribution : Contribution}
  {scope query : Query}
  {queries gatedQueries : KindQueries}
  {policyName : String}
  {printer : Printer}
  {now : Calendar.Instant}
  {subjects : Subjects}

/-- A predicate on deployments adds its conjuncts to those on deployments. -/
theorem ofKind_gated
    (populated : scope.Populated)
    (ofDeployment : ∀ field ∈ scope.fields, field.kind = .deployment)
    (split : query.split? = some queries)
    (gatedSplit : (gated (some scope) query).split? = some gatedQueries)
    (kind : EntityKind) :
    gatedQueries.ofKind kind =
      (if kind = .deployment then scope.conjuncts else []) ++ queries.ofKind kind := by
  have single : ∀ conjunct ∈ scope.conjuncts, conjunct.kindSet = [.deployment] := by
    intro conjunct member
    apply Query.kindSet_eq_singleton (populated.of_mem_conjuncts member).fields_ne_nil
    exact fun field inConjunct =>
      ofDeployment field (Query.mem_fields_of_mem_conjuncts member inConjunct)
  rw [Query.ofKind_of_split?_eq_some gatedSplit, Query.ofKind_of_split?_eq_some split,
    Query.conjuncts_gated, List.filter_append]
  congr 1
  simp only [Option.toList_some, List.flatMap_singleton]
  split
  · rename_i same
    rw [List.filter_eq_self]
    intro conjunct member
    simp [single conjunct member, same]
  · rename_i different
    rw [List.filter_eq_nil_iff]
    intro conjunct member
    simp [single conjunct member, Ne.symm different]

/-- The verdict on a kind depends on the conjuncts of that kind only. -/
theorem kindVerdict_matcher_congr
    {kind : EntityKind}
    (same : gatedQueries.ofKind kind = queries.ofKind kind) :
    (matcher policyName gatedQueries printer).kindVerdict now subjects kind =
      (matcher policyName queries printer).kindVerdict now subjects kind := by
  unfold Matcher.kindVerdict
  rw [predicate_matcher, predicate_matcher, same]

/-- Only images are compared with ages. -/
theorem Gathers.kindVerdict_ne_fault_of_ne_image
    {scope? : Option Query}
    (gathers : compiler.Gathers policy fields added contribution scope?)
    (isStandard : compiler.registry.IsStandard)
    (standardChecks : compiler.checks = Check.standard)
    (split : (gated scope? contribution.query).split? = some queries)
    {kind : EntityKind}
    (other : kind ≠ .image) :
    (matcher policyName queries printer).kindVerdict now subjects kind ≠ .fault := by
  apply Matcher.kindVerdict_ne_fault
  intro query present field member
  obtain ⟨inWhole, ofKind⟩ := mem_fields_of_predicate split present member
  rcases gathers.mem_fields inWhole with isLeaf | ⟨inChecks, -⟩
  · exact isLeaf.agesFit
  · obtain ⟨leaf, inLeaves, part, leafRun, inPart⟩ :=
      Check.exists_leaf_of_mem_fields gathers.contributed inChecks
    have known := gathers.isKnown_of_standard standardChecks inLeaves
    rcases known.agesFit_or_reads_image fields with fit | reads
    · exact LeafCheck.agesFit_of_contribution? fit leafRun field inPart
    · have ofImage := reads.kind_eq isStandard leafRun field inPart
      exact absurd (ofKind.symm.trans ofImage) other

section Gated

variable
  (gathers : compiler.Gathers policy fields added contribution (some scope))
  (ofDeployment : ∀ field ∈ scope.fields, field.kind = .deployment)
  (split : contribution.query.split? = some queries)
  (gatedSplit : (gated (some scope) contribution.query).split? = some gatedQueries)

include gathers ofDeployment split gatedSplit

/-- The scope is asked first of a deployment. -/
theorem Gathers.kindVerdict_deployment
    {deployment : Deployment}
    (supplied : subjects.deployment = some deployment) :
    (matcher policyName gatedQueries printer).kindVerdict now subjects .deployment =
      (scope.evaluate now deployment.fieldValues).both
        ((matcher policyName queries printer).kindVerdict now subjects .deployment) := by
  have single : subjects.values .deployment = [deployment.fieldValues] := by
    rw [Subjects.values, supplied]
    rfl
  rw [kindVerdict_matcher_of_single single, kindVerdict_matcher_of_single single,
    ofKind_gated (gathers.scope_madeOf rfl).populated ofDeployment split gatedSplit, if_pos rfl,
    List.map_append, Verdict.all_append, ← Query.evaluate_eq_all_conjuncts]

/-- A policy runs on a deployment that its scope matches as it does without the
scope. -/
theorem Gathers.run_of_isMatch_scope
    (isStandard : compiler.registry.IsStandard)
    {deployment : Deployment}
    (supplied : subjects.deployment = some deployment)
    (isMatch : (scope.evaluate now deployment.fieldValues).isMatch = true) :
    (matcher policyName gatedQueries contribution.printer).run now subjects =
      (matcher policyName queries contribution.printer).run now subjects := by
  have others (kind : EntityKind) (other : kind ≠ .deployment) :
      gatedQueries.ofKind kind = queries.ofKind kind := by
    rw [ofKind_gated (gathers.scope_madeOf rfl).populated ofDeployment split gatedSplit,
      if_neg other, List.nil_append]
  have foreign :
      ∀ key ∈ contribution.printer.keys,
        (scope.evaluate now deployment.fieldValues).found.get key = [] := by
    intro key member
    apply Query.get_found_of_not_mem
    intro inScope
    obtain ⟨field, inFields, rfl⟩ := List.mem_map.1 inScope
    have isLeaf := (gathers.scope_madeOf rfl).of_mem_fields inFields
    exact isLeaf.slash_not_mem_key isStandard
      (Check.slash_mem_of_mem_keys gathers.contributed member)
  obtain ⟨gatedKind, gatedQuery, gatedPresent⟩ :=
    exists_predicate policyName contribution.printer gathers.populated gatedSplit
  obtain ⟨kind, query, present⟩ :=
    exists_predicate policyName contribution.printer gathers.founded.populated split
  apply Matcher.run_eq_of_sameUnder gatedPresent present rfl rfl
  rw [Matcher.verdict_eq, Matcher.verdict_eq, kindVerdict_matcher_congr (others .process (by simp)),
    kindVerdict_matcher_congr (others .image (by simp)),
    gathers.kindVerdict_deployment ofDeployment split gatedSplit supplied,
    Verdict.eq_matched_found isMatch]
  exact .both (.refl _) (.both (.matched_both foreign _) (.refl _))

/-- A policy reports nothing unless its scope matches a deployment. -/
theorem Gathers.run_of_not_isMatch_scope
    (isStandard : compiler.registry.IsStandard)
    (standardChecks : compiler.checks = Check.standard)
    (outside : ∀ deployment ∈ subjects.deployment,
      (scope.evaluate now deployment.fieldValues).isMatch = false) :
    (matcher policyName gatedQueries printer).run now subjects = .ok {} := by
  have unmatched :
      (matcher policyName gatedQueries printer).kindVerdict now subjects .deployment =
        .unmatched := by
    cases supplied : subjects.deployment with
    | none =>
        apply kindVerdict_matcher_of_missing
        · have populated := (gathers.scope_madeOf rfl).populated
          rw [ofKind_gated populated ofDeployment split gatedSplit, if_pos rfl]
          exact List.append_ne_nil_of_left_ne_nil populated.conjuncts_ne_nil _
        · rw [Subjects.values, supplied]
          rfl
    | some deployment =>
        have sound := Query.evaluate_ne_fault now
          (fun field member => ((gathers.scope_madeOf rfl).of_mem_fields member).agesFit)
          deployment.fieldValues
        have missed := (Verdict.eq_unmatched_iff sound).2 (outside deployment supplied)
        rw [gathers.kindVerdict_deployment ofDeployment split gatedSplit supplied, missed]
        rfl
  have sound :
      (matcher policyName gatedQueries printer).kindVerdict now subjects .process ≠ .fault :=
    gathers.kindVerdict_ne_fault_of_ne_image isStandard standardChecks gatedSplit (by simp)
  apply Matcher.run_of_unmatched
  rw [Matcher.verdict_eq, unmatched]
  cases process :
      (matcher policyName gatedQueries printer).kindVerdict now subjects .process with
  | matched highlights => rfl
  | unmatched => rfl
  | fault => exact absurd process sound

end Gated

/-! ## Compiling with and without a scope -/

/-- Every conjunct of the scope of a policy that splits reads one kind of entity. -/
theorem Gathers.uniform_scope
    {scope? : Option Query}
    (gathers : compiler.Gathers policy fields added contribution scope?)
    (split : (gated scope? contribution.query).split? = some queries) :
    ∀ scope ∈ scope?, ∀ conjunct ∈ scope.conjuncts,
      ∃ kind, ∀ field ∈ conjunct.fields, field.kind = kind := by
  intro scope present conjunct member
  have inWhole : conjunct ∈ (gated scope? contribution.query).conjuncts := by
    rw [Query.conjuncts_gated]
    exact List.mem_append_left _
      (List.mem_flatMap.2 ⟨scope, Option.mem_toList.2 present, member⟩)
  obtain ⟨kind, single⟩ := gathers.populated.kindSet_of_split?_eq_some split inWhole
  exact ⟨kind, fun _ => Query.kind_of_kindSet_eq_singleton single⟩

/-- With the standard checks a policy compiles if every conjunct of its scope reads
one kind of entity. -/
theorem Gathers.exists_compile_of_uniform
    {scope? : Option Query}
    (gathers : compiler.Gathers policy fields added contribution scope?)
    (isStandard : compiler.registry.IsStandard)
    (standardChecks : compiler.checks = Check.standard)
    (uniform : ∀ scope ∈ scope?, ∀ conjunct ∈ scope.conjuncts,
      ∃ kind, ∀ field ∈ conjunct.fields, field.kind = kind) :
    ∃ queries, (gated scope? contribution.query).split? = some queries ∧
      compiler.compile policy = .ok (matcher policy.name queries contribution.printer) := by
  have allUniform :
      ∀ conjunct ∈ (gated scope? contribution.query).conjuncts,
        ∃ kind, ∀ field ∈ conjunct.fields, field.kind = kind := by
    rw [Query.conjuncts_gated, List.forall_mem_append, List.forall_mem_flatMap]
    refine ⟨fun scope present => uniform scope (Option.mem_toList.1 present), ?_⟩
    intro conjunct member
    exact (gathers.flat_tree standardChecks).exists_kind_of_mem_conjuncts isStandard
      (fun leaf inLeaves => gathers.isKnown_of_standard standardChecks inLeaves)
      gathers.contributed member
  obtain ⟨queries, split⟩ := Query.exists_split?_eq_some allUniform
  have gathered := gatedContribution_eq_ok_iff.2 ⟨fields, added, contribution, scope?, gathers, rfl⟩
  exact ⟨queries, split, compile_eq_ok_iff.2 ⟨_, queries, gathered, split, rfl⟩⟩

/-- With the standard checks a policy compiles if its scope reads deployments. -/
theorem Gathers.exists_compile_eq_ok
    {scope? : Option Query}
    (gathers : compiler.Gathers policy fields added contribution scope?)
    (isStandard : compiler.registry.IsStandard)
    (standardChecks : compiler.checks = Check.standard)
    (ofDeployment : ∀ scope ∈ scope?, ∀ field ∈ scope.fields, field.kind = .deployment) :
    ∃ queries, (gated scope? contribution.query).split? = some queries ∧
      compiler.compile policy = .ok (matcher policy.name queries contribution.printer) :=
  gathers.exists_compile_of_uniform isStandard standardChecks fun scope present _ member =>
    ⟨.deployment, fun field inConjunct =>
      ofDeployment scope present field (Query.mem_fields_of_mem_conjuncts member inConjunct)⟩

/-- A scope is a gate.  A policy with a scope fails as it does without one; if it
does not, it fails if some entry asks for the value of a label without its key.
Otherwise it runs as it does without the scope where the scope is open, and
reports nothing elsewhere. -/
theorem run_gated_by_scope
    {compiler : Compiler}
    {policy : Policy}
    (standardFields : compiler.registry = .standard)
    (standardChecks : compiler.checks = Check.standard)
    (literal : ∀ scope ∈ policy.scope, ∀ text ∈ scope.literals, ∃ pattern,
      compileWhole scopeName (Regex.escape text) = .ok pattern) :
    match compiler.compile { policy with scope := [] } with
    | .error error => compiler.compile policy = .error error
    | .ok unscoped =>
        if ∃ scope ∈ policy.scope, scope.LacksKey then
          compiler.compile policy = .error (.check (.valueWithoutKey scopeName))
        else
          ∃ bounded, compiler.compile policy = .ok bounded ∧
            ∀ now subjects, (∀ deployment ∈ subjects.deployment, deployment.HasPlainLabels) →
              bounded.run now subjects =
                if Scope.Opens policy.scope subjects then
                  unscoped.run now subjects
                else
                  .ok {} := by
  have isStandard : compiler.registry.IsStandard := by
    rw [standardFields]
    exact FieldRegistry.isStandard_standard
  generalize free : compiler.compile { policy with scope := [] } = outcome
  cases demanded :
      policy.constraints >>= fun fields => compiler.contribution policy.name fields with
  | error error =>
      have failed : compiler.compile { policy with scope := [] } = .error error :=
        compile_of_contribution_error demanded
      cases free.symm.trans failed
      exact compile_of_contribution_error demanded
  | ok contribution =>
      obtain ⟨fields, constrained, run⟩ := Outcome.bind_eq_ok_iff.1 demanded
      obtain ⟨added, permitted, contributed⟩ := contribution_eq_ok_iff.1 run
      have ungated :
          compiler.Gathers { policy with scope := [] } fields added contribution none :=
        ⟨constrained, permitted, contributed, rfl⟩
      obtain ⟨queries, split, compiled⟩ :=
        ungated.exists_compile_eq_ok isStandard standardChecks (by simp)
      cases free.symm.trans compiled
      have listed := Scope.listQuery?_standard literal
      rw [← standardFields] at listed
      show if _ then _ else _
      split
      · rename_i lacking
        rw [if_pos lacking] at listed
        exact compile_of_listQuery?_error demanded listed
      · rename_i keyed
        rw [if_neg keyed] at listed
        obtain ⟨scope?, limited, gate⟩ := listed
        have gathers : compiler.Gathers policy fields added contribution scope? :=
          ⟨constrained, permitted, contributed, limited⟩
        obtain ⟨gatedQueries, gatedSplit, boundedCompiled⟩ :=
          gathers.exists_compile_eq_ok isStandard standardChecks gate.ofDeployment
        refine ⟨_, boundedCompiled, fun now subjects plain => ?_⟩
        cases scope? with
        | none =>
            have opens : Scope.Opens policy.scope subjects := by
              left
              intro scope member isSet
              simpa using gate.isSome_iff.2 ⟨scope, member, isSet⟩
            have same : gatedQueries = queries := by
              have gatedSplit : contribution.query.split? = some gatedQueries := gatedSplit
              have split : contribution.query.split? = some queries := split
              exact Option.some.inj (gatedSplit.symm.trans split)
            rw [if_pos opens, same]
        | some scope =>
            have ofDeployment := gate.ofDeployment scope rfl
            split
            · rename_i opens
              rcases opens with noneSet | ⟨deployment, supplied, admits⟩
              · obtain ⟨entry, member, isSet⟩ := gate.isSome_iff.1 rfl
                exact absurd isSet (noneSet entry member)
              · exact gathers.run_of_isMatch_scope ofDeployment split gatedSplit isStandard supplied
                  ((gate.eval now (plain deployment supplied)).2 admits)
            · rename_i closed
              apply gathers.run_of_not_isMatch_scope ofDeployment split gatedSplit isStandard
                standardChecks
              intro deployment supplied
              rw [← Bool.not_eq_true, gate.eval now (plain deployment supplied)]
              exact fun admits => closed (.inr ⟨deployment, supplied, admits⟩)

/-- A policy on privileged containers, limited to some scopes. -/
def privilegedWithin (scopes : List Scope) : Policy where
  name := "privileged"
  fields := some { privileged := some true }
  scope := scopes

/-- One application in one cluster. -/
def applicationScope : Scope where
  cluster := some "east"
  label := some { key := some "app", value := some "db" }

/-- A privileged deployment of the application in a cluster. -/
def applicationIn (clusterId : String) : Deployment :=
  { Deployment.privileged with clusterId, labels := [("app", "DB")] }

/-- A policy on privileged containers of one application runs in the cluster that its
scope names, whatever the case of the label, and in no other cluster. -/
theorem run_gated_by_scope_of_application :
    ∃ bounded,
      ({ registry := .standard } : Compiler).compile (privilegedWithin [applicationScope]) =
        .ok bounded ∧
      ∀ now,
        bounded.run now { deployment := some (applicationIn "east") } =
            .ok { alerts := [{ message := "Privileged container found" }] } ∧
          bounded.run now { deployment := some (applicationIn "west") } = .ok {} := by
  have bothCases : ∀ code ∈ [97, 112, 100, 98],
      Unicode.CharSet.variantsOf code = ⟨[(code, code), (code - 32, code - 32)]⟩ ∧
        code - 32 + 1 < code ∧ code < 0x80 := by
    decide +kernel
  have small : ∀ code ∈ [97, 112, 100, 98], Regex.Size.set (.variantsOf code) ≤ 80 := by
    intro code member
    obtain ⟨variants, apart, ascii⟩ := bothCases code member
    rw [variants, Regex.Size.set_pair apart ascii]
    decide
  have literal : ∀ text ∈ ["app", "db"], ∃ pattern,
      compileWhole scopeName (Regex.escape text) = .ok pattern := by
    have letters : ∀ text ∈ ["app", "db"],
        text.toList.length ≤ 3 ∧
          ∀ character ∈ text.toList, character.toNat ∈ [97, 112, 100, 98] := by
      simp
    intro text member
    obtain ⟨short, known⟩ := letters text member
    apply exists_compileWhole_escape fun character inText => small _ (known character inText)
    simp only [Regex.Size.state, Regex.Size.greatest]
    omega
  obtain ⟨unscoped, free, found⟩ :
      ∃ unscoped,
        ({ registry := .standard } : Compiler).compile (privilegedWithin []) = .ok unscoped ∧
        ∀ now,
          unscoped.run now { deployment := some (applicationIn "east") } =
            .ok { alerts := [{ message := "Privileged container found" }] } :=
    ⟨_, rfl, fun _ => rfl⟩
  have gated :=
    @run_gated_by_scope { registry := .standard } (privilegedWithin [applicationScope])
      rfl rfl (List.forall_mem_singleton.2 literal)
  have unlimited :
      { privilegedWithin [applicationScope] with scope := [] } = privilegedWithin [] := rfl
  rw [unlimited, free] at gated
  simp only at gated
  rw [if_neg (by decide)] at gated
  obtain ⟨bounded, compiled, gate⟩ := gated
  have plain (clusterId : String) : (applicationIn clusterId).HasPlainLabels := by
    simp [applicationIn, Deployment.HasPlainLabels]
  refine ⟨bounded, compiled, fun now => ⟨?_, ?_⟩⟩
  · rw [gate now _ (by simp [plain]), if_pos (by decide +kernel)]
    exact found now
  · rw [gate now _ (by simp [plain]), if_neg (by decide +kernel)]

end Compiler
end WorkloadPolicy
