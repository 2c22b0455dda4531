import WorkloadPolicy.Proofs.Flat
import WorkloadPolicy.Proofs.Rekeying
import WorkloadPolicy.Proofs.Telling
import WorkloadPolicy.Proofs.Unsplit

/-!
# When policies fire

A policy fires on the entities that it is run on when the run reports something.
A compiled policy whose ages fit durations fires exactly when its predicates are
satisfied.  Whether one policy fires wherever another one does can therefore be
told from their whole predicates: the one must entail the other.
-/

namespace WorkloadPolicy

/-- A policy fires when its run reports something. -/
def Matcher.Fires
    (now : Calendar.Instant)
    (matcher : Matcher)
    (subjects : Subjects) : Prop :=
  ∃ violations, matcher.run now subjects = .ok violations ∧ violations.isEmpty = false

/-! ## Entailment -/

/-- A predicate entails another one if all values that match it match the other,
and if it looks at every kind of entity that the other looks at. -/
structure Query.Entails (strong weak : Query) : Prop where
  isMatch : ∀ now values, (strong.evaluate now values).isMatch = true →
    (weak.evaluate now values).isMatch = true
  kinds : ∀ field ∈ weak.fields, ∃ other ∈ strong.fields, other.kind = field.kind

namespace Query.Entails

variable {strong weak : Query}

theorem refl (query : Query) : query.Entails query where
  isMatch _ _ matched := matched
  kinds field member := ⟨field, member, rfl⟩

/-- A conjunction entails another one if some conjunct of it entails each
conjunct of the other. -/
theorem of_all?_eq_some
    {strongs weaks : List Query}
    (strongCombined : all? strongs = some strong)
    (weakCombined : all? weaks = some weak)
    (each : ∀ query ∈ weaks, ∃ other ∈ strongs, other.Entails query) :
    strong.Entails weak where
  isMatch now values matched := by
    rw [evaluate_of_all?_eq_some now values strongCombined, Verdict.isMatch_all,
      List.all_map, List.all_eq_true] at matched
    rw [evaluate_of_all?_eq_some now values weakCombined, Verdict.isMatch_all, List.all_map,
      List.all_eq_true]
    intro query member
    obtain ⟨other, inStrongs, entails⟩ := each query member
    exact entails.isMatch now values (matched other inStrongs)
  kinds field member := by
    rw [fields_of_all?_eq_some weakCombined, List.mem_flatMap] at member
    obtain ⟨query, inWeaks, inQuery⟩ := member
    obtain ⟨other, inStrongs, entails⟩ := each query inWeaks
    obtain ⟨found, inOther, same⟩ := entails.kinds field inQuery
    rw [fields_of_all?_eq_some strongCombined]
    exact ⟨found, List.mem_flatMap.2 ⟨other, inStrongs, inOther⟩, same⟩

/-- A scope in front makes no difference. -/
theorem gated (entails : strong.Entails weak) (scope : Option Query) :
    (Compiler.gated scope strong).Entails (Compiler.gated scope weak) where
  isMatch now values matched := by
    rw [evaluate_gated, Verdict.isMatch_both, Bool.and_eq_true] at matched ⊢
    exact ⟨matched.1, entails.isMatch now values matched.2⟩
  kinds field member := by
    rw [fields_gated, List.mem_append] at member
    rw [fields_gated]
    rcases member with inScope | inWeak
    · exact ⟨field, List.mem_append_left _ inScope, rfl⟩
    · obtain ⟨found, inStrong, same⟩ := entails.kinds field inWeak
      exact ⟨found, List.mem_append_right _ inStrong, same⟩

end Query.Entails

/-- What some checks contribute entails what others do if each part of it is
entailed by some part. -/
theorem Contribution.entails_of_combined?_all
    {strongs weaks : List Contribution}
    {strong weak : Contribution}
    (strongCombined : combined? Query.all? strongs = some strong)
    (weakCombined : combined? Query.all? weaks = some weak)
    (each : ∀ part ∈ weaks, ∃ other ∈ strongs, other.query.Entails part.query) :
    strong.query.Entails weak.query := by
  apply Query.Entails.of_all?_eq_some (combined?_eq_some_iff.1 strongCombined).1
    (combined?_eq_some_iff.1 weakCombined).1
  rw [List.forall_mem_map]
  intro part member
  obtain ⟨other, inStrongs, entails⟩ := each part member
  exact ⟨other.query, List.mem_map_of_mem inStrongs, entails⟩

/-- Checks of one kind of entity are compared by what they match, whatever their
highlight keys. -/
theorem LeafCheck.entails_of_plainContribution?
    {registry : FieldRegistry}
    {strong weak : LeafCheck}
    {strongFields weakFields : PolicyFields}
    {strongPart weakPart : Contribution}
    {kind : EntityKind}
    (isStandard : registry.IsStandard)
    (strongReads : strong.Reads kind)
    (weakReads : weak.Reads kind)
    (strongRun : strong.plainContribution? strongFields registry = .ok (some strongPart))
    (weakRun : weak.plainContribution? weakFields registry = .ok (some weakPart))
    (isMatch : ∀ now values, (strongPart.query.evaluate now values).isMatch = true →
      (weakPart.query.evaluate now values).isMatch = true) :
    (strongPart.keyed strong.name).query.Entails (weakPart.keyed weak.name).query where
  isMatch now values matched := by
    rw [Contribution.isMatch_keyed (isPlain_of_plainContribution? strongRun)] at matched
    rw [Contribution.isMatch_keyed (isPlain_of_plainContribution? weakRun)]
    exact isMatch now values matched
  kinds field member := by
    have strongKeyed := contribution?_eq_ok_some_iff.2 ⟨strongPart, strongRun, rfl⟩
    have weakKeyed := contribution?_eq_ok_some_iff.2 ⟨weakPart, weakRun, rfl⟩
    obtain ⟨other, inStrong⟩ :=
      List.exists_mem_of_ne_nil _ (founded_of_contribution? strongKeyed).populated.fields_ne_nil
    refine ⟨other, inStrong, ?_⟩
    rw [strongReads.kind_eq isStandard strongKeyed other inStrong,
      weakReads.kind_eq isStandard weakKeyed field member]

/-! ## Ages of policies that fire -/

/-- A leaf that matches asks for no age that does not fit. -/
theorem FieldQuery.agesFit_of_isMatch
    {now : Calendar.Instant}
    {field : FieldQuery}
    {values : List String}
    (matched : (field.evaluate now values).isMatch = true) :
    field.operation.agesFit = true := by
  cases operation : field.operation with
  | olderThanDays days =>
      simp only [evaluate, operation] at matched
      split at matched
      · simp at matched
      · rename_i sound
        split at matched
        · simp at matched
        · rename_i nonempty
          obtain ⟨value, hit⟩ := List.exists_mem_of_ne_nil _ nonempty
          obtain ⟨inValues, holds⟩ := List.mem_filter.1 hit
          simp only [List.any_eq_true, not_exists, not_and] at sound
          have faultless := sound value inValues
          simp only [Operation.holds] at holds
          split at holds
          · rename_i read
            simpa [Operation.faults, read, Operation.agesFit] using faultless
          · simp at holds
  | _ => rfl

/-- A check of an age that is asked for contributes a leaf. -/
theorem Check.exists_leaf_of_age
    {fields : PolicyFields}
    {registry : FieldRegistry}
    {name : String}
    {label : FieldLabel}
    {subject : String}
    {source : PolicyFields → Option Int}
    {outcome : Option Contribution}
    (run : (ofField (.age name label subject source)).contribution? fields registry = .ok outcome)
    {days : Int}
    (asked : source fields = some days) :
    ∃ metadata printer, registry.lookup label = some metadata ∧
      outcome = some
        ⟨.leaf ((FieldQuery.ofField label metadata (.olderThanDays days)).keyed name),
          printer⟩ := by
  have demanded :
      (FieldCheck.age name label subject source).demand? fields =
        .ok (some (.age subject days)) := by
    simp [FieldCheck.age, asked]
  obtain ⟨metadata, plain, registered, served, -, rfl⟩ :=
    LeafCheck.exists_plain_of_demand demanded run
  cases served
  exact ⟨metadata, _, registered, rfl⟩

namespace Compiler

variable
  {compiler : Compiler}
  {policy : Policy}
  {fields : PolicyFields}
  {added : List Check}
  {contribution : Contribution}
  {scope : Option Query}
  {queries : KindQueries}
  {policyName : String}
  {printer : Printer}
  {now : Calendar.Instant}
  {subjects : Subjects}

theorem isKnown_of_standardChecks (standardChecks : compiler.checks = Check.standard) :
    compiler.IsKnown := by
  intro leaf member
  rw [standardChecks] at member
  exact .inl member

/-- What a policy gathers, check by check. -/
theorem Gathers.exists_contributions
    (gathers : compiler.Gathers policy fields added contribution scope) :
    ∃ parts,
      Check.contributions fields compiler.registry (compiler.checks ++ added) = .ok parts ∧
        Contribution.combined? Query.all? parts = some contribution :=
  Check.contribution?_all_eq_ok_iff.1 gathers.contributed

/-- When a policy matches some values, so does what each of its checks contributes. -/
theorem Gathers.exists_outcome_of_isMatch
    (gathers : compiler.Gathers policy fields added contribution scope)
    {values : FieldValues}
    (matched : ((gated scope contribution.query).evaluate now values).isMatch = true)
    {check : Check}
    (member : check ∈ compiler.checks) :
    ∃ outcome, check.contribution? fields compiler.registry = .ok outcome ∧
      ∀ part ∈ outcome, (part.query.evaluate now values).isMatch = true := by
  rw [Query.evaluate_gated, Verdict.isMatch_both, Bool.and_eq_true] at matched
  obtain ⟨parts, partsRun, combined⟩ := gathers.exists_contributions
  have each := matched.2
  rw [Contribution.evaluate_of_combined?_all combined, Verdict.isMatch_all, List.all_map,
    List.all_eq_true] at each
  obtain ⟨outcome, run, subset⟩ :=
    Check.exists_outcome_of_mem partsRun (List.mem_append_left _ member)
  exact ⟨outcome, run, fun part present => each part (subset part present)⟩

/-- A policy that matches some values asks for ages that fit. -/
theorem Gathers.dayCountFits_of_isMatch
    (gathers : compiler.Gathers policy fields added contribution scope)
    {values : FieldValues}
    (matched : ((gated scope contribution.query).evaluate now values).isMatch = true)
    {name : String}
    {label : FieldLabel}
    {subject : String}
    {source : PolicyFields → Option Int}
    (member : Check.ofField (.age name label subject source) ∈ compiler.checks)
    {days : Int}
    (asked : source fields = some days) :
    Calendar.Instant.dayCountFits days = true := by
  obtain ⟨outcome, run, each⟩ := gathers.exists_outcome_of_isMatch matched member
  obtain ⟨metadata, printer, -, rfl⟩ := Check.exists_leaf_of_age run asked
  have leafMatched := each _ rfl
  rw [Query.evaluate_leaf] at leafMatched
  exact FieldQuery.agesFit_of_isMatch leafMatched

/-- A policy with the standard checks that matches some values asks for ages of
images and of scans that fit. -/
theorem Gathers.agesFit_of_isMatch
    (gathers : compiler.Gathers policy fields added contribution scope)
    (standardChecks : compiler.checks = Check.standard)
    {values : FieldValues}
    (matched : ((gated scope contribution.query).evaluate now values).isMatch = true) :
    (∀ days, fields.imageAgeDays = some days → Calendar.Instant.dayCountFits days = true) ∧
      ∀ days, fields.scanAgeDays = some days → Calendar.Instant.dayCountFits days = true := by
  have imageAge :
      Check.ofField (.age "image age" .imageCreatedTime "Time of image creation"
        fun fields => fields.imageAgeDays) ∈ compiler.checks := by
    simp [standardChecks, Check.standard]
  have scanAge :
      Check.ofField (.age "scan age" .imageScanTime "Time of last scan"
        fun fields => fields.scanAgeDays) ∈ compiler.checks := by
    simp [standardChecks, Check.standard]
  exact ⟨fun _ => gathers.dayCountFits_of_isMatch matched imageAge,
    fun _ => gathers.dayCountFits_of_isMatch matched scanAge⟩

/-! ## Policies that fire -/

/-- A policy that fires is satisfied. -/
theorem satisfied_of_fires
    (fires : (matcher policyName queries printer).Fires now subjects) :
    ∀ kind, (matcher policyName queries printer).Satisfied now subjects kind := by
  obtain ⟨violations, ran, reported⟩ := fires
  obtain ⟨highlights, matched, -⟩ := Matcher.exists_highlights_of_run_eq_ok ran reported
  exact fun kind => Matcher.satisfied_of_isMatch ((Matcher.verdict_eq_matched_iff.1 matched).1 kind)

/-- A policy whose ages fit fires exactly when it is satisfied. -/
theorem Gathers.fires_iff
    (gathers : compiler.Gathers policy fields added contribution scope)
    (apart : compiler.LinksApart)
    (isStandard : compiler.registry.IsStandard)
    (fit : compiler.AgesFit policy)
    (split : (gated scope contribution.query).split? = some queries) :
    (matcher policyName queries contribution.printer).Fires now subjects ↔
      ∀ kind, (matcher policyName queries contribution.printer).Satisfied now subjects kind := by
  refine ⟨satisfied_of_fires, fun satisfied => ?_⟩
  have told :
      ((matcher policyName queries contribution.printer).report subjects
        ((matcher policyName queries contribution.printer).found now subjects)).alerts ≠ [] :=
    gathers.alerts_ne_nil apart isStandard.hasDistinctPaths split
      (gathers.verdict_of_satisfied fit split satisfied)
  have reported :
      ((matcher policyName queries contribution.printer).report subjects
        ((matcher policyName queries contribution.printer).found now subjects)).isEmpty = false := by
    simp [Violations.isEmpty, told]
  refine ⟨_, ?_, reported⟩
  rw [gathers.run_of_satisfied fit split satisfied, reported]
  rfl

/-- A satisfied policy has values by kind that its conjuncts match, supplied
wherever there is a conjunct. -/
theorem exists_parts_of_satisfied
    (satisfied : ∀ kind, (matcher policyName queries printer).Satisfied now subjects kind) :
    ∃ parts : EntityKind → FieldValues, (∀ kind, (parts kind).BelongTo kind) ∧
      (∀ kind, ∀ conjunct ∈ queries.ofKind kind,
        (conjunct.evaluate now (parts kind)).isMatch = true) ∧
      ∀ kind, queries.ofKind kind = [] ∨ parts kind ∈ subjects.values kind := by
  have some (kind : EntityKind) :
      ∃ values : FieldValues, values.BelongTo kind ∧
        (∀ conjunct ∈ queries.ofKind kind, (conjunct.evaluate now values).isMatch = true) ∧
        (queries.ofKind kind = [] ∨ values ∈ subjects.values kind) := by
    rcases satisfied_matcher_iff.1 (satisfied kind) with none | ⟨values, supplied, each⟩
    · exact ⟨{}, FieldValues.belongTo_empty kind, by simp [none], .inl none⟩
    · exact ⟨values, Subjects.belongTo_of_mem_values supplied, each, .inr supplied⟩
  choose parts belong each supplied using some
  exact ⟨parts, belong, each, supplied⟩

/-- A policy that fires matches some values as a whole. -/
theorem Gathers.exists_isMatch_of_fires
    (gathers : compiler.Gathers policy fields added contribution scope)
    (isStandard : compiler.registry.IsStandard)
    (split : (gated scope contribution.query).split? = some queries)
    (fires : (matcher policyName queries printer).Fires now subjects) :
    ∃ parts : EntityKind → FieldValues, (∀ kind, (parts kind).BelongTo kind) ∧
      ((gated scope contribution.query).evaluate now
        (parts .deployment ++ parts .process ++ parts .image)).isMatch = true ∧
      ∀ kind, queries.ofKind kind = [] ∨ parts kind ∈ subjects.values kind := by
  obtain ⟨parts, belong, each, supplied⟩ := exists_parts_of_satisfied (satisfied_of_fires fires)
  have agree :=
    Query.agree_append (fun _ member => (gathers.registered member).owns isStandard) belong
  exact ⟨parts, belong, (Query.isMatch_evaluate_iff gathers.populated split agree).2 each, supplied⟩

section Entailed

variable
  {other : Compiler}
  {otherPolicy : Policy}
  {otherFields : PolicyFields}
  {otherAdded : List Check}
  {otherContribution : Contribution}
  {otherScope : Option Query}
  {otherQueries : KindQueries}
  {otherName : String}
  (gathers : compiler.Gathers policy fields added contribution scope)
  (otherGathers : other.Gathers otherPolicy otherFields otherAdded otherContribution otherScope)
  (isStandard : compiler.registry.IsStandard)
  (otherIsStandard : other.registry.IsStandard)
  (split : (gated scope contribution.query).split? = some queries)
  (otherSplit : (gated otherScope otherContribution.query).split? = some otherQueries)
  (entails : (gated scope contribution.query).Entails (gated otherScope otherContribution.query))
  (fires : (matcher policyName queries printer).Fires now subjects)

include gathers otherGathers isStandard otherIsStandard split otherSplit entails fires

/-- A policy fires wherever one fires whose predicate entails its own. -/
theorem Gathers.fires_of_entails
    (known : other.IsKnown)
    (fit : other.AgesFit otherPolicy) :
    (matcher otherName otherQueries otherContribution.printer).Fires now subjects := by
  obtain ⟨parts, belong, matched, supplied⟩ :=
    gathers.exists_isMatch_of_fires isStandard split fires
  have agree :=
    Query.agree_append
      (fun _ member => (otherGathers.registered member).owns otherIsStandard) belong
  have each :=
    (Query.isMatch_evaluate_iff otherGathers.populated otherSplit agree).1
      (entails.isMatch now _ matched)
  rw [otherGathers.fires_iff known.linksApart otherIsStandard fit otherSplit]
  intro kind
  rw [satisfied_matcher_iff]
  by_cases unused : otherQueries.ofKind kind = []
  · exact .inl unused
  · -- The stronger predicate looks at this kind as well, so it was supplied with the values.
    obtain ⟨conjunct, inKind⟩ := List.exists_mem_of_ne_nil _ unused
    obtain ⟨inWhole, single⟩ := (Query.mem_ofKind_iff otherSplit).1 inKind
    obtain ⟨field, inConjunct⟩ :=
      List.exists_mem_of_ne_nil _ (otherGathers.populated.of_mem_conjuncts inWhole).fields_ne_nil
    obtain ⟨found, inStrong, same⟩ :=
      entails.kinds field (Query.mem_fields_of_mem_conjuncts inWhole inConjunct)
    have used := Query.ofKind_ne_nil_of_mem_fields split inStrong
    rw [same, Query.kind_of_kindSet_eq_singleton single inConjunct] at used
    exact .inr ⟨parts kind, (supplied kind).resolve_left used, each kind⟩

/-- With the standard checks the ages of the policy fit if the one that fires asks for
them as well. -/
theorem Gathers.fires_of_entails_of_standard
    (standardChecks : compiler.checks = Check.standard)
    (otherStandardChecks : other.checks = Check.standard)
    (imageAges : ∀ days, otherFields.imageAgeDays = some days → fields.imageAgeDays = some days)
    (scanAges : ∀ days, otherFields.scanAgeDays = some days → fields.scanAgeDays = some days) :
    (matcher otherName otherQueries otherContribution.printer).Fires now subjects := by
  obtain ⟨parts, -, matched, -⟩ := gathers.exists_isMatch_of_fires isStandard split fires
  obtain ⟨imageAgesFit, scanAgesFit⟩ := gathers.agesFit_of_isMatch standardChecks matched
  have fit : other.AgesFit otherPolicy := by
    intro found present
    cases Option.some.inj (present.symm.trans (fields_of_constraints otherGathers.constrained))
    rw [otherStandardChecks]
    exact Check.agesFit_standard (fun days asked => imageAgesFit days (imageAges days asked))
      (fun days asked => scanAgesFit days (scanAges days asked))
  exact gathers.fires_of_entails otherGathers isStandard otherIsStandard split otherSplit entails
    fires (isKnown_of_standardChecks otherStandardChecks) fit

end Entailed

end Compiler
end WorkloadPolicy
