import WorkloadPolicy.Proofs.Flat
import WorkloadPolicy.Proofs.Rekeying
import WorkloadPolicy.Proofs.Unsplit

/-!
# Checks report independently

All checks write to the same highlights, and all printers read them.  Since
every check keeps to keys of its own, a match still reports of each check what
that check would report alone, on the entities that satisfied the policy.  Where
checks are alternatives, those that do not match report nothing.
-/

namespace WorkloadPolicy

/-! ## Checks by themselves -/

/-- The entities of a kind that a match is about: the deployment, the process,
and those images that satisfy the whole predicate on images. -/
def Matcher.witnesses
    (now : Calendar.Instant)
    (matcher : Matcher)
    (subjects : Subjects) : EntityKind → List FieldValues
  | .image =>
      (subjects.values .image).filter fun values =>
        matcher.image.all fun query => (query.evaluate now values).isMatch
  | kind => subjects.values kind

/-- Where a kind agrees its witnesses satisfy the predicate on that kind. -/
theorem Matcher.witnesses_eq_filter
    {now : Calendar.Instant}
    {matcher : Matcher}
    {subjects : Subjects}
    {kind : EntityKind}
    (isMatch : (matcher.kindVerdict now subjects kind).isMatch = true) :
    matcher.witnesses now subjects kind =
      (subjects.values kind).filter fun values =>
        (matcher.predicate kind).all fun query => (query.evaluate now values).isMatch := by
  have satisfied := Matcher.satisfied_of_isMatch isMatch
  have only
      (entity : Option FieldValues)
      (supplied : subjects.values kind = entity.toList) :
      subjects.values kind =
        (subjects.values kind).filter fun values =>
          (matcher.predicate kind).all fun query => (query.evaluate now values).isMatch := by
    refine (List.filter_eq_self.2 fun values member => ?_).symm
    rw [Option.all_eq_true]
    intro query present
    obtain ⟨witness, inSubjects, witnessed⟩ := satisfied query present
    rw [supplied, Option.mem_toList] at member inSubjects
    rw [← Option.mem_unique inSubjects member]
    exact witnessed
  cases kind with
  | deployment => exact only _ rfl
  | image => rfl
  | process => exact only _ rfl

namespace Contribution

/-- The verdict of a contribution by itself on some entities, with the highlights
of all that match. -/
def ownVerdict
    (now : Calendar.Instant)
    (entities : List FieldValues)
    (contribution : Contribution) : Verdict :=
  .any (entities.map fun values => contribution.query.evaluate now values)

/-- What the printer of a contribution tells of its own highlights. -/
def ownAlerts
    (now : Calendar.Instant)
    (entities : List FieldValues)
    (contribution : Contribution) : List Alert :=
  match contribution.ownVerdict now entities with
  | .matched highlights => contribution.printer.alerts highlights
  | _ => []

/-- A contribution tells of its own highlights, if it has nothing to tell without
any. -/
theorem ownAlerts_eq_alerts
    {now : Calendar.Instant}
    {entities : List FieldValues}
    {contribution : Contribution}
    (quiet :
      (contribution.ownVerdict now entities).isMatch = true ∨
        contribution.printer.alerts {} = []) :
    contribution.ownAlerts now entities =
      contribution.printer.alerts (contribution.ownVerdict now entities).found := by
  unfold ownAlerts
  cases verdict : contribution.ownVerdict now entities with
  | matched highlights => rfl
  | unmatched => exact (quiet.resolve_left (by simp [verdict])).symm
  | fault => exact (quiet.resolve_left (by simp [verdict])).symm

/-- A contribution tells the same by itself when it is keyed for a check. -/
theorem ownAlerts_keyed
    (now : Calendar.Instant)
    (entities : List FieldValues)
    (check : String)
    {contribution : Contribution}
    (plain : contribution.query.IsPlain) :
    (contribution.keyed check).ownAlerts now entities = contribution.ownAlerts now entities := by
  have verdict :
      (contribution.keyed check).ownVerdict now entities =
        (contribution.ownVerdict now entities).keyed check := by
    rw [ownVerdict, ownVerdict, Verdict.keyed_any, List.map_map]
    congr 1
    exact List.map_congr_left fun values _ => evaluate_keyed plain now values check
  rw [ownAlerts, ownAlerts, verdict]
  cases contribution.ownVerdict now entities with
  | matched highlights => exact Printer.alerts_keyed check highlights contribution.printer
  | unmatched => rfl
  | fault => rfl

end Contribution

/-- What a check reports by itself on the entities that satisfy a policy: its own
printer tells of the highlights of its own predicate. -/
def LeafCheck.ownAlerts
    (now : Calendar.Instant)
    (matcher : Matcher)
    (subjects : Subjects)
    (fields : PolicyFields)
    (registry : FieldRegistry)
    (check : LeafCheck) : List Alert :=
  match check.plainContribution? fields registry with
  | .ok (some contribution) =>
      contribution.ownAlerts now
        (contribution.query.kindSet.flatMap (matcher.witnesses now subjects))
  | _ => []

theorem LeafCheck.ownAlerts_eq_nil
    {now : Calendar.Instant}
    {matcher : Matcher}
    {subjects : Subjects}
    {fields : PolicyFields}
    {registry : FieldRegistry}
    {check : LeafCheck}
    (silent : ∀ contribution, check.contribution? fields registry ≠ .ok (some contribution)) :
    check.ownAlerts now matcher subjects fields registry = [] := by
  unfold ownAlerts
  split
  · rename_i contribution run
    exact absurd (contribution?_eq_ok_some_iff.2 ⟨contribution, run, rfl⟩) (silent _)
  · rfl

theorem LeafCheck.ownAlerts_of_contribution?
    {now : Calendar.Instant}
    {matcher : Matcher}
    {subjects : Subjects}
    {fields : PolicyFields}
    {registry : FieldRegistry}
    (isStandard : registry.IsStandard)
    {check : LeafCheck}
    {contribution : Contribution}
    (contributed : check.contribution? fields registry = .ok (some contribution))
    {kind : EntityKind}
    (reads : check.Reads kind) :
    check.ownAlerts now matcher subjects fields registry =
      contribution.ownAlerts now (matcher.witnesses now subjects kind) := by
  have ofKind := reads.kind_eq isStandard contributed
  obtain ⟨plain, run, rfl⟩ := contribution?_eq_ok_some_iff.1 contributed
  have single : plain.query.kindSet = [kind] := by
    apply Query.kindSet_eq_singleton (founded_of_plainContribution? run).populated.fields_ne_nil
    intro field member
    apply ofKind (field.keyed check.name)
    rw [Contribution.keyed, Query.fields_keyed]
    exact List.mem_map_of_mem member
  rw [Contribution.ownAlerts_keyed now _ check.name (isPlain_of_plainContribution? run),
    ownAlerts, run]
  show plain.ownAlerts now _ = _
  rw [single, List.flatMap_singleton]

/-! ## Leaves of a compiled policy -/

/-- Of items with distinct names one alone is collected from if the others give
nothing. -/
theorem flatMap_eq_of_sole
    {β γ : Type}
    {items : List α}
    {name : α → β}
    {collect : α → List γ}
    (distinct : (items.map name).Nodup)
    {item : α}
    (member : item ∈ items)
    (silent : ∀ other ∈ items, name other ≠ name item → collect other = []) :
    items.flatMap collect = collect item := by
  induction items with
  | nil => simp at member
  | cons head items hypothesis =>
      rw [List.map_cons, List.nodup_cons] at distinct
      obtain ⟨first, others⟩ := List.forall_mem_cons.1 silent
      rw [List.flatMap_cons]
      rcases List.mem_cons.1 member with rfl | inItems
      · have none : items.flatMap collect = [] := by
          rw [List.flatMap_eq_nil_iff]
          refine fun other inItems => others other inItems fun same => distinct.1 ?_
          rw [← same]
          exact List.mem_map_of_mem inItems
        rw [none, List.append_nil]
      · have apart : name head ≠ name item := by
          intro same
          apply distinct.1
          rw [same]
          exact List.mem_map_of_mem inItems
        rw [first apart, List.nil_append]
        exact hypothesis distinct.2 inItems others

theorem Verdict.found_of_isMatch_eq_false
    {verdict : Verdict}
    (noMatch : verdict.isMatch = false) :
    verdict.found = {} := by
  cases verdict with
  | matched highlights => simp at noMatch
  | unmatched => rfl
  | fault => rfl

namespace Compiler

variable
  {compiler : Compiler}
  {policy : Policy}
  {fields : PolicyFields}
  {added : List Check}
  {contribution : Contribution}
  {scope : Option Query}
  {queries : KindQueries}
  {policyName : String}
  {printer : Printer}
  {now : Calendar.Instant}
  {subjects : Subjects}

/-- Where the whole predicate matches, a key of one check has the values that its
own predicate finds. -/
theorem Gathers.get_found_leaf
    (gathers : compiler.Gathers policy fields added contribution scope)
    (standardChecks : compiler.checks = Check.standard)
    {values : FieldValues}
    (matched : ((gated scope contribution.query).evaluate now values).isMatch = true)
    {leaf : LeafCheck}
    (inLeaves : leaf ∈ (compiler.tree added).leaves)
    {part : Contribution}
    (leafRun : leaf.contribution? fields compiler.registry = .ok (some part))
    (path : String)
    (unscoped : ∀ query ∈ scope, highlightKey leaf.name path ∉ query.fields.map (·.key)) :
    ((gated scope contribution.query).evaluate now values).found.get
        (highlightKey leaf.name path) =
      (part.query.evaluate now values).found.get (highlightKey leaf.name path) := by
  have outcome := Verdict.eq_matched_found matched
  rw [Query.evaluate_gated] at outcome ⊢
  obtain ⟨-, ownMatch, found⟩ := Verdict.both_eq_matched_iff.1 outcome
  have scopeSilent :
      (Verdict.all (scope.toList.map (Query.evaluate now values))).found.get
        (highlightKey leaf.name path) = [] := by
    apply Verdict.get_found_all_eq_nil
    rw [List.forall_mem_map]
    intro query present
    exact Query.get_found_of_not_mem now values (unscoped query (Option.mem_toList.1 present))
  rw [found, Highlights.get_append, scopeSilent, List.nil_append,
    (gathers.flat_tree standardChecks).get_found gathers.contributed ownMatch,
    Check.contributed, List.flatMap_assoc]
  have silent :
      ∀ other ∈ (compiler.tree added).leaves, other.name ≠ leaf.name →
        (other.contributed fields compiler.registry).flatMap (fun otherPart =>
          (otherPart.query.evaluate now values).found.get (highlightKey leaf.name path)) = [] := by
    intro other inTree different
    rw [List.flatMap_eq_nil_iff]
    intro otherPart contributed
    have otherRun := LeafCheck.mem_contributed_iff.1 contributed
    apply Query.get_found_of_not_mem now values
    intro inKeys
    apply different
    obtain ⟨field, inPart, same⟩ := List.mem_map.1 inKeys
    rw [LeafCheck.key_of_contribution? otherRun inPart] at same
    exact (highlightKey_inj
      (gathers.isKnown_of_standard standardChecks inTree).slash_not_mem_name
      (gathers.isKnown_of_standard standardChecks inLeaves).slash_not_mem_name same).1
  rw [flatMap_eq_of_sole (gathers.names_nodup standardChecks) inLeaves silent]
  simp [LeafCheck.contributed, leafRun]

/-! ## Highlights of the witnesses -/

theorem witnesses_matcher
    {kind : EntityKind}
    (isMatch :
      ((matcher policyName queries printer).kindVerdict now subjects kind).isMatch = true)
    {query : Query}
    (combined : Query.all? (queries.ofKind kind) = some query) :
    (matcher policyName queries printer).witnesses now subjects kind =
      (subjects.values kind).filter fun values => (query.evaluate now values).isMatch := by
  rw [Matcher.witnesses_eq_filter isMatch, predicate_matcher, combined]
  rfl

theorem mem_witnesses_matcher_iff
    {kind : EntityKind}
    (isMatch :
      ((matcher policyName queries printer).kindVerdict now subjects kind).isMatch = true)
    {values : FieldValues} :
    values ∈ (matcher policyName queries printer).witnesses now subjects kind ↔
      values ∈ subjects.values kind ∧
        ∀ conjunct ∈ queries.ofKind kind, (conjunct.evaluate now values).isMatch = true := by
  cases combined : Query.all? (queries.ofKind kind) with
  | none =>
      rw [Matcher.witnesses_eq_filter isMatch, predicate_matcher, combined,
        Query.all?_eq_none_iff.1 combined]
      simp
  | some query =>
      rw [witnesses_matcher isMatch combined, List.mem_filter,
        Query.evaluate_of_all?_eq_some now values combined, Verdict.isMatch_all]
      simp

/-- A kind that agrees highlights what its conjuncts do on every witness, in
order. -/
theorem get_found_kindVerdict_witnesses
    {kind : EntityKind}
    (inhabited : queries.ofKind kind ≠ [])
    (isMatch : ((matcher policyName queries printer).kindVerdict now subjects kind).isMatch)
    (key : String) :
    ((matcher policyName queries printer).kindVerdict now subjects kind).found.get key =
      ((matcher policyName queries printer).witnesses now subjects kind).flatMap fun values =>
        (queries.ofKind kind).flatMap fun conjunct =>
          (conjunct.evaluate now values).found.get key := by
  cases combined : Query.all? (queries.ofKind kind) with
  | none => exact absurd (Query.all?_eq_none_iff.1 combined) inhabited
  | some query =>
      rw [witnesses_matcher isMatch combined]
      rw [kindVerdict_matcher combined] at isMatch ⊢
      obtain ⟨-, -, found⟩ := Verdict.any_eq_matched_iff.1 (Verdict.eq_matched_found isMatch)
      have silent :
          ∀ values ∈ subjects.values kind, (query.evaluate now values).isMatch = false →
            (query.evaluate now values).found.get key = [] := by
        intro values _ noMatch
        rw [Verdict.found_of_isMatch_eq_false noMatch]
        rfl
      rw [found, Highlights.get_concat, List.flatMap_map, List.flatMap_map,
        ← Query.flatMap_filter_of_eq_nil silent]
      apply List.flatMap_congr
      intro values member
      have matched := (List.mem_filter.1 member).2
      rw [Query.evaluate_of_all?_eq_some now values combined] at matched ⊢
      obtain ⟨-, found⟩ := Verdict.all_eq_matched_iff.1 (Verdict.eq_matched_found matched)
      rw [found, Highlights.get_concat, List.flatMap_map, List.flatMap_map]

/-- When every kind agrees, any witness of a kind is part of values by kind that
all conjuncts match. -/
theorem exists_parts_of_mem_witnesses
    (isMatch : ∀ kind,
      ((matcher policyName queries printer).kindVerdict now subjects kind).isMatch = true)
    {kind : EntityKind}
    {values : FieldValues}
    (witness : values ∈ (matcher policyName queries printer).witnesses now subjects kind) :
    ∃ parts : EntityKind → FieldValues, parts kind = values ∧
      (∀ other, (parts other).BelongTo other) ∧
      ∀ other, ∀ conjunct ∈ queries.ofKind other,
        (conjunct.evaluate now (parts other)).isMatch = true := by
  have some (other : EntityKind) :
      ∃ values : FieldValues, values.BelongTo other ∧
        ∀ conjunct ∈ queries.ofKind other, (conjunct.evaluate now values).isMatch = true := by
    rcases satisfied_matcher_iff.1 (Matcher.satisfied_of_isMatch (isMatch other)) with
      none | ⟨values, supplied, each⟩
    · exact ⟨{}, FieldValues.belongTo_empty other, by simp [none]⟩
    · exact ⟨values, Subjects.belongTo_of_mem_values supplied, each⟩
  choose parts belong each using some
  obtain ⟨supplied, witnessed⟩ := (mem_witnesses_matcher_iff (isMatch kind)).1 witness
  refine ⟨Function.update parts kind values, by simp, fun other => ?_, fun other => ?_⟩
  · by_cases same : other = kind
    · subst same
      rw [Function.update_self]
      exact Subjects.belongTo_of_mem_values supplied
    · rw [Function.update_of_ne same]
      exact belong other
  · by_cases same : other = kind
    · subst same
      rw [Function.update_self]
      exact witnessed
    · rw [Function.update_of_ne same]
      exact each other

/-- A leaf of a check is also a leaf of the whole predicate. -/
theorem Gathers.mem_fields_of_leaf
    (gathers : compiler.Gathers policy fields added contribution scope)
    {leaf : LeafCheck}
    (inLeaves : leaf ∈ (compiler.tree added).leaves)
    {part : Contribution}
    (leafRun : leaf.contribution? fields compiler.registry = .ok (some part))
    {field : FieldQuery}
    (member : field ∈ part.query.fields) :
    field ∈ (gated scope contribution.query).fields := by
  rw [Query.fields_gated, Check.fields_of_contribution? gathers.contributed]
  refine List.mem_append_right _ (List.mem_flatMap.2 ⟨part, ?_, member⟩)
  exact Check.mem_contributed_iff.2 ⟨leaf, inLeaves, leafRun⟩

/-! ### One check of a match -/

section Leaf

variable
  {leaf : LeafCheck}
  {part : Contribution}
  {kind : EntityKind}
  (gathers : compiler.Gathers policy fields added contribution scope)
  (isStandard : compiler.registry.IsStandard)
  (standardChecks : compiler.checks = Check.standard)
  (split : (gated scope contribution.query).split? = some queries)
  (isMatch : ∀ kind,
    ((matcher policyName queries printer).kindVerdict now subjects kind).isMatch = true)
  (inLeaves : leaf ∈ (compiler.tree added).leaves)
  (leafRun : leaf.contribution? fields compiler.registry = .ok (some part))

section Reads

variable (reads : leaf.Reads kind)

include gathers isStandard standardChecks split isMatch inLeaves leafRun reads

/-- On a witness a check finds under its keys what all conjuncts of its kind
find there together.  It matches the witness, or it tells of highlights only. -/
theorem Gathers.outcome_on_witness
    {values : FieldValues}
    (witness : values ∈ (matcher policyName queries printer).witnesses now subjects kind) :
    (∀ field ∈ part.query.fields,
        ((queries.ofKind kind).flatMap fun conjunct =>
            (conjunct.evaluate now values).found.get field.key) =
          (part.query.evaluate now values).found.get field.key) ∧
      part.query.evaluate now values ≠ .fault ∧
      ((part.query.evaluate now values).isMatch = true ∨ leaf.IsQuiet) := by
  obtain ⟨parts, rfl, belong, each⟩ := exists_parts_of_mem_witnesses isMatch witness
  -- The whole predicate matches the witness joined with entities of the other kinds.
  have agree :
      (gated scope contribution.query).Agree
        (parts .deployment ++ parts .process ++ parts .image) parts :=
    Query.agree_append (fun _ member => (gathers.registered member).owns isStandard) belong
  have matched :
      ((gated scope contribution.query).evaluate now
        (parts .deployment ++ parts .process ++ parts .image)).isMatch = true :=
    (Query.isMatch_evaluate_iff gathers.populated split agree).2 each
  have alone :
      part.query.evaluate now (parts .deployment ++ parts .process ++ parts .image) =
        part.query.evaluate now (parts kind) := by
    apply Query.evaluate_congr
    intro field member
    rw [agree field (gathers.mem_fields_of_leaf inLeaves leafRun member),
      reads.kind_eq isStandard leafRun field member]
  refine ⟨fun field member => ?_, ?_⟩
  · have inWhole := gathers.mem_fields_of_leaf inLeaves leafRun member
    have ownKind := reads.kind_eq isStandard leafRun field member
    have unscoped :
        ∀ query ∈ scope, highlightKey leaf.name field.path ∉ query.fields.map (·.key) := by
      intro query present inKeys
      obtain ⟨scopeField, inScope, same⟩ := List.mem_map.1 inKeys
      have scopeLeaf := (gathers.scope_madeOf present).of_mem_fields inScope
      have unmarked := scopeLeaf.slash_not_mem_key isStandard
      rw [same] at unmarked
      exact unmarked (slash_mem_highlightKey _ _)
    rw [← alone, LeafCheck.key_of_contribution? leafRun member,
      ← gathers.get_found_leaf standardChecks matched inLeaves leafRun field.path unscoped,
      ← LeafCheck.key_of_contribution? leafRun member]
    refine (Query.get_found_evaluate split agree matched fun other otherMember same => ?_).symm
    rw [← ownKind]
    exact gathers.kind_eq_of_key_eq isStandard otherMember inWhole same
  · rw [← alone]
    have ownMatch : (contribution.query.evaluate now
        (parts .deployment ++ parts .process ++ parts .image)).isMatch = true := by
      rw [Query.evaluate_gated, Verdict.isMatch_both, Bool.and_eq_true] at matched
      exact matched.2
    exact (gathers.flat_tree standardChecks).isMatch_or_isQuiet gathers.contributed ownMatch
      inLeaves leafRun

/-- The ages of a check can be compared on every witness. -/
theorem Gathers.fault_not_mem_witnesses :
    Verdict.fault ∉ ((matcher policyName queries printer).witnesses now subjects kind).map
      fun values => part.query.evaluate now values := by
  intro isFault
  obtain ⟨values, witness, fault⟩ := List.mem_map.1 isFault
  exact (gathers.outcome_on_witness isStandard standardChecks split isMatch inLeaves leafRun
    reads witness).2.1 fault

/-- What a match highlights under a key of a check is what the predicate of the
check highlights there by itself. -/
theorem Gathers.get_found_eq_ownVerdict
    {field : FieldQuery}
    (member : field ∈ part.query.fields) :
    ((matcher policyName queries printer).found now subjects).get field.key =
      (part.ownVerdict now
        ((matcher policyName queries printer).witnesses now subjects kind)).found.get
          field.key := by
  have inWhole := gathers.mem_fields_of_leaf inLeaves leafRun member
  have ownKind := reads.kind_eq isStandard leafRun field member
  have unused :
      ∀ other, other ≠ kind → ∀ query,
        (matcher policyName queries printer).predicate other = some query →
          field.key ∉ query.fields.map (·.key) := by
    intro other different query present inKeys
    obtain ⟨foreign, inQuery, same⟩ := List.mem_map.1 inKeys
    obtain ⟨foreignWhole, foreignKind⟩ := mem_fields_of_predicate split present inQuery
    have sameKind := gathers.kind_eq_of_key_eq isStandard foreignWhole inWhole same
    exact different (foreignKind.symm.trans (sameKind.trans ownKind))
  have inhabited : queries.ofKind kind ≠ [] := by
    rw [← ownKind]
    exact Query.ofKind_ne_nil_of_mem_fields split inWhole
  have sound := gathers.fault_not_mem_witnesses isStandard standardChecks split isMatch inLeaves
    leafRun reads
  rw [Matcher.get_found_of_unused unused,
    get_found_kindVerdict_witnesses inhabited (isMatch kind), Contribution.ownVerdict,
    Verdict.found_any sound, Highlights.get_concat, List.flatMap_map, List.flatMap_map]
  apply List.flatMap_congr
  intro values witness
  exact (gathers.outcome_on_witness isStandard standardChecks split isMatch inLeaves leafRun
    reads witness).1 field member

/-- A check that does not match any witness tells of highlights only. -/
theorem Gathers.isMatch_ownVerdict_or_isQuiet :
    (part.ownVerdict now
        ((matcher policyName queries printer).witnesses now subjects kind)).isMatch = true ∨
      leaf.IsQuiet := by
  obtain ⟨field, member⟩ :=
    List.exists_mem_of_ne_nil _ (LeafCheck.founded_of_contribution? leafRun).populated.fields_ne_nil
  have inhabited : queries.ofKind kind ≠ [] := by
    rw [← reads.kind_eq isStandard leafRun field member]
    exact Query.ofKind_ne_nil_of_mem_fields split
      (gathers.mem_fields_of_leaf inLeaves leafRun member)
  obtain ⟨witness, inWitnesses⟩ :
      ∃ values, values ∈ (matcher policyName queries printer).witnesses now subjects kind := by
    rcases satisfied_matcher_iff.1 (Matcher.satisfied_of_isMatch (isMatch kind)) with
      none | ⟨values, supplied, each⟩
    · exact absurd none inhabited
    · exact ⟨values, (mem_witnesses_matcher_iff (isMatch kind)).2 ⟨supplied, each⟩⟩
  obtain ⟨-, -, outcome⟩ :=
    gathers.outcome_on_witness isStandard standardChecks split isMatch inLeaves leafRun reads
      inWitnesses
  apply outcome.imp_left
  intro matched
  have sound := gathers.fault_not_mem_witnesses isStandard standardChecks split isMatch inLeaves
    leafRun reads
  rw [Contribution.ownVerdict, Verdict.isMatch_any sound, List.any_eq_true]
  exact ⟨_, List.mem_map_of_mem inWitnesses, matched⟩

end Reads

include gathers isStandard standardChecks split isMatch inLeaves leafRun

/-- The printer of a check tells of a match what the check reports by itself. -/
theorem Gathers.alerts_leaf :
    part.printer.alerts ((matcher policyName queries printer).found now subjects) =
      leaf.ownAlerts now (matcher policyName queries printer) subjects fields
        compiler.registry := by
  obtain ⟨kind, reads⟩ := (gathers.isKnown_of_standard standardChecks inLeaves).exists_reads
  have found {key : String} (member : key ∈ part.printer.keys) :
      ((matcher policyName queries printer).found now subjects).get key =
        (part.ownVerdict now
          ((matcher policyName queries printer).witnesses now subjects kind)).found.get key := by
    obtain ⟨field, inPart, rfl⟩ := LeafCheck.exists_field_of_mem_keyed_keys leafRun member
    exact gathers.get_found_eq_ownVerdict isStandard standardChecks split isMatch inLeaves
      leafRun reads inPart
  have own := gathers.isMatch_ownVerdict_or_isQuiet isStandard standardChecks split isMatch inLeaves
    leafRun reads
  have quiet := own.imp_right fun isQuiet => isQuiet fields compiler.registry part leafRun
  rw [LeafCheck.ownAlerts_of_contribution? isStandard leafRun reads,
    Contribution.ownAlerts_eq_alerts quiet]
  exact Printer.alerts_congr fun key member => found member

end Leaf

/-! ## Independence -/

/-- The alerts of a match are those of the checks by themselves, in order, each on
the entities that satisfied the policy.  The scope adds none. -/
theorem run_reports_independently
    {compiler : Compiler}
    {policy : Policy}
    {matcher : Matcher}
    (isStandard : compiler.registry.IsStandard)
    (standardChecks : compiler.checks = Check.standard)
    (compiled : compiler.compile policy = .ok matcher)
    {now : Calendar.Instant}
    {subjects : Subjects}
    {violations : Violations}
    (ran : matcher.run now subjects = .ok violations)
    (reported : violations.isEmpty = false) :
    ∃ fields added,
      policy.fields = some fields ∧
        compiler.permissionChecks policy.name fields = .ok added ∧
        violations.alerts =
          (Check.leavesOfAll (Check.standard ++ added)).flatMap fun check =>
            check.ownAlerts now matcher subjects fields compiler.registry := by
  obtain ⟨fields, added, contribution, scope, queries, gathers, split, rfl⟩ :=
    exists_gathers_of_compile_eq_ok compiled
  obtain ⟨highlights, matched, rfl⟩ := Matcher.exists_highlights_of_run_eq_ok ran reported
  obtain ⟨isMatch, rfl⟩ := Matcher.verdict_eq_matched_iff.1 matched
  refine ⟨fields, added, fields_of_constraints gathers.constrained, gathers.permitted, ?_⟩
  have leaves :
      (compiler.tree added).leaves = Check.leavesOfAll (Check.standard ++ added) := by
    rw [tree, Check.leaves_all, standardChecks]
  rw [← leaves]
  calc
    contribution.printer.alerts
        ((Compiler.matcher policy.name queries contribution.printer).found now subjects)
    _ = ((compiler.tree added).contributed fields compiler.registry).flatMap fun part =>
          part.printer.alerts
            ((Compiler.matcher policy.name queries contribution.printer).found now subjects) :=
      Check.alerts_of_contribution? gathers.contributed _
    _ = _ := by
      rw [Check.contributed, List.flatMap_assoc]
      apply List.flatMap_congr
      intro leaf inLeaves
      by_cases speaks : ∃ part, leaf.contribution? fields compiler.registry = .ok (some part)
      · obtain ⟨part, leafRun⟩ := speaks
        rw [LeafCheck.contributed_of_contribution? leafRun, List.flatMap_singleton]
        exact gathers.alerts_leaf isStandard standardChecks split isMatch inLeaves leafRun
      · have silent := not_exists.1 speaks
        have none : leaf.contributed fields compiler.registry = [] :=
          List.eq_nil_iff_forall_not_mem.2 fun part member =>
            silent part (LeafCheck.mem_contributed_iff.1 member)
        rw [none, LeafCheck.ownAlerts_eq_nil silent, List.flatMap_nil]

/-- Constraints on the identifiers of vulnerabilities and on their scores, of which each
is told together with an identifier. -/
def scoredVulnerabilities : PolicyFields where
  cve := some "1|2"
  cvss := some { comparator := .greaterThanOrEquals, value := 7.0 }

/-- Three images, of which the second one has no vulnerability with a high score. -/
def scoredImages : List Image :=
  [.vulnerable [{ cve := "1", cvss := 7.5, link := "db/1" }, { cve := "3", cvss := 9.0 }],
    .vulnerable [{ cve := "2", cvss := 5.0 }],
    .vulnerable [{ cve := "2", cvss := 4.0 }, { cve := "4", cvss := 8.0 }]]

/-- What the first and the last of them are told of. -/
def scoredAlerts : List Alert :=
  [{ message := "CVE 1 matched regex '1|2'", link := some "db/1" },
    { message := "CVE 2 matched regex '1|2'" },
    { message := "Found a CVSS score of 7.5 (greater than or equal to 7.0) (cve: 1)" },
    { message := "Found a CVSS score of 9 (greater than or equal to 7.0) (cve: 3)" },
    { message := "Found a CVSS score of 8 (greater than or equal to 7.0) (cve: 4)" }]

/-- Two checks read the identifiers, each of its own rows, and neither tells of the image
that does not satisfy both. -/
theorem run_reports_independently_of_scored :
    ∃ matcher,
      ({ registry := .standard } : Compiler).compile
          { name := "scored", fields := some scoredVulnerabilities } = .ok matcher ∧
      ∃ violations,
        matcher.run Check.newYear { images := scoredImages } = .ok violations ∧
        violations.isEmpty = false ∧
        violations.alerts = scoredAlerts ∧
        violations.alerts =
          (Check.leavesOfAll Check.standard).flatMap fun check =>
            check.ownAlerts Check.newYear matcher { images := scoredImages }
              scoredVulnerabilities .standard := by
  obtain ⟨matcher, compiled, ran⟩ :=
    @exists_run_of_outcome?_eq_some { registry := .standard }
      { name := "scored", fields := some scoredVulnerabilities } Check.newYear
      { images := scoredImages } (.ok { alerts := scoredAlerts }) (by decide +kernel)
  refine ⟨matcher, compiled, _, ran, rfl, rfl, ?_⟩
  obtain ⟨fields, added, present, permitted, alerts⟩ :=
    run_reports_independently FieldRegistry.isStandard_standard rfl compiled ran rfl
  cases present
  cases permitted
  rw [List.append_nil] at alerts
  exact alerts

end Compiler
end WorkloadPolicy
