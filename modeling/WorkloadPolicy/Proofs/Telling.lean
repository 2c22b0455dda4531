import WorkloadPolicy.Proofs.Levels
import WorkloadPolicy.Proofs.Unsplit

/-!
# No match goes untold

A printer tells something about a match whatever the tree of checks: a matched
predicate leaves highlights, or its printer gives a fixed message, in every
conjunct and in some branch of every disjunction, and the highlights of linked
leaves are level.  A compiled policy is therefore never silent, and it reports
nothing only if some predicate is not satisfied.
-/

namespace WorkloadPolicy

/-- Different labels have different paths. -/
def FieldRegistry.HasDistinctPaths (registry : FieldRegistry) : Prop :=
  ∀ label other metadata otherMetadata,
    registry.lookup label = some metadata → registry.lookup other = some otherMetadata →
      metadata.path = otherMetadata.path → label = other

/-- The standard registry has distinct paths, also without some of its fields. -/
theorem FieldRegistry.IsStandard.hasDistinctPaths
    {registry : FieldRegistry}
    (isStandard : registry.IsStandard) :
    registry.HasDistinctPaths := by
  intro label other metadata otherMetadata found otherFound same
  rw [isStandard _ _ found, isStandard _ _ otherFound] at same
  exact FieldLabel.path_metadata_injective same

/-! ## Shown predicates -/

/-- Highlights cover others that have values under no further keys. -/
def Highlights.Covers (shown found : Highlights) : Prop :=
  ∀ key, found.get key ≠ [] → shown.get key ≠ []

theorem Highlights.Covers.concat
    {shown : Highlights}
    {parts : List Highlights}
    (covers : shown.Covers (.concat parts))
    {part : Highlights}
    (member : part ∈ parts) :
    shown.Covers part := by
  intro key present
  apply covers key
  rw [get_concat, Ne, List.flatMap_eq_nil_iff]
  exact fun none => present (none part member)

namespace Query

/-- Every conjunct of a predicate has matched somewhere, with highlights that
are covered. -/
def Shown (now : Calendar.Instant) (shown : Highlights) (query : Query) : Prop :=
  ∀ conjunct ∈ query.conjuncts, ∃ values,
    (evaluate now values conjunct).isMatch = true ∧
      shown.Covers (evaluate now values conjunct).found

namespace Shown

variable {now : Calendar.Instant} {shown : Highlights} {query : Query}

/-- A predicate that has matched as a whole is shown. -/
theorem of_isMatch
    {values : FieldValues}
    (isMatch : (evaluate now values query).isMatch = true)
    (covers : shown.Covers (evaluate now values query).found) :
    query.Shown now shown := by
  rw [evaluate_eq_all_conjuncts] at isMatch covers
  obtain ⟨each, found⟩ := Verdict.all_eq_matched_iff.1 (Verdict.eq_matched_found isMatch)
  rw [found] at covers
  intro conjunct member
  exact ⟨values, each _ (List.mem_map_of_mem member),
    covers.concat (List.mem_map_of_mem (List.mem_map_of_mem member))⟩

theorem of_all?_eq_some
    {queries : List Query}
    (combined : all? queries = some query)
    (isShown : query.Shown now shown) :
    ∀ part ∈ queries, part.Shown now shown := by
  intro part member conjunct inPart
  apply isShown conjunct
  rw [conjuncts_of_all?_eq_some combined]
  exact List.mem_flatMap.2 ⟨part, member, inPart⟩

/-- A disjunction that is shown has a branch that is shown. -/
theorem of_any?_eq_some
    {queries : List Query}
    (combined : any? queries = some query)
    (isShown : query.Shown now shown) :
    ∃ part ∈ queries, part.Shown now shown := by
  match queries, combined with
  | [_], rfl => exact ⟨_, by simp, isShown⟩
  | first :: second :: others, rfl =>
      obtain ⟨values, isMatch, covers⟩ := isShown _ (List.mem_singleton_self _)
      rw [evaluate_disjunction] at isMatch covers
      obtain ⟨-, ⟨verdict, member, matched⟩, found⟩ :=
        Verdict.any_eq_matched_iff.1 (Verdict.eq_matched_found isMatch)
      rw [found] at covers
      obtain ⟨part, inQueries, rfl⟩ := List.mem_map.1 member
      exact ⟨part, inQueries,
        .of_isMatch matched (covers.concat (List.mem_map_of_mem member))⟩

end Shown
end Query

/-! ## Leaves are told of -/

/-- A leaf that highlights what it matches does so under its key. -/
theorem FieldQuery.get_found_ne_nil
    {now : Calendar.Instant}
    {field : FieldQuery}
    {values : List String}
    (highlights : field.operation.highlights = true)
    (isMatch : (field.evaluate now values).isMatch = true) :
    (field.evaluate now values).found.get field.key ≠ [] := by
  have matched := Verdict.eq_matched_found isMatch
  generalize (field.evaluate now values).found = found at matched ⊢
  unfold evaluate at matched
  split at matched
  · rename_i missing
    simp [missing, Operation.highlights] at highlights
  · split at matched
    · cases matched
      simp
    · simp at matched
  · rename_i absent
    simp [absent, Operation.highlights] at highlights
  · split at matched
    · simp at matched
    · split at matched
      · simp at matched
      · rename_i several
        cases matched
        simpa using several

/-- A leaf that highlights what it matches matches nothing where there are no values. -/
theorem FieldQuery.ne_nil_of_isMatch
    {now : Calendar.Instant}
    {field : FieldQuery}
    {values : List String}
    (highlights : field.operation.highlights = true)
    (isMatch : (field.evaluate now values).isMatch = true) :
    values ≠ [] := by
  rintro rfl
  have found := get_found_ne_nil highlights isMatch
  rw [found_of_no_values] at found
  exact found (Highlights.get_empty _)

/-- Linked leaves that match highlight something under each of their keys. -/
theorem get_found_evaluateRows_ne_nil
    {now : Calendar.Instant}
    {fields : List FieldQuery}
    {values : FieldValues}
    (distinct : (fields.map (·.key)).Nodup)
    (isMatch : (evaluateRows now (LinkedRow.ofFields fields values)).isMatch = true)
    {key : String}
    (member : key ∈ fields.map (·.key)) :
    (evaluateRows now (LinkedRow.ofFields fields values)).found.get key ≠ [] := by
  have sound : evaluateRows now (LinkedRow.ofFields fields values) ≠ .fault := by
    intro isFault
    simp [isFault] at isMatch
  have hits :
      ((LinkedRow.ofFields fields values).filter fun row => row.test now == some true) ≠
        [] := by
    intro none
    unfold evaluateRows at isMatch
    split at isMatch
    · simp at isMatch
    · simp [none] at isMatch
  rw [← List.length_pos_iff, length_get_found_evaluateRows distinct sound member,
    List.length_pos_iff]
  exact hits

/-- The paths of linked leaves are distinct if those of labels are. -/
theorem LinkedDemand.Served.paths_nodup
    {demand : LinkedDemand}
    {registry : FieldRegistry}
    {contribution : Contribution}
    {fields : List FieldQuery}
    (served : demand.Served registry contribution fields)
    (distinct : registry.HasDistinctPaths) :
    (fields.map (·.path)).Nodup := by
  have labels : (fields.map (·.label)).Nodup := by
    rw [served.labels]
    exact demand.labels_nodup
  refine List.Nodup.map_on ?_ (List.Nodup.of_map _ labels)
  intro field member other otherMember samePath
  obtain ⟨metadata, found, path, -⟩ := served.registered field member
  obtain ⟨otherMetadata, otherFound, otherPath, -⟩ := served.registered other otherMember
  apply List.inj_on_of_nodup_map labels member otherMember
  exact distinct _ _ _ _ found otherFound (by rw [← path, ← otherPath, samePath])

section Keyed

variable
  {demand : LinkedDemand}
  {registry : FieldRegistry}
  {contribution : Contribution}
  {fields : List FieldQuery}
  (served : demand.Served registry contribution fields)
  (check : String)

include served

theorem LinkedDemand.Served.query_keyed :
    (contribution.keyed check).query = .linked (fields.map (·.keyed check)) := by
  rw [Contribution.keyed, served.query, Query.keyed_linked]

/-- A keyed printer reads the keys of the keyed leaves, in order. -/
theorem LinkedDemand.Served.printer_keyed :
    (contribution.keyed check).printer =
      .linked ((fields.map (·.keyed check)).map (·.key)) demand.template := by
  rw [Contribution.keyed, served.printer, Printer.keyed, List.map_map, List.map_map]
  rfl

/-- The keys that a check gives to linked leaves are distinct. -/
theorem LinkedDemand.Served.keys_nodup (distinct : registry.HasDistinctPaths) :
    ((fields.map (·.keyed check)).map (·.key)).Nodup := by
  have keys :
      (fields.map (·.keyed check)).map (·.key) = (fields.map (·.path)).map (highlightKey check) := by
    rw [List.map_map, List.map_map]
    rfl
  rw [keys]
  exact (served.paths_nodup distinct).map (highlightKey_right_injective check)

end Keyed

/-- A leaf whose predicate is shown is told of. -/
theorem LeafCheck.alerts_ne_nil
    {check : LeafCheck}
    {fields : PolicyFields}
    {registry : FieldRegistry}
    {contribution : Contribution}
    (contributed : check.contribution? fields registry = .ok (some contribution))
    (distinct : registry.HasDistinctPaths)
    {now : Calendar.Instant}
    {shown : Highlights}
    (level : ∀ group ∈ contribution.query.groups, shown.Level (group.map (·.key)))
    (isShown : contribution.query.Shown now shown) :
    contribution.printer.alerts shown ≠ [] := by
  obtain ⟨plain, run, rfl⟩ := contribution?_eq_ok_some_iff.1 contributed
  cases check with
  | field check =>
      obtain ⟨demand, metadata, operations, -, -, served⟩ := served_of_field_contributed run
      rcases served.printer with ⟨message, printer⟩ | ⟨⟨template, printer⟩, highlights⟩
      · simp [Contribution.keyed, printer, Printer.keyed, Printer.alerts]
      · have combined := Query.any?_map_keyed check.name served.query
        rw [List.map_map] at combined
        obtain ⟨part, member, partShown⟩ := isShown.of_any?_eq_some combined
        obtain ⟨operation, inOperations, rfl⟩ := List.mem_map.1 member
        obtain ⟨values, isMatch, covers⟩ := partShown _ (List.mem_singleton_self _)
        have leafHighlights :
            ((FieldQuery.ofField check.label metadata operation).keyed
              check.name).operation.highlights = true :=
          highlights operation inOperations
        have found := FieldQuery.get_found_ne_nil leafHighlights isMatch
        simp only [Contribution.keyed, printer, Printer.keyed, Printer.alerts, Ne,
          FieldTemplate.alerts_eq_nil_iff]
        exact covers _ found
  | linked check =>
      obtain ⟨demand, leaves, -, served⟩ := served_of_linked_contributed run
      have linkedShown : (plain.keyed check.name).query.Shown now shown := isShown
      have linkedLevel :
          ∀ group ∈ (plain.keyed check.name).query.groups,
            shown.Level (group.map (·.key)) := level
      rw [served.query_keyed] at linkedShown linkedLevel
      obtain ⟨values, isMatch, covers⟩ := linkedShown _ (List.mem_singleton_self _)
      show (plain.keyed check.name).printer.alerts shown ≠ []
      rw [served.printer_keyed]
      refine Printer.alerts_linked_ne_nil demand.speaks (by simpa using served.fields_ne_nil)
        (linkedLevel _ (List.mem_singleton_self _)) fun key member => covers key ?_
      exact get_found_evaluateRows_ne_nil (served.keys_nodup check.name distinct) isMatch member
  | permission store =>
      obtain ⟨accountFields, -, -, message, printer⟩ := served_of_permission_contributed run
      simp [Contribution.keyed, printer, Printer.keyed, Printer.alerts]

/-- A tree whose predicate is shown is told of. -/
theorem Check.alerts_ne_nil
    {check : Check}
    {fields : PolicyFields}
    {registry : FieldRegistry}
    {contribution : Contribution}
    (contributed : check.contribution? fields registry = .ok (some contribution))
    (distinct : registry.HasDistinctPaths)
    {now : Calendar.Instant}
    {shown : Highlights}
    (level : ∀ group ∈ contribution.query.groups, shown.Level (group.map (·.key)))
    (isShown : contribution.query.Shown now shown) :
    contribution.printer.alerts shown ≠ [] := by
  refine contribution_induction
    (motive := fun part =>
      (∀ group ∈ part.query.groups, shown.Level (group.map (·.key))) →
        part.query.Shown now shown → part.printer.alerts shown ≠ [])
    ?_ ?_ ?_ contributed level isShown
  · intro leaf _ part leafRun partLevel partShown
    exact LeafCheck.alerts_ne_nil leafRun distinct partLevel partShown
  · intro parts whole combined hypothesis wholeLevel wholeShown
    have both := Contribution.Combined.all combined
    obtain ⟨part, member⟩ := List.exists_mem_of_ne_nil _ both.ne_nil
    have partShown :=
      wholeShown.of_all?_eq_some (Contribution.combined?_eq_some_iff.1 combined).1 part.query
        (List.mem_map_of_mem member)
    apply both.alerts_ne_nil member
    apply hypothesis part member _ partShown
    exact fun group inPart => wholeLevel group (both.mem_groups member inPart)
  · intro parts whole combined hypothesis wholeLevel wholeShown
    obtain ⟨query, inQueries, partShown⟩ :=
      wholeShown.of_any?_eq_some (Contribution.combined?_eq_some_iff.1 combined).1
    obtain ⟨part, member, rfl⟩ := List.mem_map.1 inQueries
    have either := Contribution.Combined.any combined
    apply either.alerts_ne_nil member
    apply hypothesis part member _ partShown
    exact fun group inPart => wholeLevel group (either.mem_groups member inPart)

/-! ## Compiled policies are told of -/

namespace Compiler

variable
  {compiler : Compiler}
  {policy : Policy}
  {fields : PolicyFields}
  {added : List Check}
  {contribution : Contribution}
  {scope : Option Query}
  {queries : KindQueries}
  {policyName : String}
  {printer : Printer}
  {now : Calendar.Instant}
  {subjects : Subjects}

/-- The checks of a compiler are standard checks and permission checks, in any
trees. -/
def IsKnown (compiler : Compiler) : Prop :=
  ∀ leaf ∈ Check.leavesOfAll compiler.checks, leaf.IsKnown

/-! ### Keys of linked leaves -/

/-- A compiled policy may ask a leaf: one of the compiler's own or a permission check,
which an attached store adds. -/
def HasLeaf (compiler : Compiler) (leaf : LeafCheck) : Prop :=
  leaf ∈ Check.leavesOfAll compiler.checks ∨ ∃ store, leaf = .permission store

/-- No other leaf has the name of a linked leaf. -/
def HasUniqueLinkedNames (compiler : Compiler) : Prop :=
  ∀ check leaf, compiler.HasLeaf (.linked check) → compiler.HasLeaf leaf →
    leaf.name = check.name → leaf = .linked check

/-- No other leaf highlights anything under a key of a linked leaf. -/
def LinksApart (compiler : Compiler) : Prop :=
  ∀ check leaf, compiler.HasLeaf (.linked check) → compiler.HasLeaf leaf →
    leaf ≠ .linked check → ∀ own foreign : FieldQuery,
      own.IsRegistered compiler.registry → foreign.IsRegistered compiler.registry →
        highlightKey check.name own.path ≠ highlightKey leaf.name foreign.path

theorem IsKnown.isKnown_of_hasLeaf
    (known : compiler.IsKnown)
    {leaf : LeafCheck}
    (has : compiler.HasLeaf leaf) :
    leaf.IsKnown := by
  rcases has with inChecks | permission
  · exact known leaf inChecks
  · exact .inr permission

/-- Known checks have names that tell linked ones from all others. -/
theorem IsKnown.hasUniqueLinkedNames (known : compiler.IsKnown) :
    compiler.HasUniqueLinkedNames := by
  intro check leaf hasLink hasLeaf same
  rcases (known.isKnown_of_hasLeaf hasLeaf).eq_of_name_eq (known.isKnown_of_hasLeaf hasLink)
    same with equal | ⟨-, store, permission⟩
  · exact equal
  · simp at permission

/-- The names of known checks have no slash, which keeps their keys apart whatever
the paths. -/
theorem IsKnown.linksApart (known : compiler.IsKnown) : compiler.LinksApart := by
  intro check leaf hasLink hasLeaf different own foreign _ _ equal
  have ownUnmarked := (known.isKnown_of_hasLeaf hasLink).slash_not_mem_name
  have unmarked := (known.isKnown_of_hasLeaf hasLeaf).slash_not_mem_name
  exact different (known.hasUniqueLinkedNames check leaf hasLink hasLeaf
    (highlightKey_inj ownUnmarked unmarked equal).1.symm)

/-- Standard paths have no slash, which keeps the keys of other names apart whatever
these are. -/
theorem HasUniqueLinkedNames.linksApart
    (unique : compiler.HasUniqueLinkedNames)
    (isStandard : compiler.registry.IsStandard) :
    compiler.LinksApart := by
  intro check leaf hasLink hasLeaf different own foreign registered foreignRegistered equal
  have samePath :=
    path_of_highlightKey_eq (registered.owns isStandard).2 (foreignRegistered.owns isStandard).2
      equal
  rw [samePath] at equal
  exact different
    (unique check leaf hasLink hasLeaf (highlightKey_left_injective _ equal).symm)

theorem Gathers.hasLeaf_of_mem_leaves
    (gathers : compiler.Gathers policy fields added contribution scope)
    {leaf : LeafCheck}
    (member : leaf ∈ (compiler.tree added).leaves) :
    compiler.HasLeaf leaf := by
  rw [leaves_tree, List.mem_append] at member
  rcases member with inChecks | inAdded
  · exact .inl inChecks
  · exact .inr (exists_store_of_mem_permissionChecks gathers.permitted inAdded)

/-! ### What a run highlights is level -/

/-- On values of one kind of entity every group of leaves spares the keys of a
linked check. -/
theorem Gathers.spares
    (gathers : compiler.Gathers policy fields added contribution scope)
    (apart : compiler.LinksApart)
    {check : LinkedCheck}
    (isLeaf : .linked check ∈ (compiler.tree added).leaves)
    {part : Contribution}
    (contributed :
      (LeafCheck.linked check).contribution? fields compiler.registry = .ok (some part))
    {group : List FieldQuery}
    (ofPart : part.query.groups = [group])
    {kind : EntityKind}
    {values : FieldValues}
    (belong : values.BelongTo kind)
    {other : List FieldQuery}
    (member : other ∈ (gated scope contribution.query).groups) :
    Query.Spares values (group.map (·.key)) other := by
  have ofGroup : ∀ field ∈ group, field ∈ part.query.fields := by
    intro field inGroup
    rw [Query.fields, ofPart]
    simpa using inGroup
  have keyed : ∀ field ∈ group, field.key = highlightKey check.name field.path :=
    fun field inGroup => LeafCheck.key_of_contribution? contributed (ofGroup field inGroup)
  rw [Query.groups_gated, List.mem_append, List.mem_flatMap] at member
  rcases member with ⟨query, present, inScope⟩ | inChecks
  · -- A scope leaf stands under its path, which is a key only where no entity has values.
    obtain ⟨field, rfl, scopeLeaf⟩ :=
      (gathers.scope_madeOf (Option.mem_toList.1 present)).single other inScope
    by_cases shared : field.key ∈ group.map (·.key)
    · refine .idle field rfl ?_
      by_contra present
      obtain ⟨own, inGroup, same⟩ := List.mem_map.1 shared
      have unmarked := (belong.owns_of_get_ne_nil present).2
      rw [← scopeLeaf.key_eq, ← same, keyed own inGroup] at unmarked
      exact unmarked (slash_mem_highlightKey _ _)
    · refine .foreign fun single inSingle => ?_
      rw [List.mem_singleton.1 inSingle]
      exact shared
  · obtain ⟨leaf, inLeaves, otherPart, leafRun, inPart⟩ :=
      Check.exists_leaf_of_mem_groups gathers.contributed inChecks
    by_cases same : leaf = .linked check
    · subst same
      rw [contributed] at leafRun
      cases leafRun
      rw [ofPart, List.mem_singleton] at inPart
      exact .own (by rw [inPart])
    · refine .foreign fun field inOther inKeys => ?_
      obtain ⟨own, inGroup, equal⟩ := List.mem_map.1 inKeys
      have inFields : field ∈ otherPart.query.fields := List.mem_flatten.2 ⟨other, inPart, inOther⟩
      rw [keyed own inGroup, LeafCheck.key_of_contribution? leafRun inFields] at equal
      exact apart check leaf (gathers.hasLeaf_of_mem_leaves isLeaf)
        (gathers.hasLeaf_of_mem_leaves inLeaves) same own field
        ((LeafCheck.founded_of_contribution? contributed).registered own (ofGroup own inGroup))
        ((LeafCheck.founded_of_contribution? leafRun).registered field inFields) equal

theorem mem_groups_of_predicate
    {query whole : Query}
    (split : whole.split? = some queries)
    {kind : EntityKind}
    (present : (matcher policyName queries printer).predicate kind = some query)
    {group : List FieldQuery}
    (member : group ∈ query.groups) :
    group ∈ whole.groups := by
  rw [predicate_matcher] at present
  rw [Query.groups_of_all?_eq_some present, List.mem_flatMap] at member
  obtain ⟨conjunct, inKind, inConjunct⟩ := member
  rw [Query.groups_eq_flatMap_conjuncts]
  exact List.mem_flatMap.2 ⟨conjunct, ((Query.mem_ofKind_iff split).1 inKind).1, inConjunct⟩

/-- What an entity adds to a run is level under the keys of every group of leaves that a
check tests together. -/
theorem Gathers.level_evaluate
    (gathers : compiler.Gathers policy fields added contribution scope)
    (apart : compiler.LinksApart)
    (distinct : compiler.registry.HasDistinctPaths)
    (split : (gated scope contribution.query).split? = some queries)
    {group : List FieldQuery}
    (member : group ∈ contribution.query.groups)
    {kind : EntityKind}
    {query : Query}
    (present : (matcher policyName queries printer).predicate kind = some query)
    {values : FieldValues}
    (belong : values.BelongTo kind) :
    (query.evaluate now values).found.Level (group.map (·.key)) := by
  obtain ⟨leaf, inLeaves, part, leafRun, inPart⟩ :=
    Check.exists_leaf_of_mem_groups gathers.contributed member
  obtain ⟨plain, run, rfl⟩ := LeafCheck.contribution?_eq_ok_some_iff.1 leafRun
  have keyedGroups :
      (plain.keyed leaf.name).query.groups =
        plain.query.groups.map (List.map (·.keyed leaf.name)) :=
    Query.groups_keyed leaf.name plain.query
  rw [keyedGroups, List.mem_map] at inPart
  obtain ⟨bare, inPlain, rfl⟩ := inPart
  rcases LeafCheck.groups_of_plainContribution? run with
    ⟨check, demand, leaves, rfl, only, served⟩ | single
  · rw [only, List.mem_singleton] at inPlain
    subst inPlain
    rw [only, List.map_singleton] at keyedGroups
    apply Query.level_found (served.keys_nodup check.name distinct)
    intro other inQuery
    exact gathers.spares apart inLeaves leafRun keyedGroups belong
      (mem_groups_of_predicate split present inQuery)
  · obtain ⟨field, rfl⟩ := single bare inPlain
    exact .singleton _ _

/-- What a match highlights is level under the keys of every group of leaves
that a check tests together. -/
theorem Gathers.level
    (gathers : compiler.Gathers policy fields added contribution scope)
    (apart : compiler.LinksApart)
    (distinct : compiler.registry.HasDistinctPaths)
    (split : (gated scope contribution.query).split? = some queries)
    {group : List FieldQuery}
    (member : group ∈ contribution.query.groups) :
    ((matcher policyName queries printer).found now subjects).Level (group.map (·.key)) := by
  have each (kind : EntityKind) :
      ((matcher policyName queries printer).kindVerdict now subjects kind).found.Level
        (group.map (·.key)) := by
    cases present : (matcher policyName queries printer).predicate kind with
    | none =>
        rw [Matcher.kindVerdict_of_none present]
        exact .empty _
    | some query =>
        rw [Matcher.kindVerdict_of_some present]
        apply Verdict.level_found_any
        rw [List.forall_mem_map]
        intro values supplied
        exact gathers.level_evaluate apart distinct split member present
          (Subjects.belongTo_of_mem_values supplied)
  exact (each .process).append ((each .deployment).append (each .image))

/-- When every kind agrees, every conjunct has matched somewhere, with highlights
that the run covers. -/
theorem shown_found
    {whole : Query}
    (populated : whole.Populated)
    (split : whole.split? = some queries)
    (isMatch : ∀ kind,
      ((matcher policyName queries printer).kindVerdict now subjects kind).isMatch = true) :
    whole.Shown now ((matcher policyName queries printer).found now subjects) := by
  intro conjunct member
  obtain ⟨kind, single⟩ := populated.kindSet_of_split?_eq_some split member
  have inKind : conjunct ∈ queries.ofKind kind :=
    (Query.mem_ofKind_iff split).2 ⟨member, single⟩
  have kindCovered :
      ((matcher policyName queries printer).found now subjects).Covers
        ((matcher policyName queries printer).kindVerdict now subjects kind).found := by
    intro key present
    rw [Matcher.found, Highlights.get_append, Highlights.get_append]
    cases kind <;> simp [present]
  cases combined : Query.all? (queries.ofKind kind) with
  | none =>
      rw [Query.all?_eq_none_iff.1 combined] at inKind
      simp at inKind
  | some query =>
      have kindMatch := isMatch kind
      rw [kindVerdict_matcher combined] at kindMatch kindCovered
      obtain ⟨-, ⟨verdict, inVerdicts, matched⟩, found⟩ :=
        Verdict.any_eq_matched_iff.1 (Verdict.eq_matched_found kindMatch)
      rw [found] at kindCovered
      have covers := kindCovered.concat (List.mem_map_of_mem inVerdicts)
      obtain ⟨values, -, rfl⟩ := List.mem_map.1 inVerdicts
      rw [Query.evaluate_of_all?_eq_some now values combined] at matched covers
      obtain ⟨each, found⟩ := Verdict.all_eq_matched_iff.1 (Verdict.eq_matched_found matched)
      rw [found] at covers
      exact ⟨values, each _ (List.mem_map_of_mem inKind),
        covers.concat (List.mem_map_of_mem (List.mem_map_of_mem inKind))⟩

/-- A match of a compiled policy is told of. -/
theorem Gathers.alerts_ne_nil
    (gathers : compiler.Gathers policy fields added contribution scope)
    (apart : compiler.LinksApart)
    (distinct : compiler.registry.HasDistinctPaths)
    (split : (gated scope contribution.query).split? = some queries)
    {highlights : Highlights}
    (matched : (matcher policyName queries printer).verdict (Query.evaluate now) subjects =
      .matched highlights) :
    contribution.printer.alerts highlights ≠ [] := by
  obtain ⟨isMatch, rfl⟩ := Matcher.verdict_eq_matched_iff.1 matched
  have shown :
      contribution.query.Shown now
        ((matcher policyName queries printer).found now subjects) := by
    intro conjunct member
    apply shown_found gathers.populated split isMatch conjunct
    rw [Query.conjuncts_gated]
    exact List.mem_append_right _ member
  exact Check.alerts_ne_nil gathers.contributed distinct
    (fun group member => gathers.level apart distinct split member) shown

end Compiler

/-- A run does not fail to match while every kind is satisfied. -/
theorem Matcher.exists_not_satisfied
    {now : Calendar.Instant}
    {matcher : Matcher}
    {subjects : Subjects}
    (unmatched : matcher.verdict (Query.evaluate now) subjects = .unmatched) :
    ∃ kind, ¬ matcher.Satisfied now subjects kind := by
  by_contra none
  have satisfied (kind : EntityKind) : matcher.Satisfied now subjects kind := by
    by_contra unsatisfied
    exact none ⟨kind, unsatisfied⟩
  have each (kind : EntityKind) : matcher.kindVerdict now subjects kind ≠ .unmatched := by
    intro kindUnmatched
    have isMatch := (isMatch_kindVerdict_iff (by simp [kindUnmatched])).2 (satisfied kind)
    simp [kindUnmatched] at isMatch
  rw [verdict_eq] at unmatched
  cases process : matcher.kindVerdict now subjects .process with
  | unmatched => exact each .process process
  | fault => simp [process, Verdict.both] at unmatched
  | matched ofProcess =>
      cases deployment : matcher.kindVerdict now subjects .deployment with
      | unmatched => exact each .deployment deployment
      | fault => simp [process, deployment, Verdict.both] at unmatched
      | matched ofDeployment =>
          cases image : matcher.kindVerdict now subjects .image with
          | unmatched => exact each .image image
          | fault => simp [process, deployment, image, Verdict.both] at unmatched
          | matched ofImage => simp [process, deployment, image, Verdict.both] at unmatched

namespace Compiler

/-- A compiled policy is never silent.  It reports nothing exactly when some
predicate of it is not satisfied, and otherwise gives an alert; it fails only
over an age that fits no duration. -/
theorem run_never_silent
    {compiler : Compiler}
    {policy : Policy}
    {matcher : Matcher}
    (distinct : compiler.registry.HasDistinctPaths)
    (known : compiler.IsKnown)
    (compiled : compiler.compile policy = .ok matcher)
    (now : Calendar.Instant)
    (subjects : Subjects) :
    match matcher.run now subjects with
    | .ok violations =>
        (violations = {} ↔ ∃ kind, ¬ matcher.Satisfied now subjects kind) ∧
          (violations ≠ {} → violations.alerts ≠ [])
    | .error error =>
        error = .incomparableAge policy.name ∧ ¬ compiler.AgesFit policy := by
  obtain ⟨fields, added, contribution, scope, queries, gathers, split, rfl⟩ :=
    exists_gathers_of_compile_eq_ok compiled
  obtain ⟨kind, query, present⟩ :=
    exists_predicate policy.name contribution.printer gathers.populated split
  rw [Matcher.run_eq present]
  cases outcome : (Compiler.matcher policy.name queries contribution.printer).verdict
      (Query.evaluate now) subjects with
  | unmatched => simpa using Matcher.exists_not_satisfied outcome
  | fault =>
      refine ⟨rfl, fun fit => ?_⟩
      exact Matcher.verdict_ne_fault
        (gathers.kindVerdict_ne_fault fit split) outcome
  | matched highlights =>
      have told := gathers.alerts_ne_nil known.linksApart distinct split outcome
      have reported :
          ((Compiler.matcher policy.name queries contribution.printer).report subjects
            highlights).alerts ≠ [] := told
      have notEmpty :
          ((Compiler.matcher policy.name queries contribution.printer).report subjects
            highlights).isEmpty = false := by
        simp [Violations.isEmpty, reported]
      have notDefault :
          (Compiler.matcher policy.name queries contribution.printer).report subjects
            highlights ≠ {} := by
        intro empty
        simp [empty] at reported
      have satisfied := fun kind => Matcher.satisfied_of_isMatch
        ((Matcher.verdict_eq_matched_iff.1 outcome).1 kind)
      simp [notEmpty, notDefault, reported, satisfied]

/-- That an image has a layer or a vulnerability, told row by row. -/
def layerOrVulnerability : Compiler where
  registry := .standard
  checks := [.any [.ofLinked .dockerfileLine, .ofLinked .cve]]

theorem isKnown_layerOrVulnerability : layerOrVulnerability.IsKnown := by
  have standardLeaves :
      ∀ check ∈ [LinkedCheck.dockerfileLine, LinkedCheck.cve],
        LeafCheck.linked check ∈ Check.leavesOfAll Check.standard := by
    simp [Check.standard, Check.imageName, Check.component, Check.port, Check.process,
      Check.resources, Check.ofField, Check.ofLinked, Check.leavesOfAll, Check.leaves]
  intro leaf member
  simp only [layerOrVulnerability, Check.ofLinked, Check.leavesOfAll, Check.leaves,
    List.append_nil, List.cons_append, List.nil_append, List.mem_cons, List.not_mem_nil,
    or_false] at member
  rcases member with rfl | rfl
  · exact .inl (standardLeaves _ (.head _))
  · exact .inl (standardLeaves _ (.tail _ (.head _)))

/-- A pattern for each of the two. -/
def portOrVulnerability : Policy where
  name := "exposed"
  fields := some { lineRule := some { instruction := "", value := "443" }, cve := some "1" }

/-- Two images, each of which has one of the two. -/
def exposedOrVulnerable : List Image :=
  [.vulnerable [{ cve := "1", link := "db/1" }, { cve := "2" }],
    { id := "sha256:2"
      metadata := some { layers := [{ instruction := "EXPOSE", value := "443" }] } }]

/-- Images that match in different branches are told of. -/
theorem run_never_silent_of_branches :
    ∃ matcher,
      layerOrVulnerability.compile portOrVulnerability = .ok matcher ∧
      ∃ violations,
        matcher.run Check.newYear { images := exposedOrVulnerable } = .ok violations ∧
          violations ≠ {} ∧ violations.alerts ≠ [] := by
  obtain ⟨matcher, compiled, ran⟩ :=
    @exists_run_of_outcome?_eq_some layerOrVulnerability portOrVulnerability Check.newYear
      { images := exposedOrVulnerable }
      (.ok
        { alerts :=
            [{ message := "Dockerfile Line 'EXPOSE 443' matches the rule  443" },
              { message := "CVE 1 matched regex '1'", link := some "db/1" }] })
      (by decide +kernel)
  have outcome :=
    run_never_silent FieldRegistry.isStandard_standard.hasDistinctPaths
      isKnown_layerOrVulnerability compiled Check.newYear { images := exposedOrVulnerable }
  rw [ran] at outcome
  obtain ⟨-, told⟩ := outcome
  exact ⟨matcher, compiled, _, ran, by simp, told (by simp)⟩

end Compiler
end WorkloadPolicy
